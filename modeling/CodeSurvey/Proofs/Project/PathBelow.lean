/-
The path of a directory from one above it.

A path that was made by going down from another shows, as its text below that one, exactly the names gone down by, with
slashes between them (`textBelow_descend`). This holds for every way in which the upper path is written: with a slash at
its end, with dots or empty parts inside, absolute or not. Parts that are no steps stand in front of the names only, and
each step of the upper path is one marked part of its text (`countP_markedParts`).
-/
import CodeSurvey.Path
import CodeSurvey.Proofs.Text.Cutting

namespace CodeSurvey.FilePath

open Text

/-- what a directory can hold under its own name -/
def IsName (name : String) : Prop := isPlainName name = true ∧ '/' ∉ name.toList

instance (name : String) : Decidable (IsName name) := inferInstanceAs (Decidable (_ ∧ _))

theorem IsName.split_eq {name : String} (h : IsName name) : split name '/' = [name] := by
  have hnone : splitBy (· == '/') name.toList = [name.toList] :=
    splitBy_of_none fun c hc => beq_eq_false_iff_ne.2 fun heq => h.2 (heq ▸ hc)
  simp [split, hnone]

theorem IsName.ne {name : String} (h : IsName name) : name ≠ "" ∧ name ≠ "." ∧ name ≠ ".." := by
  simpa [isPlainName, and_assoc] using h.1

theorem IsName.component_eq {name : String} (h : IsName name) : component? name = some (.name name) := by
  obtain ⟨hempty, hhere, hup⟩ := h.ne
  simp [component?, hempty, hhere, hup]

theorem splitBy_closed {α : Type} (sep : α → Bool) (cs : List α) :
    ∀ part ∈ splitBy sep cs, ∀ c ∈ part, sep c = false := by
  induction cs with
  | nil => simp [splitBy]
  | cons c cs ih =>
    obtain ⟨first, others, hsplit⟩ : ∃ first others, splitBy sep cs = first :: others :=
      List.exists_cons_of_ne_nil (splitBy_ne_nil cs)
    by_cases hc : sep c = true
    · rw [splitBy_sep hc]
      exact List.forall_mem_cons.2 ⟨by simp, ih⟩
    · have hfalse : sep c = false := Bool.eq_false_iff.2 hc
      rw [hsplit] at ih
      obtain ⟨hfirst, hothers⟩ := List.forall_mem_cons.1 ih
      rw [splitBy_cons hfalse hsplit]
      exact List.forall_mem_cons.2 ⟨List.forall_mem_cons.2 ⟨hfalse, hfirst⟩, hothers⟩

/-- What a part between slashes names is a plain name. -/
theorem isName_of_mem_split {s name : String} (h : ∃ part ∈ split s '/', component? part = some (.name name)) :
    IsName name := by
  obtain ⟨part, hpart, hstep⟩ := h
  have hplain : part = name ∧ isPlainName part = true := by
    unfold component? at hstep
    split at hstep
    · cases hstep
    · rename_i hhere
      split at hstep
      · cases hstep
      · rename_i hup
        refine ⟨by simpa using hstep, ?_⟩
        simp only [Bool.or_eq_true, not_or, Bool.not_eq_true] at hhere hup
        simp [isPlainName, hhere.1, bne, hhere.2, hup]
  obtain ⟨cs, hcs, rfl⟩ := List.mem_map.1 hpart
  refine ⟨hplain.1 ▸ hplain.2, hplain.1 ▸ fun hslash => ?_⟩
  rw [String.toList_ofList] at hslash
  exact absurd (splitBy_closed _ _ cs hcs _ hslash) (by decide)

/-! ## Parts of a text -/

/-- the parts behind the first one, marked -/
def marked (parts : List String) : List (String × Bool) := parts.map fun part => (part, (component? part).isSome)

theorem markedParts_of_split {s first : String} {more : List String} (h : split s '/' = first :: more) :
    markedParts s = (first, if first.isEmpty then isAbsoluteText s else true) :: marked more := by
  rw [markedParts, h]
  rfl

theorem split_ne_nil (s : String) : split s '/' ≠ [] := by
  simp [split, splitBy_ne_nil]

theorem split_slash (s t : String) : split (s ++ "/" ++ t) '/' = split s '/' ++ split t '/' := by
  have hlist : (s ++ "/" ++ t).toList = s.toList ++ '/' :: t.toList := by simp
  rw [split, hlist, splitBy_append (by rfl), List.map_append]
  rfl

theorem isAbsoluteText_append {s : String} (h : s ≠ "") (t : String) : isAbsoluteText (s ++ t) = isAbsoluteText s := by
  obtain ⟨c, cs, hs⟩ := List.exists_cons_of_ne_nil (mt String.toList_eq_nil_iff.1 h)
  simp [isAbsoluteText, Text.startsWith, hs, List.isPrefixOf]

/-- the text ends before a name that is put behind it -/
def openParts (s : String) : List (String × Bool) :=
  if s.isEmpty || endsWith s "/" then (markedParts s).dropLast else markedParts s

theorem markedParts_of_slash {s first : String} {more : List String} (h : split s '/' = first :: more) :
    markedParts (s ++ "/") =
      ((first, if first.isEmpty then isAbsoluteText (s ++ "/") else true) :: marked more) ++ [("", false)] := by
  have hsplit : split (s ++ "/") '/' = first :: (more ++ [""]) := by
    have hs : s ++ "/" ++ "" = s ++ "/" := String.append_empty
    rw [← hs, split_slash, h]
    rfl
  rw [markedParts_of_split hsplit, marked, List.map_append, List.cons_append]
  rfl

theorem openParts_of_slash {s first : String} {more : List String} (h : split s '/' = first :: more) :
    openParts (s ++ "/") = (first, if first.isEmpty then isAbsoluteText (s ++ "/") else true) :: marked more := by
  have hopen : endsWith (s ++ "/") "/" = true := by simp [endsWith]
  rw [openParts, hopen, Bool.or_true, if_pos rfl, markedParts_of_slash h, List.dropLast_concat]

/-- **A name put behind a path is one more step of its text.** -/
theorem markedParts_pushText (s : String) {name : String} (h : IsName name) :
    markedParts (pushText s name) = openParts s ++ [(name, true)] := by
  have hname : marked [name] = [(name, true)] := by simp [marked, h.component_eq]
  by_cases hempty : s = ""
  · subst hempty
    have hpush : pushText "" name = name := String.empty_append
    have hopen : openParts "" = [] := by decide
    rw [hpush, hopen, markedParts_of_split h.split_eq, String.isEmpty_eq_false_iff.2 h.ne.1]
    rfl
  · by_cases hslash : endsWith s "/" = true
    · obtain ⟨r, rfl⟩ := exists_of_endsWith hslash
      obtain ⟨first, more, hsplit⟩ := List.exists_cons_of_ne_nil (split_ne_nil r)
      have hpush : pushText (r ++ "/") name = r ++ "/" ++ name := by rw [pushText, hslash, Bool.or_true, if_pos rfl]
      have hpushed : split (r ++ "/" ++ name) '/' = first :: (more ++ [name]) := by
        rw [split_slash, hsplit, h.split_eq, List.cons_append]
      rw [hpush, markedParts_of_split hpushed, isAbsoluteText_append hempty, openParts_of_slash hsplit, marked,
        List.map_append, ← hname, List.cons_append]
      rfl
    · obtain ⟨first, more, hsplit⟩ := List.exists_cons_of_ne_nil (split_ne_nil s)
      have hclosed : (s.isEmpty || endsWith s "/") = false := by
        rw [String.isEmpty_eq_false_iff.2 hempty, Bool.false_or, Bool.eq_false_iff]
        exact hslash
      have hpush : pushText s name = s ++ "/" ++ name := by rw [pushText, hclosed, if_neg Bool.false_ne_true]
      have hpushed : split (s ++ "/" ++ name) '/' = first :: (more ++ [name]) := by
        rw [split_slash, hsplit, h.split_eq, List.cons_append]
      rw [hpush, markedParts_of_split hpushed, String.append_assoc, isAbsoluteText_append hempty, openParts, hclosed,
        if_neg Bool.false_ne_true, markedParts_of_split hsplit, marked, List.map_append, ← hname, List.cons_append]
      rfl

theorem openParts_pushText (s : String) {name : String} (h : IsName name) :
    openParts (pushText s name) = markedParts (pushText s name) := by
  obtain ⟨r, hr⟩ : ∃ r, pushText s name = r ++ name := by
    unfold pushText
    split
    · exact ⟨s, rfl⟩
    · exact ⟨s ++ "/", rfl⟩
  obtain ⟨front, last, hlast⟩ := (List.eq_nil_or_concat name.toList).resolve_left (mt String.toList_eq_nil_iff.1 h.ne.1)
  have hclosed : endsWith (r ++ name) "/" = false := by
    have hne : last ≠ '/' := fun heq => h.2 (by rw [hlast, heq]; simp)
    rw [endsWith, Bool.eq_false_iff, ne_eq, List.isSuffixOf_iff_suffix, String.toList_append, hlast]
    rintro ⟨before, hbefore⟩
    rw [List.concat_eq_append, ← List.append_assoc] at hbefore
    exact hne (List.singleton_inj.1 (List.append_inj' hbefore rfl).2).symm
  have hne : r ++ name ≠ "" := by simp [h.ne.1]
  rw [hr, openParts, hclosed, String.isEmpty_eq_false_iff.2 hne, Bool.or_false, if_neg Bool.false_ne_true]

theorem markedParts_foldl (s : String) {names : List String} (hnames : ∀ name ∈ names, IsName name) (hne : names ≠ []) :
    markedParts (names.foldl pushText s) = openParts s ++ names.map fun name => (name, true) := by
  induction names generalizing s with
  | nil => exact absurd rfl hne
  | cons name names ih =>
    have hname : IsName name := hnames name List.mem_cons_self
    cases names with
    | nil => exact markedParts_pushText s hname
    | cons next names =>
      have hmore : ∀ n ∈ next :: names, IsName n := fun n hn => hnames n (List.mem_cons_of_mem _ hn)
      rw [List.foldl_cons, ih (pushText s name) hmore (List.cons_ne_nil _ _), openParts_pushText s hname,
        markedParts_pushText s hname, List.append_assoc]
      rfl

/-! ## Steps of a text -/

theorem first_of_absolute {s first : String} {more : List String} (h : isAbsoluteText s = true)
    (hsplit : split s '/' = first :: more) : first = "" := by
  obtain ⟨rest, hrest⟩ := List.isPrefixOf_iff_prefix.1 h
  have hlist : s.toList = '/' :: rest := hrest.symm
  rw [split, hlist, splitBy_sep (by rfl), List.map_cons] at hsplit
  exact (List.cons.inj hsplit).1.symm

/-- Each step of a text is one marked part. -/
theorem countP_markedParts (s : String) : (markedParts s).countP (·.2) = (componentsOfText s).length := by
  obtain ⟨first, more, hsplit⟩ := List.exists_cons_of_ne_nil (split_ne_nil s)
  have hmore : (marked more).countP (·.2) = (more.filterMap component?).length := by
    rw [marked, List.countP_map, List.length_filterMap_eq_countP]
    rfl
  rw [markedParts_of_split hsplit, componentsOfText, hsplit, List.countP_cons, hmore]
  dsimp only
  cases habsolute : isAbsoluteText s with
  | true =>
    obtain rfl := first_of_absolute habsolute hsplit
    rfl
  | false =>
    by_cases hempty : first = ""
    · subst hempty
      rfl
    · by_cases hhere : first = "."
      · subst hhere
        rfl
      · obtain ⟨step, hstep⟩ : ∃ step, component? first = some step := by
          unfold component?
          by_cases hup : first = ".." <;> simp [hempty, hhere, hup]
        simp [hempty, hhere, hstep]

theorem eq_empty_of_no_steps {s : String} (h : componentsOfText s = []) : s = "" := by
  cases hlist : s.toList with
  | nil => exact String.toList_eq_nil_iff.1 hlist
  | cons c cs =>
    exfalso
    by_cases hslash : c = '/'
    · have habsolute : isAbsoluteText s = true := by
        simp [isAbsoluteText, Text.startsWith, hlist, hslash, List.isPrefixOf]
      simp [componentsOfText, habsolute] at h
    · obtain ⟨first, others, hrest⟩ := List.exists_cons_of_ne_nil
        (splitBy_ne_nil cs : splitBy (· == '/') cs ≠ [])
      have hother : (fun d => d == '/') c = false := beq_eq_false_iff_ne.2 hslash
      have hcons : splitBy (fun d => d == '/') (c :: cs) = (c :: first) :: others :=
        splitBy_cons (c := c) hother hrest
      have hsplit : split s '/' = String.ofList (c :: first) :: others.map String.ofList := by
        rw [split, hlist]
        exact congrArg (List.map String.ofList) hcons
      have hcount := countP_markedParts s
      rw [h, markedParts_of_split hsplit, List.length_nil, List.countP_eq_zero] at hcount
      simpa using hcount _ List.mem_cons_self

theorem countP_openParts (s : String) : (openParts s).countP (·.2) = (componentsOfText s).length := by
  rw [← countP_markedParts]
  by_cases hempty : s = ""
  · subst hempty
    decide
  · by_cases hslash : endsWith s "/" = true
    · obtain ⟨r, rfl⟩ := exists_of_endsWith hslash
      obtain ⟨first, more, hsplit⟩ := List.exists_cons_of_ne_nil (split_ne_nil r)
      rw [openParts_of_slash hsplit, markedParts_of_slash hsplit, List.countP_append]
      rfl
    · rw [openParts, String.isEmpty_eq_false_iff.2 hempty, Bool.eq_false_iff.2 hslash]
      rfl

theorem afterSteps_append (parts rest : List (String × Bool)) :
    ∃ gaps : List (String × Bool), (∀ gap ∈ gaps, gap.2 = false) ∧
      afterSteps (parts.countP (·.2)) (parts ++ rest) = gaps ++ rest := by
  induction parts with
  | nil => exact ⟨[], by simp, by simp [afterSteps]⟩
  | cons part parts ih =>
    obtain ⟨text, isStep⟩ := part
    cases isStep with
    | true =>
      rw [List.countP_cons_of_pos rfl]
      exact ih
    | false =>
      rw [List.countP_cons_of_neg Bool.false_ne_true]
      cases hcount : parts.countP (·.2) with
      | zero =>
        refine ⟨(text, false) :: parts, ?_, rfl⟩
        rw [List.countP_eq_zero] at hcount
        exact List.forall_mem_cons.2 ⟨rfl, fun gap hgap => by simpa using hcount gap hgap⟩
      | succ n =>
        rw [hcount] at ih
        exact ih

/-- **The text below the upper path is the names gone down by.** -/
theorem textBelow_descend {root : FilePath} {names : List String} (hroot : ∀ name ∈ root.names, IsName name)
    (hnames : ∀ name ∈ names, IsName name) (hne : names ≠ []) :
    (root.descend names).textBelow? root = some (joined "/" names) := by
  have hall : ∀ name ∈ root.names ++ names, IsName name := fun name hname =>
    (List.mem_append.1 hname).elim (hroot name) (hnames name)
  have hcomponents : (root.descend names).components = root.components ++ names.map .name := by
    simp [components, descend]
  have hstarts : (root.descend names).startsWith root = true := by
    rw [startsWith, hcomponents]
    simp
  have hparts : markedParts (root.descend names).text =
      (openParts root.head ++ root.names.map fun name => (name, true)) ++ names.map fun name => (name, true) := by
    rw [text, descend, markedParts_foldl _ hall (by simp [hne]), List.map_append, List.append_assoc]
  have hcount : (openParts root.head ++ root.names.map fun name => (name, true)).countP (·.2) =
      root.components.length := by
    rw [List.countP_append, countP_openParts, components, List.length_append, List.length_map, List.countP_map]
    exact congrArg _ (List.countP_eq_length.2 fun _ _ => rfl)
  obtain ⟨gaps, hgaps, hafter⟩ := afterSteps_append (openParts root.head ++ root.names.map fun name => (name, true))
    (names.map fun name => (name, true))
  rw [hcount, ← hparts] at hafter
  have hrest : (if root.components.isEmpty then gaps ++ names.map fun name => (name, true)
      else (gaps ++ names.map fun name => (name, true)).dropWhile (!·.2)) = names.map fun name => (name, true) := by
    by_cases hempty : root.components = []
    · -- nothing is written of the upper path, so no part stands in front
      obtain ⟨hhead, hrootNames⟩ := List.append_eq_nil_iff.1 hempty
      have hopen : openParts root.head = [] := by rw [eq_empty_of_no_steps hhead]; decide
      rw [hempty, List.length_nil, hparts, hopen, List.map_eq_nil_iff.1 hrootNames] at hafter
      rw [hempty, List.isEmpty_nil, if_pos rfl, ← hafter]
      simp [afterSteps]
    · obtain ⟨name, names, rfl⟩ := List.exists_cons_of_ne_nil hne
      rw [if_neg (by simpa using hempty), List.dropWhile_append_of_pos fun gap hgap => by simp [hgaps gap hgap]]
      rfl
  have htrue : ((names.map fun name => (name, true)).reverse.dropWhile (!·.2)).reverse =
      names.map fun name => (name, true) := by
    have hkept : ((names.map fun name => (name, true)).reverse.dropWhile fun part => !part.2) =
        (names.map fun name => (name, true)).reverse := by
      rw [← List.map_reverse]
      cases names.reverse <;> rfl
    rw [hkept, List.reverse_reverse]
  rw [textBelow?, hstarts, if_pos rfl]
  dsimp only
  have hid : (fun part : String × Bool => part.1) ∘ (fun name => (name, true)) = id := rfl
  rw [hafter, hrest, htrue, List.map_map, hid, List.map_id]

end CodeSurvey.FilePath
