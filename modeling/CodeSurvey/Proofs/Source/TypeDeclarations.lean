/-
Type declarations, and what collapsing blanks leaves of them.

`Declares` says what the pattern of type declarations matches: a type keyword, blanks and a name, the first and the last
as whole words (`Declares.matchHere_eq`, `exists_declares`). The keywords are told apart by their first letters, and the
name goes on to the end of its word, so a place has one declaration at most.

A declaration stands in the collapsed text where it stands in the text, with one space for its blanks, and what comes
before counts only in whether it ends with a word character. So the search finds the same names in the same order
(`nameFrom_collapsed`, an induction over the text). Main statement: `typeName_collapse`.
-/
import CodeSurvey.Proofs.Source.Normalized
import CodeSurvey.Proofs.Trace.Calls

namespace CodeSurvey.Source

open Text

/-! ## What the pattern matches -/

/-- the words that start a type declaration -/
def typeKeywords : List String := ["class", "interface", "enum"]

/-- a type keyword, blanks and a name in turn, the first and the last as whole words -/
structure Declares (lead : Option Char) (keyword gap name after : List Char) : Prop where
  isKeyword : String.ofList keyword ∈ typeKeywords
  start : ∀ c ∈ lead, isWord c = false
  gap_ne : gap ≠ []
  blanks : ∀ c ∈ gap, isBlank c = true
  name_ne : name ≠ []
  word : ∀ c ∈ name, isWord c = true
  stop : ∀ c ∈ after.head?, isWord c = false

/-- what the pattern matches at a declaration -/
def foundType (keyword gap name : List Char) : Match := ⟨keyword ++ (gap ++ name), [(1, name)]⟩

theorem group_foundType (keyword gap name : List Char) :
    (foundType keyword gap name).group 1 = String.ofList name :=
  rfl

theorem run_typeDeclaration {β : Type} (k : Cursor → Option β) (c : Cursor) :
    typeDeclaration.run k c = Pattern.wordEdge.run ((Pattern.oneOf typeKeywords).run (Pattern.blank.run
      ((Pattern.group 1 .word).run k))) c :=
  rfl

theorem head_dropWhile (test : Char → Bool) (cs : List Char) : ∀ c ∈ (cs.dropWhile test).head?, test c = false := by
  intro c hc
  have hfirst := List.head?_dropWhile_not test cs
  rw [Option.mem_def.1 hc] at hfirst
  simpa using hfirst

/-- the keywords are words, told apart by their first letters -/
theorem word_keyword : ∀ s ∈ typeKeywords, ∀ c ∈ s.toList, isWord c = true := by
  have hall : (typeKeywords.all fun s => s.toList.all isWord) = true := by decide +kernel
  exact fun s hs => List.all_eq_true.1 (List.all_eq_true.1 hall s hs)

theorem exists_cons_keyword {s : String} (hs : s ∈ typeKeywords) : ∃ w ws, s.toList = w :: ws ∧ isWord w = true := by
  have hne : ∀ s ∈ typeKeywords, s.toList ≠ [] := by decide
  obtain ⟨w, ws, hspelled⟩ := List.exists_cons_of_ne_nil (hne s hs)
  exact ⟨w, ws, hspelled, word_keyword s hs w (hspelled ▸ List.mem_cons_self)⟩

theorem keyword_unique {s t : String} (hs : s ∈ typeKeywords) (ht : t ∈ typeKeywords) {rest : List Char}
    (h : s.toList <+: t.toList ++ rest) : s = t := by
  have hletters : ∀ s ∈ typeKeywords, ∀ t ∈ typeKeywords, s.toList.head? = t.toList.head? → s = t := by decide
  obtain ⟨c, cs, hc, -⟩ := exists_cons_keyword hs
  obtain ⟨d, ds, hd, -⟩ := exists_cons_keyword ht
  refine hletters s hs t ht ?_
  rw [hc, hd, List.cons_append] at h
  rw [hc, hd, List.head?_cons, List.head?_cons, (List.cons_prefix_cons.1 h).1]

namespace Declares

variable {lead : Option Char} {keyword gap name after : List Char}

theorem word_keyword (h : Declares lead keyword gap name after) : ∀ c ∈ keyword, isWord c = true := by
  have hword := Source.word_keyword _ h.isKeyword
  rwa [String.toList_ofList] at hword

theorem exists_cons (h : Declares lead keyword gap name after) :
    ∃ w ws, keyword = w :: ws ∧ isWord w = true := by
  have hkeyword := exists_cons_keyword h.isKeyword
  rwa [String.toList_ofList] at hkeyword

/-- no blank stands first in what follows the gap -/
theorem head_name (h : Declares lead keyword gap name after) : ∀ c ∈ (name ++ after).head?, isBlank c = false := by
  obtain ⟨w, ws, rfl⟩ := List.exists_cons_of_ne_nil h.name_ne
  exact Tracer.head_mark (Tracer.isBlank_of_isWord (h.word w List.mem_cons_self)) _

/-- **The pattern matches at a declaration.** -/
theorem matchHere_eq (h : Declares lead keyword gap name after) :
    typeDeclaration.matchHere lead (keyword ++ (gap ++ (name ++ after))) = some (foundType keyword gap name) := by
  have hedge : (Pattern.wordAt lead != Pattern.wordAt (keyword ++ (gap ++ (name ++ after))).head?) = true := by
    obtain ⟨w, ws, hkeyword, hw⟩ := h.exists_cons
    rw [hkeyword, List.cons_append, List.head?_cons]
    exact (Tracer.wordEdge_iff hw _).2 h.start
  have hspelled : (String.ofList keyword).toList = keyword := String.toList_ofList
  rw [Pattern.matchHere, run_typeDeclaration, Pattern.wordEdge, Pattern.run_edge hedge]
  refine Pattern.run_oneOf h.isKeyword (by rw [hspelled]) (fun s hs hfront => ?_) ?_
  · rw [← hspelled] at hfront
    exact keyword_unique hs h.isKeyword hfront
  refine Pattern.run_some1 h.gap_ne h.blanks h.head_name rfl ?_
  rw [Pattern.run_group]
  refine Pattern.run_some1 h.name_ne h.word h.stop rfl ?_
  simp only [Cursor.forward_taken, Cursor.forward_groups, Cursor.text_upTo_forward, Taken.pushAll_append,
    Taken.text_pushAll, List.map_cons, List.map_nil, foundType, hspelled]
  simp only [List.append_assoc]

end Declares

/-- **Where the pattern matches there is a declaration.** -/
theorem exists_declares {lead : Option Char} {cs : List Char} {m : Match}
    (h : typeDeclaration.matchHere lead cs = some m) :
    ∃ keyword gap name after, cs = keyword ++ (gap ++ (name ++ after)) ∧ Declares lead keyword gap name after ∧
      m = foundType keyword gap name := by
  have hrun := h
  rw [Pattern.matchHere, run_typeDeclaration] at hrun
  obtain ⟨hedge, hrun⟩ := Pattern.exists_of_run_edge hrun
  obtain ⟨keyword, hkeyword, c₁, h₁, hrun⟩ := Pattern.exists_of_run_oneOf hrun
  obtain ⟨gap, c₂, h₂, hgap, hblanks, hrun⟩ := Pattern.exists_of_run_some1 hrun
  obtain ⟨front, c₃, h₃, hfront, hword, -⟩ := Pattern.exists_of_run_group hrun
  have hcs : cs = keyword.toList ++ (gap ++ c₂.rest) := by rw [← h₂, ← h₁]
  -- the match goes on to the end of the word
  have hname : c₂.rest = c₂.rest.takeWhile isWord ++ c₂.rest.dropWhile isWord := by
    rw [List.takeWhile_append_dropWhile]
  have hdeclares : Declares lead keyword.toList gap (c₂.rest.takeWhile isWord) (c₂.rest.dropWhile isWord) := by
    refine ⟨by rwa [String.ofList_toList], ?_, hgap, hblanks, ?_, fun c hc => ?_, fun c hc => ?_⟩
    · have hdiffer : (Pattern.wordAt lead != Pattern.wordAt cs.head?) = true := hedge
      obtain ⟨w, ws, hspelled, hw⟩ := exists_cons_keyword hkeyword
      rw [hcs, hspelled, List.cons_append, List.head?_cons] at hdiffer
      exact (Tracer.wordEdge_iff hw _).1 hdiffer
    · obtain ⟨w, ws, rfl⟩ := List.exists_cons_of_ne_nil hfront
      rw [h₃, List.cons_append, List.takeWhile_cons_of_pos (hword w List.mem_cons_self)]
      exact List.cons_ne_nil _ _
    · exact List.mem_takeWhile_imp hc
    · exact head_dropWhile isWord _ c hc
  refine ⟨keyword.toList, gap, _, _, by rw [hcs, ← hname], hdeclares, ?_⟩
  rw [hcs, hname, hdeclares.matchHere_eq] at h
  exact (Option.some.inj h).symm

/-- the name that a type declaration at the front of the text gives -/
def nameAt (lead : Option Char) (cs : List Char) : Option String :=
  (typeDeclaration.matchHere lead cs).map (·.group 1)

theorem nameAt_eq_some_iff {lead : Option Char} {cs : List Char} {n : String} :
    nameAt lead cs = some n ↔ ∃ keyword gap name after, cs = keyword ++ (gap ++ (name ++ after)) ∧
      Declares lead keyword gap name after ∧ String.ofList name = n := by
  rw [nameAt, Option.map_eq_some_iff]
  constructor
  · rintro ⟨m, hm, rfl⟩
    obtain ⟨keyword, gap, name, after, hcs, hdeclares, rfl⟩ := exists_declares hm
    exact ⟨keyword, gap, name, after, hcs, hdeclares, (group_foundType keyword gap name).symm⟩
  · rintro ⟨keyword, gap, name, after, rfl, hdeclares, rfl⟩
    exact ⟨_, hdeclares.matchHere_eq, group_foundType keyword gap name⟩

/-! ## Blanks collapsed -/

theorem isBlank_false_of_words {ws : List Char} (h : ∀ c ∈ ws, isWord c = true) : ∀ c ∈ ws, isBlank c = false :=
  fun c hc => Tracer.isBlank_of_isWord (h c hc)

/-- a run of blanks before a word is collapsed to one space -/
theorem collapsed_gap {gap rest : List Char} (hne : gap ≠ []) (hgap : ∀ c ∈ gap, isBlank c = true)
    (hrest : ∀ c ∈ rest.head?, isBlank c = false) (hword : rest ≠ []) :
    collapsed false (gap ++ rest) = ' ' :: collapsed false rest := by
  have htrue : ∀ gap : List Char, (∀ c ∈ gap, isBlank c = true) →
      collapsed true (gap ++ rest) = ' ' :: collapsed false rest := by
    intro gap hgap
    induction gap with
    | nil =>
      obtain ⟨w, ws, rfl⟩ := List.exists_cons_of_ne_nil hword
      have hw : isBlank w = false := hrest w rfl
      rw [List.nil_append, collapsed_word hw, collapsed_false_word hw]
      rfl
    | cons b gap ih =>
      obtain ⟨hb, hgap⟩ := List.forall_mem_cons.1 hgap
      rw [List.cons_append, collapsed_blank hb, ih hgap]
  obtain ⟨b, gap, rfl⟩ := List.exists_cons_of_ne_nil hne
  obtain ⟨hb, hgap⟩ := List.forall_mem_cons.1 hgap
  rw [List.cons_append, collapsed_blank hb, htrue gap hgap]

/-- what stands first in a collapsed text, if it is no blank, stands first in the text -/
theorem head_collapsed {cs : List Char} {c : Char} (hc : isBlank c = false) {rest : List Char}
    (h : collapsed false cs = c :: rest) : ∃ cs', cs = c :: cs' ∧ collapsed false cs' = rest := by
  cases cs with
  | nil => exact nomatch h
  | cons d cs =>
    by_cases hd : isBlank d = true
    · rw [collapsed_blank hd] at h
      rcases collapsed_true cs with hspace | ⟨hempty, -⟩
      · rw [hspace] at h
        obtain rfl := (List.cons.inj h).1
        exact absurd hc (by decide)
      · rw [hempty] at h
        exact nomatch h
    · rw [Bool.not_eq_true] at hd
      rw [collapsed_false_word hd] at h
      obtain ⟨rfl, hrest⟩ := List.cons.inj h
      exact ⟨cs, rfl, hrest⟩

theorem words_of_collapsed {ws : List Char} (hws : ∀ c ∈ ws, isBlank c = false) {cs rest : List Char}
    (h : collapsed false cs = ws ++ rest) : ∃ cs', cs = ws ++ cs' ∧ collapsed false cs' = rest := by
  induction ws generalizing cs with
  | nil => exact ⟨cs, rfl, h⟩
  | cons w ws ih =>
    obtain ⟨hw, hws⟩ := List.forall_mem_cons.1 hws
    obtain ⟨cs, rfl, hothers⟩ := head_collapsed hw h
    obtain ⟨cs', rfl, hrest⟩ := ih hws hothers
    exact ⟨cs', rfl, hrest⟩

/-- the space that a collapsed text starts with stands for a run of blanks -/
theorem gap_of_collapsed {cs : List Char} {b : Char} (hb : isBlank b = true) {rest : List Char}
    (h : collapsed false cs = b :: rest) :
    ∃ gap cs', cs = gap ++ cs' ∧ gap ≠ [] ∧ (∀ c ∈ gap, isBlank c = true) ∧
      (∀ c ∈ cs'.head?, isBlank c = false) ∧ collapsed false cs' = rest := by
  cases cs with
  | nil => exact nomatch h
  | cons d cs =>
    have hd : isBlank d = true := by
      by_contra hd
      rw [Bool.not_eq_true] at hd
      rw [collapsed_false_word hd] at h
      rw [(List.cons.inj h).1, hb] at hd
      exact nomatch hd
    rw [collapsed_blank hd] at h
    rcases collapsed_true cs with hspace | ⟨hempty, -⟩
    · rw [hspace] at h
      refine ⟨d :: cs.takeWhile isBlank, cs.dropWhile isBlank, ?_, List.cons_ne_nil _ _,
        List.forall_mem_cons.2 ⟨hd, fun c hc => List.mem_takeWhile_imp hc⟩, head_dropWhile isBlank cs,
        (List.cons.inj h).2⟩
      rw [List.cons_append, List.takeWhile_append_dropWhile]
    · rw [hempty] at h
      exact nomatch h

/-- a word ends in the collapsed text where it ends in the text -/
theorem stop_collapsed (cs : List Char) :
    (∀ c ∈ (collapsed false cs).head?, isWord c = false) ↔ ∀ c ∈ cs.head?, isWord c = false := by
  constructor
  · intro h c hc
    obtain ⟨rest, rfl⟩ := List.head?_eq_some_iff.1 hc
    rw [← Bool.not_eq_true]
    intro hword
    rw [collapsed_false_word (Tracer.isBlank_of_isWord hword)] at h
    exact absurd hword (by simp [h c rfl])
  · intro h c hc
    obtain ⟨rest, hrest⟩ := List.head?_eq_some_iff.1 hc
    rw [← Bool.not_eq_true]
    intro hword
    obtain ⟨cs', rfl, -⟩ := head_collapsed (Tracer.isBlank_of_isWord hword) hrest
    exact absurd hword (by simp [h c rfl])

/-- **A declaration in the collapsed text is one in the text**, and the other way round. -/
theorem nameAt_collapsed (lead : Option Char) (cs : List Char) : nameAt lead (collapsed false cs) = nameAt lead cs := by
  refine Option.ext fun n => ?_
  rw [nameAt_eq_some_iff, nameAt_eq_some_iff]
  constructor
  · rintro ⟨keyword, gap, name, after, hcs, h, rfl⟩
    obtain ⟨cs, rfl, hbehind⟩ := words_of_collapsed (isBlank_false_of_words h.word_keyword) hcs
    obtain ⟨b, blanks, rfl⟩ := List.exists_cons_of_ne_nil h.gap_ne
    obtain ⟨hb, hblanks⟩ := List.forall_mem_cons.1 h.blanks
    obtain ⟨gap, cs, rfl, hne, hgap, hhead, hname⟩ := gap_of_collapsed hb hbehind
    -- only one blank stands there, since a second one would be collapsed as well
    obtain rfl : blanks = [] := by
      refine List.eq_nil_iff_forall_not_mem.2 fun c hc => ?_
      obtain ⟨d, ds, rfl⟩ := List.exists_cons_of_ne_nil (List.ne_nil_of_mem hc)
      have hd := hblanks d List.mem_cons_self
      obtain ⟨gap', cs', rfl, hne', hgap', -⟩ := gap_of_collapsed hd hname
      obtain ⟨e, es, rfl⟩ := List.exists_cons_of_ne_nil hne'
      exact absurd (hgap' e List.mem_cons_self) (by simp [hhead e rfl])
    obtain ⟨after', rfl, hafter⟩ := words_of_collapsed (isBlank_false_of_words h.word) hname
    have hstop : ∀ c ∈ after'.head?, isWord c = false := (stop_collapsed after').1 (hafter ▸ h.stop)
    exact ⟨keyword, gap, name, after', rfl, ⟨h.isKeyword, h.start, hne, hgap, h.name_ne, h.word, hstop⟩, rfl⟩
  · rintro ⟨keyword, gap, name, after, rfl, h, rfl⟩
    have hname : name ++ after ≠ [] := List.append_ne_nil_of_left_ne_nil h.name_ne after
    have hspace : ∀ c ∈ [' '], isBlank c = true := List.forall_mem_singleton.2 (by decide)
    refine ⟨keyword, [' '], name, collapsed false after, ?_, ⟨h.isKeyword, h.start, List.cons_ne_nil _ _, hspace,
      h.name_ne, h.word, (stop_collapsed after).2 h.stop⟩, rfl⟩
    rw [collapsed_words (isBlank_false_of_words h.word_keyword), collapsed_gap h.gap_ne h.blanks h.head_name hname,
      collapsed_words (isBlank_false_of_words h.word), List.singleton_append]

/-- what stands before counts only in whether it ends with a word character -/
theorem nameAt_lead {lead lead' : Option Char} (h : ∀ c ∈ lead, isWord c = false) (h' : ∀ c ∈ lead', isWord c = false)
    (cs : List Char) : nameAt lead cs = nameAt lead' cs := by
  refine Option.ext fun n => ?_
  rw [nameAt_eq_some_iff, nameAt_eq_some_iff]
  constructor
  · rintro ⟨keyword, gap, name, after, hcs, hd, hn⟩
    exact ⟨keyword, gap, name, after, hcs, { hd with start := h' }, hn⟩
  · rintro ⟨keyword, gap, name, after, hcs, hd, hn⟩
    exact ⟨keyword, gap, name, after, hcs, { hd with start := h }, hn⟩

/-- no declaration starts with a blank -/
theorem nameAt_blank {b : Char} (hb : isBlank b = true) (lead : Option Char) (cs : List Char) :
    nameAt lead (b :: cs) = none := by
  refine Option.eq_none_iff_forall_ne_some.2 fun n hn => ?_
  obtain ⟨keyword, gap, name, after, hcs, h, -⟩ := nameAt_eq_some_iff.1 hn
  obtain ⟨w, ws, rfl, hw⟩ := h.exists_cons
  rw [List.cons_append] at hcs
  rw [(List.cons.inj hcs).1, Tracer.isBlank_of_isWord hw] at hb
  exact nomatch hb

/-- the name in the first type declaration of a text behind a character -/
def nameFrom (lead : Option Char) (cs : List Char) : Option String :=
  (typeDeclaration.findFrom lead cs).map (·.group 1)

theorem nameFrom_cons (lead : Option Char) (c : Char) (cs : List Char) :
    nameFrom lead (c :: cs) = (nameAt lead (c :: cs)).or (nameFrom (some c) cs) := by
  rw [nameFrom, nameFrom, nameAt, Pattern.findFrom]
  cases typeDeclaration.matchHere lead (c :: cs) <;> rfl

theorem nameFrom_nil (lead : Option Char) : nameFrom lead [] = none := by
  have hnone : nameAt lead [] = none := by
    refine Option.eq_none_iff_forall_ne_some.2 fun n hn => ?_
    obtain ⟨keyword, gap, name, after, hcs, h, -⟩ := nameAt_eq_some_iff.1 hn
    obtain ⟨w, ws, rfl, -⟩ := h.exists_cons
    exact nomatch hcs
  exact hnone

theorem nameFrom_blank {b : Char} (hb : isBlank b = true) (lead : Option Char) (cs : List Char) :
    nameFrom lead (b :: cs) = nameFrom (some b) cs := by
  rw [nameFrom_cons, nameAt_blank hb, Option.none_or]

theorem nameFrom_lead {lead lead' : Option Char} (h : ∀ c ∈ lead, isWord c = false)
    (h' : ∀ c ∈ lead', isWord c = false) (cs : List Char) : nameFrom lead cs = nameFrom lead' cs := by
  cases cs with
  | nil => rw [nameFrom_nil, nameFrom_nil]
  | cons c cs => rw [nameFrom_cons, nameFrom_cons, nameAt_lead h h']

/-- A collapsed text has the declarations of the text, in their order: behind any character, and at the start. -/
theorem nameFrom_collapsed (cs : List Char) :
    (∀ lead, nameFrom lead (collapsed false cs) = nameFrom lead cs) ∧ nameFrom none (begun cs) = nameFrom none cs := by
  induction cs with
  | nil => exact ⟨fun _ => rfl, rfl⟩
  | cons c cs ih =>
    by_cases hc : isBlank c = true
    · have hlead : ∀ d ∈ some c, isWord d = false := fun d hd => Option.some.inj hd ▸ isWord_of_isBlank hc
      have hnone : ∀ d ∈ (none : Option Char), isWord d = false := fun d hd => absurd hd (Option.not_mem_none d)
      have hstart : nameFrom (some c) cs = nameFrom none cs := nameFrom_lead hlead hnone cs
      refine ⟨fun lead => ?_, ?_⟩
      · rw [collapsed_blank hc, nameFrom_blank hc, hstart, ← ih.2]
        rcases collapsed_true cs with hspace | ⟨hempty, hbegun⟩
        · rw [hspace, nameFrom_blank (by decide)]
          exact nameFrom_lead (fun d hd => Option.some.inj hd ▸ by decide) hnone _
        · rw [hempty, hbegun, nameFrom_nil, nameFrom_nil]
      · rw [begun_blank hc, nameFrom_blank hc, hstart, ih.2]
    · rw [Bool.not_eq_true] at hc
      have hword : ∀ lead, nameFrom lead (c :: collapsed false cs) = nameFrom lead (c :: cs) := by
        intro lead
        rw [nameFrom_cons, ih.1, ← collapsed_false_word hc, nameAt_collapsed, nameFrom_cons]
      exact ⟨fun lead => by rw [collapsed_false_word hc, hword], by rw [begun_word hc, hword]⟩

/-- **Collapsing blanks changes no name.** -/
theorem typeName_collapse (s : String) : typeName (collapse s) = typeName s := by
  have hname : ∀ cs : List Char, typeName (String.ofList cs) = nameFrom none cs := by
    intro cs
    rw [typeName, Pattern.find?, String.toList_ofList, nameFrom]
  rw [← String.ofList_toList (s := s), collapse_ofList, hname, hname, (nameFrom_collapsed s.toList).2]

end CodeSurvey.Source
