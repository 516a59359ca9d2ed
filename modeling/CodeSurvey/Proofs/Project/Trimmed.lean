/-
Paths without what is written behind their last step.

A text between slashes is the same list of parts as the text itself (`joined_split`, `split_joined`), so what a text
means can be read off its marked parts (`componentsOfText_eq`). Parts behind the last step are no steps: cutting them
keeps the steps of a path (`components_trimmed`), and what is left is a front of its text (`trimmed_front`). So a name in
the trimmed directory is found where the name in the directory is (`entry_child_trimmed`).
-/
import CodeSurvey.Proofs.Project.PathBelow
import CodeSurvey.Proofs.Project.Reach
import CodeSurvey.Proofs.Text.Cutting

namespace CodeSurvey.FilePath

open Text

theorem toList_slash : "/".toList = ['/'] := rfl

/-! ## Steps of marked parts -/

/-- what the first part means where it is a step -/
def firstStep (part : String) : Component :=
  if part.isEmpty then .root else if part == "." then .here else if part == ".." then .up else .name part

/-- what marked parts mean -/
def stepsOf : List (String × Bool) → List Component
  | [] => []
  | (first, isStep) :: more => (if isStep then [firstStep first] else []) ++ more.filterMap fun part => component? part.1

theorem componentsOfText_eq (s : String) : componentsOfText s = stepsOf (markedParts s) := by
  obtain ⟨first, more, hsplit⟩ := List.exists_cons_of_ne_nil (split_ne_nil s)
  have hmore : ((marked more).filterMap fun part => component? part.1) = more.filterMap component? := by
    rw [marked, List.filterMap_map]
    rfl
  rw [markedParts_of_split hsplit, stepsOf, hmore, componentsOfText, hsplit]
  cases habsolute : isAbsoluteText s with
  | true =>
    obtain rfl := first_of_absolute habsolute hsplit
    rfl
  | false =>
    by_cases hempty : first = ""
    · subst hempty
      rfl
    · by_cases hhere : first = "."
      · subst hhere
        rfl
      · by_cases hup : first = ".."
        · subst hup
          rfl
        · simp [hempty, hhere, hup, component?, firstStep]

theorem stepsOf_append_gaps {parts gaps : List (String × Bool)} (hne : parts ≠ [])
    (h : ∀ gap ∈ gaps, component? gap.1 = none) : stepsOf (parts ++ gaps) = stepsOf parts := by
  obtain ⟨⟨first, isStep⟩, more, rfl⟩ := List.exists_cons_of_ne_nil hne
  have hgaps : (gaps.filterMap fun part => component? part.1) = [] := List.filterMap_eq_nil_iff.2 h
  rw [List.cons_append, stepsOf, stepsOf, List.filterMap_append, hgaps, List.append_nil]

/-! ## Trimmed paths -/

/-- the parts of a path up to its last step -/
def keptParts (p : FilePath) : List (String × Bool) := ((markedParts p.text).reverse.dropWhile (!·.2)).reverse

/-- the text of the parts up to the last step -/
def keptText (p : FilePath) : String := joined "/" (p.keptParts.map (·.1))

theorem trimmed_eq (p : FilePath) :
    p.trimmed = ofText (if p.keptText.isEmpty && isAbsoluteText p.text then "/" else p.keptText) := rfl

theorem exists_gaps (p : FilePath) : ∃ gaps : List (String × Bool), (∀ gap ∈ gaps, gap.2 = false) ∧
    markedParts p.text = p.keptParts ++ gaps := by
  refine ⟨((markedParts p.text).reverse.takeWhile (!·.2)).reverse, ?_, ?_⟩
  · intro gap hgap
    simpa using List.all_eq_true.1 List.all_takeWhile gap (List.mem_reverse.1 hgap)
  · rw [keptParts, ← List.reverse_append, List.takeWhile_append_dropWhile, List.reverse_reverse]

theorem map_fst_marked (parts : List String) : (marked parts).map (·.1) = parts := by
  rw [marked, List.map_map]
  exact List.map_id parts

theorem map_fst_markedParts (s : String) : (markedParts s).map (·.1) = split s '/' := by
  obtain ⟨first, more, hsplit⟩ := List.exists_cons_of_ne_nil (split_ne_nil s)
  rw [markedParts_of_split hsplit, hsplit, List.map_cons, map_fst_marked]

theorem stepsOf_append_names {parts : List (String × Bool)} {names : List String} (h : ∀ name ∈ names, IsName name) :
    stepsOf (parts ++ names.map fun name => (name, true)) = stepsOf parts ++ names.map .name := by
  have hmore : ∀ names : List String, (∀ name ∈ names, IsName name) →
      ((names.map fun name => (name, true)).filterMap fun part => component? part.1) = names.map .name := by
    intro names hnames
    rw [List.filterMap_map, ← List.filterMap_eq_map]
    exact List.filterMap_congr fun name hname => (hnames name hname).component_eq
  cases parts with
  | cons part parts => simp only [List.cons_append, stepsOf, List.filterMap_append, hmore names h, List.append_assoc]
  | nil =>
    cases names with
    | nil => rfl
    | cons name names =>
      obtain ⟨hname, hnames⟩ := List.forall_mem_cons.1 h
      obtain ⟨hempty, hhere, hup⟩ := hname.ne
      have hfirst : firstStep name = .name name := by simp [firstStep, hempty, hhere, hup]
      simp only [List.map_cons, List.nil_append, stepsOf, if_pos, hmore names hnames, hfirst]
      rfl

/-- The text of a path means its steps. -/
theorem componentsOfText_text {p : FilePath} (h : ∀ name ∈ p.names, IsName name) :
    componentsOfText p.text = p.components := by
  by_cases hne : p.names = []
  · rw [text, components, hne]
    exact (List.append_nil _).symm
  · have hopen : stepsOf (openParts p.head) = componentsOfText p.head := by
      rw [componentsOfText_eq]
      by_cases hempty : p.head = ""
      · rw [hempty]
        decide
      · by_cases hslash : endsWith p.head "/" = true
        · obtain ⟨r, hr⟩ := Text.exists_of_endsWith hslash
          obtain ⟨first, more, hsplit⟩ := List.exists_cons_of_ne_nil (split_ne_nil r)
          rw [hr, openParts_of_slash hsplit, markedParts_of_slash hsplit,
            stepsOf_append_gaps (List.cons_ne_nil _ _) (by simp [component?])]
        · rw [openParts, String.isEmpty_eq_false_iff.2 hempty, Bool.eq_false_iff.2 hslash]
          rfl
    rw [componentsOfText_eq, text, markedParts_foldl p.head h hne, stepsOf_append_names h, hopen, components]

theorem keptParts_ne_nil {p : FilePath} (h : p.text ≠ "") : p.keptParts ≠ [] := by
  intro hnil
  obtain ⟨gaps, hgaps, hparts⟩ := p.exists_gaps
  rw [hnil, List.nil_append] at hparts
  have hcount := countP_markedParts p.text
  rw [hparts, List.countP_eq_zero.2 fun gap hgap => by simp [hgaps gap hgap]] at hcount
  exact h (eq_empty_of_no_steps (List.length_eq_zero_iff.1 hcount.symm))

theorem intercalate_front {front : List (List Char)} (hne : front ≠ []) (back : List (List Char)) :
    ∃ rest, ['/'].intercalate (front ++ back) = ['/'].intercalate front ++ rest := by
  induction front with
  | nil => exact absurd rfl hne
  | cons part front ih =>
    cases front with
    | nil =>
      cases back with
      | nil => exact ⟨[], by simp⟩
      | cons other back =>
        exact ⟨'/' :: ['/'].intercalate (other :: back), by
          rw [List.singleton_append, List.intercalate_cons_cons, List.intercalate_singleton, List.append_assoc]
          rfl⟩
    | cons next front =>
      obtain ⟨rest, hrest⟩ := ih (List.cons_ne_nil _ _)
      rw [List.cons_append] at hrest
      refine ⟨rest, ?_⟩
      rw [List.cons_append, List.cons_append, List.intercalate_cons_cons, hrest, List.intercalate_cons_cons]
      simp only [List.append_assoc]

/-- The parts that are kept are written in front. -/
theorem keptText_front (p : FilePath) : ∃ rest, p.text = p.keptText ++ rest := by
  by_cases hempty : p.text = ""
  · have hkept : p.keptText = "" := by
      unfold keptText keptParts
      rw [hempty]
      decide
    exact ⟨"", by rw [hempty, hkept]; rfl⟩
  · obtain ⟨gaps, -, hparts⟩ := p.exists_gaps
    have hne : (p.keptParts.map (·.1)).map String.toList ≠ [] := by simpa using keptParts_ne_nil hempty
    obtain ⟨rest, hrest⟩ := intercalate_front hne ((gaps.map (·.1)).map String.toList)
    refine ⟨String.ofList rest, String.toList_inj.1 ?_⟩
    rw [String.toList_append, String.toList_ofList, keptText, toList_joined toList_slash, ← hrest, ← List.map_append,
      ← List.map_append, ← hparts, map_fst_markedParts, ← toList_joined toList_slash, joined_split toList_slash]

/-- the parts of a path: those that are kept, and parts behind them that mean nothing -/
theorem exists_kept {p : FilePath} (hempty : p.text ≠ "") :
    ∃ first more gaps, split p.text '/' = first :: (more ++ gaps) ∧
      p.keptParts = (first, if first.isEmpty then isAbsoluteText p.text else true) :: marked more ∧
      ∀ gap ∈ gaps, component? gap = none := by
  obtain ⟨gaps, hgaps, hparts⟩ := p.exists_gaps
  obtain ⟨part, parts, hkept⟩ := List.exists_cons_of_ne_nil (keptParts_ne_nil hempty)
  obtain ⟨first, others, hsplit⟩ := List.exists_cons_of_ne_nil (split_ne_nil p.text)
  rw [markedParts_of_split hsplit, hkept, List.cons_append] at hparts
  obtain ⟨rfl, hothers⟩ := List.cons.inj hparts
  obtain ⟨more, rest, rfl, rfl, rfl⟩ := List.map_eq_append_iff.1 hothers
  refine ⟨first, more, rest, hsplit, hkept, fun gap hgap => ?_⟩
  have hfalse := hgaps _ (List.mem_map_of_mem hgap)
  simpa using hfalse

theorem componentsOfText_eq_kept {p : FilePath} (hempty : p.text ≠ "") :
    componentsOfText p.text = stepsOf p.keptParts := by
  obtain ⟨first, more, gaps, hsplit, hkept, hnone⟩ := exists_kept hempty
  have hgaps : ∀ gap ∈ marked gaps, component? gap.1 = none := by
    intro gap hgap
    obtain ⟨part, hpart, rfl⟩ := List.mem_map.1 hgap
    exact hnone part hpart
  rw [componentsOfText_eq, markedParts_of_split hsplit, marked, List.map_append, ← List.cons_append, ← marked, ← marked,
    ← hkept, stepsOf_append_gaps (keptParts_ne_nil hempty) hgaps]

/-- The text of the parts that are kept has these parts. -/
theorem split_keptText {p : FilePath} (hempty : p.text ≠ "") : split p.keptText '/' = p.keptParts.map (·.1) := by
  obtain ⟨first, more, gaps, hsplit, hkept, -⟩ := exists_kept hempty
  have hparts : p.keptParts.map (·.1) = first :: more := by rw [hkept, List.map_cons, map_fst_marked]
  rw [keptText, hparts]
  refine split_joined toList_slash (List.cons_ne_nil _ _) fun part hpart => ?_
  have hmem : part ∈ split p.text '/' := by
    rw [hsplit]
    exact (List.sublist_append_left (first :: more) gaps).subset hpart
  obtain ⟨cs, hcs, rfl⟩ := List.mem_map.1 hmem
  rw [String.toList_ofList]
  exact fun hslash => absurd (splitBy_closed _ _ cs hcs _ hslash) (by decide)

/-- **Trimming a path keeps its steps.** -/
theorem components_trimmed {p : FilePath} (h : ∀ name ∈ p.names, IsName name) : p.trimmed.components = p.components := by
  have hself (s : String) : (ofText s).components = componentsOfText s := List.append_nil _
  rw [← componentsOfText_text h, trimmed_eq, hself]
  by_cases hempty : p.text = ""
  · unfold keptText keptParts
    rw [hempty]
    decide
  · obtain ⟨first, more, -, -, hkept, -⟩ := exists_kept hempty
    have hclosed := split_keptText hempty
    rw [hkept, List.map_cons, map_fst_marked] at hclosed
    rw [componentsOfText_eq_kept hempty, hkept]
    by_cases hnothing : p.keptText = ""
    · -- only the root, or nothing, is kept
      rw [hnothing] at hclosed ⊢
      obtain ⟨hfirst, hmore⟩ := List.cons.inj ((show split "" '/' = [""] by decide).symm.trans hclosed)
      obtain rfl : first = "" := hfirst.symm
      rw [← hmore]
      cases isAbsoluteText p.text <;> decide
    · obtain ⟨rest, hfront⟩ := p.keptText_front
      have habsolute : isAbsoluteText p.text = isAbsoluteText p.keptText := by
        rw [hfront, isAbsoluteText_append hnothing]
      rw [String.isEmpty_eq_false_iff.2 hnothing, Bool.false_and, if_neg Bool.false_ne_true, componentsOfText_eq,
        markedParts_of_split hclosed, habsolute]

/-- What is kept of a path is a front of its text. -/
theorem trimmed_front (p : FilePath) : ∃ rest, p.text = p.trimmed.text ++ rest := by
  rw [trimmed_eq]
  split
  · rename_i hroot
    obtain ⟨cs, hcs⟩ := List.isPrefixOf_iff_prefix.1 (Bool.and_eq_true_iff.1 hroot).2
    exact ⟨String.ofList cs, String.toList_inj.1 (by rw [String.toList_append, String.toList_ofList]; exact hcs.symm)⟩
  · exact p.keptText_front

theorem text_child (p : FilePath) (name : String) : (p.child name).text = pushText p.text name := by
  rw [text, child, List.foldl_append]
  rfl

theorem components_child (p : FilePath) (name : String) : (p.child name).components = p.components ++ [.name name] := by
  rw [components, components, child, List.map_append, List.append_assoc]
  rfl

theorem pushText_eq (s t : String) : ∃ slash, (slash = "" ∨ slash = "/") ∧ pushText s t = s ++ slash ++ t := by
  unfold pushText
  split
  · exact ⟨"", .inl rfl, by simp⟩
  · exact ⟨"/", .inr rfl, rfl⟩

end CodeSurvey.FilePath

namespace CodeSurvey.Disk

open FilePath (IsName)

theorem requirePath_ok_iff (text : String) :
    requirePath text = .ok () ↔ '\x00' ∉ text.toList ∧ text ≠ "" ∧ text.utf8ByteSize < pathLimit := by
  unfold requirePath
  split
  · rename_i hnul
    simp only [List.contains_eq_mem, decide_eq_true_eq] at hnul
    simp [hnul]
  · rename_i hnul
    simp only [List.contains_eq_mem, decide_eq_true_eq] at hnul
    split
    · rename_i hempty
      simp [String.isEmpty_iff.1 hempty]
    · rename_i hempty
      have hne : text ≠ "" := fun h => hempty (String.isEmpty_iff.2 h)
      split <;> simp_all

/-- A name put behind a front of a text is no longer than the name put behind the text. -/
theorem requirePath_front {s t rest name : String} (hfront : s = t ++ rest) (hname : name ≠ "")
    (h : requirePath (FilePath.pushText s name) = .ok ()) : requirePath (FilePath.pushText t name) = .ok () := by
  by_cases hrest : rest = ""
  · rwa [hfront, hrest, String.append_empty] at h
  · obtain ⟨slash, hslash, hs⟩ := FilePath.pushText_eq s name
    obtain ⟨slash', hslash', ht⟩ := FilePath.pushText_eq t name
    rw [requirePath_ok_iff, hs, hfront] at h
    rw [requirePath_ok_iff, ht]
    obtain ⟨hnul, -, hsize⟩ := h
    refine ⟨fun hmem => ?_, fun hempty => hname ?_, ?_⟩
    · simp only [String.toList_append, List.mem_append, not_or] at hnul hmem
      rcases hmem with (hmem | hmem) | hmem
      · exact hnul.1.1.1 hmem
      · rcases hslash' with rfl | rfl <;> exact absurd hmem (by decide)
      · exact hnul.2 hmem
    · have hparts : (t = "" ∧ slash' = "") ∧ name = "" := by simpa using hempty
      exact hparts.2
    · have hpositive : 0 < rest.utf8ByteSize := Nat.pos_of_ne_zero fun hzero => hrest (by simpa using hzero)
      have hlong : slash'.utf8ByteSize ≤ 1 := by rcases hslash' with rfl | rfl <;> decide
      simp only [String.utf8ByteSize_append] at hsize ⊢
      omega

/-- **A name in the trimmed directory is found where the name in the directory is**, if the longer path can be one. -/
theorem entry_child_trimmed (d : Disk) {p : FilePath} (hnames : ∀ name ∈ p.names, IsName name) {name : String}
    (hname : name ≠ "") (h : requirePath (p.child name).text = .ok ()) :
    d.entry (p.trimmed.child name) = d.entry (p.child name) := by
  obtain ⟨rest, hfront⟩ := p.trimmed_front
  have htrimmed : requirePath (p.trimmed.child name).text = .ok () := by
    rw [FilePath.text_child] at h ⊢
    exact requirePath_front hfront hname h
  have hreach : d.reach (p.trimmed.child name) = d.reach (p.child name) := by
    rw [reach, reach, h, htrimmed, FilePath.components_child, FilePath.components_child,
      FilePath.components_trimmed hnames]
  have hclosed (q : FilePath) : (q.child name).endsOpen = false := by
    simp [FilePath.endsOpen, FilePath.child]
  rw [entry, entry, locate, locate, hreach, hclosed, hclosed]

end CodeSurvey.Disk
