/-
Lines of a build script behind `//`.

`commented` puts `//` before the chosen lines of a script, and `emptied` leaves nothing of them. A line declares a
dependency only with what stands before `//`, so the two have dependencies of the same names. Everything else is looked
for in the whole text, where a line behind `//` counts like any other, and an emptied line is a blank that a match may
go over. `commented_emptied` says what holds then: the parts of the summaries are the same for which no reader touches a
chosen line in either version; the dependencies' versions hang on the variables alone. `commented_oldLevel` is a script
whose language version comes from a line behind `//`.
-/
import CodeSurvey.Proofs.Pattern.Readers
import CodeSurvey.Proofs.Project.PathBelow
import CodeSurvey.Proofs.Text.Cutting
import CodeSurvey.Stack.BuildScript

namespace CodeSurvey

/-! ## The keys of a table -/

namespace Ordered

theorem mem_keys_ofList {κ α : Type} [LT κ] [OrderedKey κ] [DecidableEq κ] [BEq κ] [LawfulBEq κ] [DecidableLT κ]
    (es : List (κ × α)) (k : κ) : k ∈ (ofList es).keys ↔ k ∈ es.map (·.1) := by
  rw [mem_keys_iff, ← Option.isSome_iff_exists, get?_ofList, Option.isSome_map, List.getLast?_isSome]
  simp [List.filter_eq_nil_iff]

/-- Tables made of pairs with the same names have the same keys. -/
theorem keys_ofList_congr {α β : Type} {es : List (String × α)} {fs : List (String × β)}
    (h : es.map (·.1) = fs.map (·.1)) : (ofList es).keys = (ofList fs).keys := by
  have hsame : (ofList es).map (fun _ => ()) = (ofList fs).map fun _ => () := by
    refine NameSet.ext_toList fun name => ?_
    rw [NameSet.toList, NameSet.toList, keys_map, keys_map, mem_keys_ofList, mem_keys_ofList, h]
  rw [← keys_map (ofList es) fun _ => (), hsame, keys_map]

end Ordered

namespace BuildScript

open Text
open FilePath (splitBy_closed)

/-! ## Two versions of a script -/

/-- what is left of a line without its text -/
def returnOf (line : List Char) : List Char := if line.getLast? = some '\r' then ['\r'] else []

/-- a line; if it is chosen, the old version has it behind `//` and the new one nothing of it -/
def scriptLine (chosen : Bool) (line : List Char) : VersionedLine where
  chosen := chosen
  content := fun v =>
    if chosen then
      match v with
      | .old => '/' :: '/' :: line
      | .new => returnOf line
    else line
  same := by
    rintro rfl _ _
    rfl

/-- the lines of a script, the chosen ones given by their numbers -/
def scriptLines (script : String) (chosen : Nat → Bool) : List VersionedLine :=
  (splitBy (· == '\n') script.toList).zipIdx.map fun l => scriptLine (chosen l.2) l.1

def versionOf (v : Version) (script : String) (chosen : Nat → Bool) : String :=
  String.ofList ((VersionedLine.text v (scriptLines script chosen)).map (·.1))

/-- the script with `//` before the chosen lines -/
def commented (script : String) (chosen : Nat → Bool) : String := versionOf .old script chosen

/-- the script with the chosen lines empty -/
def emptied (script : String) (chosen : Nat → Bool) : String := versionOf .new script chosen

theorem scriptLines_ne_nil (script : String) (chosen : Nat → Bool) : scriptLines script chosen ≠ [] := by
  simp [scriptLines, splitBy_ne_nil]

theorem exists_line {script : String} {chosen : Nat → Bool} {l : VersionedLine} (h : l ∈ scriptLines script chosen) :
    ∃ b line, l = scriptLine b line ∧ '\n' ∉ line := by
  obtain ⟨⟨line, i⟩, hmem, rfl⟩ := List.mem_map.1 h
  refine ⟨chosen i, line, rfl, fun hfeed => ?_⟩
  exact absurd (splitBy_closed _ _ line (List.fst_mem_of_mem_zipIdx hmem) '\n' hfeed) (by decide)

theorem splitBy_versionOf (v : Version) (script : String) (chosen : Nat → Bool) :
    splitBy (· == '\n') (versionOf v script chosen).toList = (scriptLines script chosen).map (·.content v) := by
  rw [versionOf, String.toList_ofList, VersionedLine.map_fst_text]
  refine splitBy_intercalate (by simpa using scriptLines_ne_nil script chosen) fun content hcontent => ?_
  obtain ⟨l, hl, rfl⟩ := List.mem_map.1 hcontent
  obtain ⟨b, line, rfl, hline⟩ := exists_line hl
  cases b with
  | false => exact hline
  | true =>
    cases v with
    | old => simpa [scriptLine] using hline
    | new =>
      show '\n' ∉ returnOf line
      unfold returnOf
      split <;> simp

/-! ## Dependencies -/

theorem exists_dropReturn_remark (line : List Char) :
    ∃ line', dropReturn ('/' :: '/' :: line) = '/' :: '/' :: line' := by
  cases line with
  | nil => exact ⟨[], rfl⟩
  | cons c cs =>
    by_cases hlast : ('/' :: '/' :: c :: cs).getLast? = some '\r'
    · exact ⟨(c :: cs).dropLast, by rw [dropReturn, hlast, if_pos (beq_self_eq_true _)]; rfl⟩
    · exact ⟨c :: cs, dropReturn_of_last hlast⟩

/-- nothing of a line behind `//` declares a dependency -/
theorem dependencyOfLine?_remark (declared : Ordered String String) (line : List Char) :
    dependencyOfLine? declared ('/' :: '/' :: line) = none :=
  rfl

theorem dependencyOfLine?_nil (declared : Ordered String String) : dependencyOfLine? declared [] = none := rfl

theorem dependencyOfLine?_return (declared : Ordered String String) : dependencyOfLine? declared ['\r'] = none := rfl

/-- **A chosen line declares no dependency, in either version**, whether its carriage return counts as its end or not. -/
theorem dependencyOfLine?_chosen (declared : Ordered String String) (line : List Char) (v : Version) :
    dependencyOfLine? declared ((scriptLine true line).content v) = none ∧
      dependencyOfLine? declared (dropReturn ((scriptLine true line).content v)) = none := by
  cases v with
  | old =>
    obtain ⟨line', hline⟩ := exists_dropReturn_remark line
    have hcontent : (scriptLine true line).content .old = '/' :: '/' :: line := rfl
    rw [hcontent, hline]
    exact ⟨dependencyOfLine?_remark declared line, dependencyOfLine?_remark declared line'⟩
  | new =>
    have hcontent : (scriptLine true line).content .new = returnOf line := rfl
    rw [hcontent, returnOf]
    split
    · exact ⟨dependencyOfLine?_return declared, dependencyOfLine?_nil declared⟩
    · exact ⟨dependencyOfLine?_nil declared, dependencyOfLine?_nil declared⟩

/-- the dependencies that the lines of a script declare -/
def declaredIn (declared : Ordered String String) (script : String) : List (String × String) :=
  (lines script.toList).filterMap (dependencyOfLine? declared)

theorem dependencies_eq (script : String) : dependencies script = .ofList (declaredIn (declarations script) script) := rfl

theorem declaredIn_versionOf (declared : Ordered String String) (v : Version) {script : String} {chosen : Nat → Bool}
    {front : List VersionedLine} {last : VersionedLine} (h : scriptLines script chosen = front ++ [last]) :
    declaredIn declared (versionOf v script chosen) =
      front.filterMap (fun l => dependencyOfLine? declared (dropReturn (l.content v))) ++
        (dependencyOfLine? declared (last.content v)).toList := by
  have hsplit := splitBy_versionOf v script chosen
  rw [h, List.map_append, List.map_singleton] at hsplit
  rw [declaredIn, lines_of_split hsplit, List.filterMap_append, List.map_map, List.filterMap_map]
  refine congrArg (front.filterMap _ ++ ·) ?_
  by_cases hlast : last.content v = []
  · rw [if_pos hlast, hlast, dependencyOfLine?_nil]
    rfl
  · rw [if_neg hlast, List.filterMap_cons, List.filterMap_nil]
    cases dependencyOfLine? declared (last.content v) <;> rfl

/-- **With the same variables the two versions of a script declare the same dependencies.** -/
theorem declaredIn_eq (declared : Ordered String String) (script : String) (chosen : Nat → Bool) (v w : Version) :
    declaredIn declared (versionOf v script chosen) = declaredIn declared (versionOf w script chosen) := by
  have hline : ∀ l ∈ scriptLines script chosen,
      dependencyOfLine? declared (l.content v) = dependencyOfLine? declared (l.content w) ∧
        dependencyOfLine? declared (dropReturn (l.content v)) =
          dependencyOfLine? declared (dropReturn (l.content w)) := by
    intro l hl
    obtain ⟨b, line, rfl, -⟩ := exists_line hl
    cases b with
    | false => exact ⟨rfl, rfl⟩
    | true =>
      obtain ⟨hv, hvDropped⟩ := dependencyOfLine?_chosen declared line v
      obtain ⟨hw, hwDropped⟩ := dependencyOfLine?_chosen declared line w
      exact ⟨hv.trans hw.symm, hvDropped.trans hwDropped.symm⟩
  obtain ⟨front, last, hlines⟩ :=
    (List.eq_nil_or_concat' (scriptLines script chosen)).resolve_left (scriptLines_ne_nil script chosen)
  rw [hlines] at hline
  rw [declaredIn_versionOf declared v hlines, declaredIn_versionOf declared w hlines,
    (hline last (by simp)).1, List.filterMap_congr fun l hl => (hline l (List.mem_append_left _ hl)).2]

theorem map_fst_dependency? (declared declared' : Ordered String String) (coordinate : String) :
    (dependency? declared coordinate).map (·.1) = (dependency? declared' coordinate).map (·.1) := by
  rw [dependency?, dependency?]
  split <;> rfl

/-- The variables have no part in which dependencies a script has. -/
theorem map_fst_declaredIn (declared declared' : Ordered String String) (script : String) :
    (declaredIn declared script).map (·.1) = (declaredIn declared' script).map (·.1) := by
  rw [declaredIn, declaredIn, List.map_filterMap, List.map_filterMap]
  refine List.filterMap_congr fun line _ => ?_
  rw [dependencyOfLine?, dependencyOfLine?]
  cases dependencyLine.find? (String.ofList (dropRemark line)) with
  | none => rfl
  | some m => exact map_fst_dependency? declared declared' (m.group 1)

/-! ## Variables -/

/-- the declaration of a variable, behind the blanks at the start of its line -/
def declarationCore : Pattern :=
  .opt (.lit "set(" ++ .gap) ++ .opt quoteMark ++ .group 1 .word ++ .opt quoteMark ++ .gap
    ++ .anyOf "=," ++ .gap ++ quoteMark ++ .group 2 (.some1 (Pattern.except "\x27\"\n")) ++ quoteMark

theorem not_isBlank_of_quoteMark {c : Char} (h : "\x27\"".toList.contains c = true) : isBlank c = false := by
  obtain rfl | rfl : c = '\x27' ∨ c = '"' := by simpa using h
  all_goals decide

theorem run_declarationCore {β : Type} (k : Cursor → Option β) (c : Cursor) :
    declarationCore.run k c = Pattern.run (.opt (.lit "set(" ++ .gap)) (Pattern.run (.opt quoteMark)
      (Pattern.run (.group 1 (.some1 isWord)) (Pattern.run (.opt quoteMark) (Pattern.run .gap
        (Pattern.run (.anyOf "=,") (Pattern.run .gap (Pattern.run quoteMark
          (Pattern.run (.group 2 (.some1 (Pattern.except "\x27\"\n"))) (Pattern.run quoteMark k))))))))) c :=
  rfl

theorem starts_declarationCore {text : List Char} {m : Match} (h : declarationCore.matchHere none text = some m) :
    ∃ c cs, text = c :: cs ∧ isBlank c = false := by
  rw [Pattern.matchHere, run_declarationCore] at h
  rcases Pattern.exists_of_run_opt h with hset | ⟨-, h⟩
  · obtain ⟨d, htext, -⟩ := Pattern.exists_of_run_exactly hset
    exact ⟨'s', _, htext, by decide⟩
  · rcases Pattern.exists_of_run_opt h with hquote | ⟨-, h⟩
    · obtain ⟨c, d, htext, hc, -⟩ := Pattern.exists_of_run_char hquote
      exact ⟨c, d.rest, htext, not_isBlank_of_quoteMark hc⟩
    · obtain ⟨word, d, htext, hne, hword, -⟩ := Pattern.exists_of_run_group h
      obtain ⟨c, cs, rfl⟩ := List.exists_cons_of_ne_nil hne
      exact ⟨c, cs ++ d.rest, htext, Tracer.isBlank_of_isWord (hword c List.mem_cons_self)⟩

theorem lineLed_variableLine : variableLine.LineLed declarationCore where
  runs := fun _ _ => rfl
  free := rfl
  starts := starts_declarationCore
  ends := by
    intro text m h
    obtain ⟨c, hlast, hc⟩ := Pattern.getLast?_of_char h
    exact ⟨c, hlast, not_isBlank_of_quoteMark hc⟩

/-- the variables that some matches declare -/
def declaredBy (ms : List Match) : Ordered String String := .ofList (ms.map fun m => (m.group 1, m.group 2))

theorem declaredBy_congr {ms ms' : List Match} (h : ms.map (·.groups) = ms'.map (·.groups)) :
    declaredBy ms = declaredBy ms' := by
  have hpairs (ms : List Match) : (ms.map fun m => (m.group 1, m.group 2)) =
      (ms.map (·.groups)).map fun groups => (Match.group ⟨[], groups⟩ 1, Match.group ⟨[], groups⟩ 2) := by
    rw [List.map_map]
    rfl
  rw [declaredBy, declaredBy, hpairs, hpairs, h]

theorem declarations_eq (script : String) :
    declarations script = declaredBy ((Reader.atLines variableLine).found script.toList) :=
  declaredBy_congr (Reader.groups_findAllFrom lineLed_variableLine none script.toList)

/-! ## What the readers of a script spare -/

section

variable (script : String) (chosen : Nat → Bool)

/-- no declaration of a variable touches a chosen line -/
def SparedByVariables : Prop := (Reader.atLines variableLine).Spares (scriptLines script chosen)

/-- the first match for the pattern touches no chosen line -/
def SparedBy (p : Pattern) : Prop := (Reader.first p).Spares (scriptLines script chosen)

/-- the language version comes from no chosen line; the second pattern counts only where the first one has no match -/
def SparedByLanguage : Prop :=
  SparedBy script chosen sourceLevel ∧
    (sourceLevel.occurs (commented script chosen) = false → SparedBy script chosen toolchain)

/-- the runtime version comes from no chosen line -/
def SparedByRuntime : Prop :=
  SparedBy script chosen runtimePlugin ∧
    (runtimePlugin.occurs (commented script chosen) = false → SparedBy script chosen runtimeCoordinate)

instance : Decidable (SparedByVariables script chosen) :=
  inferInstanceAs (Decidable ((Reader.atLines variableLine).Spares _))

instance (p : Pattern) : Decidable (SparedBy script chosen p) := inferInstanceAs (Decidable ((Reader.first p).Spares _))

instance : Decidable (SparedByLanguage script chosen) := inferInstanceAs (Decidable (_ ∧ (_ → _)))

instance : Decidable (SparedByRuntime script chosen) := inferInstanceAs (Decidable (_ ∧ (_ → _)))

end

section

variable {script : String} {chosen : Nat → Bool}

theorem toList_versionOf (v : Version) : (versionOf v script chosen).toList =
    (VersionedLine.text v (scriptLines script chosen)).map (·.1) :=
  String.toList_ofList

theorem find?_eq {p : Pattern} (hp : p.Sought) (h : SparedBy script chosen p) :
    p.find? (commented script chosen) = p.find? (emptied script chosen) := by
  rw [Reader.find?_eq hp, Reader.find?_eq hp, commented, emptied, toList_versionOf, toList_versionOf,
    Reader.found_eq h .old .new]

/-- of two patterns the second one counts only where the first one has no match -/
theorem find?_or_eq {p q : Pattern} (hp : p.Sought) (hq : q.Sought) (h : SparedBy script chosen p)
    (hother : p.occurs (commented script chosen) = false → SparedBy script chosen q) :
    (p.find? (commented script chosen)).or (q.find? (commented script chosen)) =
      (p.find? (emptied script chosen)).or (q.find? (emptied script chosen)) := by
  rw [← find?_eq hp h]
  cases hfirst : p.find? (commented script chosen) with
  | some m => rw [Option.some_or, Option.some_or]
  | none =>
    have hnone : p.occurs (commented script chosen) = false := by
      rw [Pattern.occurs, hfirst]
      rfl
    rw [Option.none_or, Option.none_or, find?_eq hq (hother hnone)]

theorem sought_sourceLevel : sourceLevel.Sought :=
  ⟨by decide +kernel, Option.isNone_iff_eq_none.1 (by decide +kernel)⟩

theorem sought_toolchain : toolchain.Sought :=
  ⟨by decide +kernel, Option.isNone_iff_eq_none.1 (by decide +kernel)⟩

theorem sought_runtimePlugin : runtimePlugin.Sought :=
  ⟨by decide +kernel, Option.isNone_iff_eq_none.1 (by decide +kernel)⟩

theorem sought_runtimeCoordinate : runtimeCoordinate.Sought :=
  ⟨by decide +kernel, Option.isNone_iff_eq_none.1 (by decide +kernel)⟩

theorem keys_dependencies :
    (dependencies (commented script chosen)).keys = (dependencies (emptied script chosen)).keys := by
  refine Ordered.keys_ofList_congr ?_
  show (declaredIn _ _).map (·.1) = (declaredIn _ _).map (·.1)
  rw [map_fst_declaredIn _ (declarations (emptied script chosen)), commented, emptied, declaredIn_eq _ _ _ .old .new]

theorem dependencies_eq_of_spared (h : SparedByVariables script chosen) :
    dependencies (commented script chosen) = dependencies (emptied script chosen) := by
  have hdeclared : declarations (commented script chosen) = declarations (emptied script chosen) := by
    rw [declarations_eq, declarations_eq, commented, emptied, toList_versionOf, toList_versionOf,
      Reader.found_eq h .old .new]
  rw [dependencies_eq, dependencies_eq, hdeclared, commented, emptied, declaredIn_eq _ _ _ .old .new]

theorem languageVersion_eq_of_spared (h : SparedByLanguage script chosen) :
    languageVersion (commented script chosen) = languageVersion (emptied script chosen) := by
  rw [languageVersion, languageVersion, find?_or_eq sought_sourceLevel sought_toolchain h.1 h.2]

theorem runtimeVersion_eq_of_spared (h : SparedByRuntime script chosen) :
    runtimeVersion (commented script chosen) = runtimeVersion (emptied script chosen) := by
  rw [runtimeVersion, runtimeVersion, find?_or_eq sought_runtimePlugin sought_runtimeCoordinate h.1 h.2]

end

/-- **Lines behind `//` count like empty ones where no reader touches them.** Which dependencies there are does not even
hang on that, and of a summary each part hangs on its own readers alone. -/
theorem commented_emptied (script : String) (chosen : Nat → Bool) :
    (dependencies (commented script chosen)).keys = (dependencies (emptied script chosen)).keys ∧
      (SparedByVariables script chosen →
        dependencies (commented script chosen) = dependencies (emptied script chosen)) ∧
      (SparedByLanguage script chosen →
        languageVersion (commented script chosen) = languageVersion (emptied script chosen)) ∧
      (SparedByRuntime script chosen →
        runtimeVersion (commented script chosen) = runtimeVersion (emptied script chosen)) ∧
      (SparedByVariables script chosen → SparedByLanguage script chosen → SparedByRuntime script chosen →
        summarize (commented script chosen) = summarize (emptied script chosen)) := by
  refine ⟨keys_dependencies, dependencies_eq_of_spared, languageVersion_eq_of_spared, runtimeVersion_eq_of_spared, ?_⟩
  intro hvariables hlanguage hruntime
  rw [summarize, summarize, dependencies_eq_of_spared hvariables, languageVersion_eq_of_spared hlanguage,
    runtimeVersion_eq_of_spared hruntime]

/-- a script with an old variable and an old dependency -/
def shopScript : String :=
  "lib=\x272\x27\n lib=\x271\x27\nsourceCompatibility=17\napi \x27g:a:$lib\x27\r\napi \x27g:b:$lib\x27"

/-- the lines of the old variable and of the old dependency -/
def shopChosen (line : Nat) : Bool := line == 1 || line == 3

theorem commented_emptied_shop :
    SparedByVariables shopScript shopChosen ∧ SparedByLanguage shopScript shopChosen ∧
      SparedByRuntime shopScript shopChosen ∧
      summarize (commented shopScript shopChosen) = summarize (emptied shopScript shopChosen) ∧
      (summarize (emptied shopScript shopChosen)).languageVersion = some "17" ∧
      (summarize (emptied shopScript shopChosen)).dependencies.entries = [("g:b", "2")] := by
  have hvariables : SparedByVariables shopScript shopChosen := by decide +kernel
  have hlanguage : SparedByLanguage shopScript shopChosen := by decide +kernel
  have hruntime : SparedByRuntime shopScript shopChosen := by decide +kernel
  exact ⟨hvariables, hlanguage, hruntime, (commented_emptied shopScript shopChosen).2.2.2.2 hvariables hlanguage hruntime,
    by decide +kernel, by decide +kernel⟩

/-- a script with two language levels -/
def levelScript : String := "sourceCompatibility=1.8\nsourceCompatibility=17"

/-- **A language level behind `//` is read**, and before the one that is meant. -/
theorem commented_oldLevel :
    commented levelScript (· == 0) = "//sourceCompatibility=1.8\nsourceCompatibility=17" ∧
      emptied levelScript (· == 0) = "\nsourceCompatibility=17" ∧
      (summarize (commented levelScript (· == 0))).languageVersion = some "1.8" ∧
      (summarize (emptied levelScript (· == 0))).languageVersion = some "17" := by
  refine ⟨?_, ?_, ?_, ?_⟩ <;> decide +kernel

end BuildScript

end CodeSurvey
