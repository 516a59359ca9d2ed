/-
The names of jars, cut in two ways.

A class path tells the artifact of a jar by the text before the first hyphen that a digit follows (`beforeVersion`). A
package reads the names of its bundled libraries with a pattern. That pattern is tied to both ends of the name, so a
match is a way to cut the name (`Cut`), and since the group of the artifact is lazy it is the way with the shortest
artifact (`of_find?_libraryName`). In names of ASCII letters, digits, `_`, `.` and `-` each hyphen before a digit gives
such a way. So both cut a name at one place, or neither cuts it (`libraryName_artifact`).
-/
import CodeSurvey.Compile.Classpath
import CodeSurvey.Stack.Package
import CodeSurvey.Proofs.Pattern.Repetitions
import CodeSurvey.Proofs.Text.Cutting

namespace CodeSurvey

open Text

namespace Classpath

/-! ## The first hyphen before a digit -/

/-- no hyphen stands before a digit -/
def Whole (cs : List Char) : Prop := ∀ front d back, cs = front ++ '-' :: d :: back → isAsciiDigit d = false

theorem beforeVersion_cons {c : Char} {cs : List Char} (h : c = '-' → ∀ d ∈ cs.head?, isAsciiDigit d = false) :
    beforeVersion (c :: cs) = c :: beforeVersion cs := by
  by_cases hc : c = '-'
  · subst hc
    cases cs with
    | nil => rfl
    | cons d cs => rw [beforeVersion, h rfl d rfl, if_neg Bool.false_ne_true]
  · rw [beforeVersion.eq_3 c cs fun d ds hhyphen _ => hc hhyphen]

/-- The text is cut where the first hyphen stands before a digit. -/
theorem beforeVersion_append {front : List Char} (hfront : Whole front) {d : Char} (hd : isAsciiDigit d = true)
    (back : List Char) : beforeVersion (front ++ '-' :: d :: back) = front := by
  induction front with
  | nil => rw [List.nil_append, beforeVersion, if_pos hd]
  | cons c front ih =>
    have hothers : Whole front := fun front' e back' hsplit => hfront (c :: front') e back' (by rw [hsplit]; rfl)
    rw [List.cons_append, beforeVersion_cons, ih hothers]
    rintro rfl e he
    cases front with
    | nil =>
      obtain rfl : '-' = e := Option.some.inj he
      decide
    | cons e' front =>
      obtain rfl : e' = e := Option.some.inj he
      exact hfront [] e' front rfl

/-- A text that is cut has a hyphen before a digit at the cut. -/
theorem exists_of_beforeVersion_ne {cs : List Char} (h : beforeVersion cs ≠ cs) :
    ∃ d back, cs = beforeVersion cs ++ '-' :: d :: back ∧ isAsciiDigit d = true := by
  fun_induction beforeVersion cs with
  | case1 => exact absurd rfl h
  | case2 d back hd => exact ⟨d, back, rfl, hd⟩
  | case3 d back hd ih =>
    obtain ⟨e, back', hsplit, he⟩ := ih fun hwhole => h (congrArg ('-' :: ·) hwhole)
    exact ⟨e, back', congrArg ('-' :: ·) hsplit, he⟩
  | case4 c cs hother ih =>
    obtain ⟨e, back, hsplit, he⟩ := ih fun hwhole => h (congrArg (c :: ·) hwhole)
    exact ⟨e, back, congrArg (c :: ·) hsplit, he⟩

end Classpath

namespace Package

open Pattern

/-! ## Ways to cut a name -/

/-- may stand in a version behind its first digit -/
def isVersionChar (c : Char) : Bool := isWord c || c == '.' || c == '-'

/-- a digit, and then characters of a version -/
def IsVersion (version : List Char) : Prop :=
  ∃ d more, version = d :: more ∧ isDigit d = true ∧ ∀ c ∈ more, isVersionChar c = true

/-- the name is an artifact, a hyphen, a version and the ending of a jar -/
structure Cut (name artifact version : List Char) : Prop where
  split : name = artifact ++ '-' :: (version ++ ".jar".toList)
  artifact_ne : artifact ≠ []
  oneLine : ∀ c ∈ artifact, except "\n" c = true
  version : IsVersion version

/-- what a shorter artifact leaves of a longer one is read as the hyphen and the start of the version -/
theorem Cut.of_shorter {name artifact shorter version version' : List Char} (h : Cut name artifact version)
    (hshorter : Cut name shorter version') (hlt : shorter.length < artifact.length) :
    ∃ back, artifact = shorter ++ back ∧ back ≠ [] ∧
      back ++ '-' :: (version ++ ".jar".toList) = '-' :: (version' ++ ".jar".toList) := by
  obtain ⟨back, rfl⟩ : shorter <+: artifact :=
    List.prefix_of_prefix_length_le (hshorter.split ▸ List.prefix_append ..) (h.split ▸ List.prefix_append ..)
      (Nat.le_of_lt hlt)
  refine ⟨back, rfl, ?_, ?_⟩
  · rintro rfl
    rw [List.append_nil] at hlt
    exact Nat.lt_irrefl _ hlt
  · rw [← List.append_right_inj shorter, ← List.append_assoc]
    exact h.split.symm.trans hshorter.split

section

variable {β : Type} {k : Cursor → Option β} {b : β} {c : Cursor}

/-- a group that takes a character and then more of them holds these -/
theorem text_upTo_more (c : Cursor) (x : Char) (more rest rest' : List Char) :
    (c.upTo ((c.forward [x] rest).forward more rest')).text = x :: more := by
  rw [Cursor.forward_forward, Cursor.text_upTo_forward, List.singleton_append]

/-- what the pattern asks for behind the artifact -/
def behindArtifact (k : Cursor → Option β) : Cursor → Option β :=
  run (lit "-") (run (group 2 (char isDigit ++ any0 isVersionChar)) (run (lit ".jar") (run textEnd k)))

theorem of_behindArtifact (h : behindArtifact k c = some b) :
    ∃ version d, c.rest = '-' :: (version.text ++ ".jar".toList) ∧ IsVersion version.text ∧
      d.groups = (2, version) :: c.groups ∧ k d = some b := by
  rw [behindArtifact, lit] at h
  obtain ⟨rest, hrest, hversion⟩ := of_run_exactly h
  rw [run_group] at hversion
  obtain ⟨x, rest', hx, hdigit, hmore⟩ := of_run_char hversion
  obtain ⟨more, rest'', hsplit, hchars, hend⟩ := of_run_span hmore
  rw [lit] at hend
  obtain ⟨after, hjar, hlast⟩ := of_run_exactly hend
  obtain ⟨hnone, hk⟩ := exists_of_run_edge hlast
  obtain rfl : after = [] := List.head?_eq_none_iff.1 (Option.isNone_iff_eq_none.1 hnone)
  obtain rfl : rest = x :: rest' := hx
  obtain rfl : rest' = more ++ rest'' := hsplit
  obtain rfl : rest'' = ".jar".toList ++ [] := hjar
  rw [List.append_nil] at hrest
  refine ⟨_, _, ?_, ?_, rfl, hk⟩
  · rw [text_upTo_more]
    exact hrest
  · rw [text_upTo_more]
    exact ⟨x, more, rfl, hdigit, hchars⟩

theorem isSome_jar (hc : c.rest = ".jar".toList) (hk : ∀ d, (k d).isSome = true) :
    (run (lit ".jar") (run textEnd k) c).isSome = true := by
  rw [← List.append_nil ".jar".toList] at hc
  rw [lit, run_exactly hc, textEnd, run_edge rfl]
  exact hk _

/-- a version and the ending are found -/
theorem isSome_behindArtifact {version : List Char} (hversion : IsVersion version)
    (hc : c.rest = '-' :: (version ++ ".jar".toList)) (hk : ∀ d, (k d).isSome = true) :
    (behindArtifact k c).isSome = true := by
  obtain ⟨d, more, rfl, hd, hmore⟩ := hversion
  have hyphen : behindArtifact k c = run (group 2 (char isDigit ++ any0 isVersionChar)) (run (lit ".jar")
      (run textEnd k)) (c.forward "-".toList (d :: (more ++ ".jar".toList))) := run_exactly hc
  rw [hyphen, run_group, run_append, run_char hd (show _ = d :: (more ++ ".jar".toList) from rfl)]
  exact isSome_run_span false hmore rfl (isSome_jar rfl hk)

/-- The run finds the shortest artifact that can be cut off. -/
theorem of_run_artifact (hk : ∀ d, (k d).isSome = true)
    (h : run (group 1 (char (except "\n") ++ span true (except "\n"))) (behindArtifact k) c = some b) :
    ∃ artifact version d, Cut c.rest artifact.text version.text ∧ d.groups = (2, version) :: (1, artifact) :: c.groups ∧
      k d = some b ∧ ∀ shorter version', Cut c.rest shorter version' → artifact.text.length ≤ shorter.length := by
  rw [run_group, run_append] at h
  obtain ⟨x, rest, hname, hx, hspan⟩ := of_run_char h
  obtain ⟨more, rest', hsplit, hmore, hbehind, hvain⟩ := of_run_lazily hspan
  obtain ⟨version, d, hrest, hversion, hgroups, hd⟩ := of_behindArtifact hbehind
  obtain rfl : rest = more ++ rest' := hsplit
  obtain rfl : rest' = '-' :: (version.text ++ ".jar".toList) := hrest
  have hcut : Cut c.rest (x :: more) version.text :=
    ⟨hname, List.cons_ne_nil x more, List.forall_mem_cons.2 ⟨hx, hmore⟩, hversion⟩
  refine ⟨_, version, d, ?_, hgroups, hd, fun shorter version' hshorter => ?_⟩
  · rw [text_upTo_more]
    exact hcut
  · -- behind a shorter artifact the run would have succeeded, and it was tried in vain
    rw [text_upTo_more]
    refine Nat.not_lt.1 fun hlt => ?_
    obtain ⟨back, hback, hne, hrest⟩ := hcut.of_shorter hshorter hlt
    obtain ⟨y, front, rfl⟩ := List.exists_cons_of_ne_nil hshorter.artifact_ne
    obtain rfl : more = front ++ back := (List.cons.inj hback).2
    have hnone := hvain front back rfl hne
    rw [← Option.not_isSome_iff_eq_none] at hnone
    exact hnone (isSome_behindArtifact hshorter.version hrest hk)

theorem isSome_run_artifact {artifact version : List Char} (h : Cut c.rest artifact version)
    (hk : ∀ d, (k d).isSome = true) :
    (run (group 1 (char (except "\n") ++ span true (except "\n"))) (behindArtifact k) c).isSome = true := by
  obtain ⟨x, more, rfl⟩ := List.exists_cons_of_ne_nil h.artifact_ne
  obtain ⟨hx, hmore⟩ := List.forall_mem_cons.1 h.oneLine
  rw [run_group, run_append, run_char hx h.split]
  exact isSome_run_span true hmore rfl (isSome_behindArtifact h.version rfl hk)

end

/-! ## The way that the pattern finds -/

/-- a match starts at the start of the name, or nowhere -/
theorem find?_libraryName (name : String) : libraryName.find? name =
    run (group 1 (char (except "\n") ++ span true (except "\n"))) (behindArtifact fun d => some d.found)
      ⟨none, ⟨0, []⟩, name.toList, []⟩ := by
  have hnone : ∀ x text, libraryName.findFrom (some x) text = none := by
    intro x text
    induction text generalizing x with
    | nil => rfl
    | cons y text ih =>
      rw [findFrom, ih y]
      rfl
  rw [find?]
  cases name.toList with
  | nil => rfl
  | cons x text =>
    rw [findFrom, hnone x text, Option.orElse_eq_or, Option.or_none]
    rfl

/-- **The pattern cuts off the shortest artifact.** -/
theorem of_find?_libraryName {name : String} {m : Match} (h : libraryName.find? name = some m) :
    ∃ artifact version, Cut name.toList artifact version ∧ m.group 1 = String.ofList artifact ∧
      m.group 2 = String.ofList version ∧
      ∀ shorter version', Cut name.toList shorter version' → artifact.length ≤ shorter.length := by
  rw [find?_libraryName] at h
  obtain ⟨artifact, version, d, hcut, hgroups, hm, hshortest⟩ := of_run_artifact (fun _ => rfl) h
  obtain rfl := Option.some.inj hm
  have hgroup : ∀ i, d.found.group i =
      String.ofList (([(2, version.text), (1, artifact.text)] : List (Nat × List Char)).lookup i |>.getD []) := by
    intro i
    simp [Match.group, Match.group?, Cursor.found, hgroups]
  exact ⟨artifact.text, version.text, hcut, hgroup 1, hgroup 2, hshortest⟩

/-- a name that can be cut is one of a library -/
theorem occurs_of_cut {name : String} {artifact version : List Char} (h : Cut name.toList artifact version) :
    libraryName.occurs name = true := by
  rw [occurs, find?_libraryName]
  exact isSome_run_artifact h fun _ => rfl

/-! ## Names of plain characters -/

/-- an ASCII letter or digit, `_`, `.` or `-` -/
def isPlain (c : Char) : Bool := isAsciiAlphanumeric c || c == '_' || c == '.' || c == '-'

theorem isAscii_of_isPlain {c : Char} (h : isPlain c = true) : isAscii c = true := by
  refine decide_eq_true (show c.toNat < 128 from ?_)
  simp only [isPlain, isAsciiAlphanumeric, isAsciiLetter, isAsciiLower, isAsciiUpper, isAsciiDigit, Bool.or_eq_true,
    Bool.and_eq_true, decide_eq_true_eq, beq_iff_eq] at h
  rcases h with ((((⟨-, hz⟩ | ⟨-, hz⟩) | ⟨-, hz⟩) | rfl) | rfl) | rfl
  · exact Nat.lt_of_le_of_lt (UInt32.le_iff_toNat_le.1 hz) (by decide)
  · exact Nat.lt_of_le_of_lt (UInt32.le_iff_toNat_le.1 hz) (by decide)
  · exact Nat.lt_of_le_of_lt (UInt32.le_iff_toNat_le.1 hz) (by decide)
  all_goals decide

theorem isVersionChar_of_isPlain {c : Char} (h : isPlain c = true) : isVersionChar c = true := by
  rw [isVersionChar, isWord_ascii (isAscii_of_isPlain h)]
  exact h

theorem isDigit_of_isPlain {c : Char} (h : isPlain c = true) : isDigit c = isAsciiDigit c :=
  if_pos (isAscii_of_isPlain h)

theorem except_of_isPlain {c : Char} (h : isPlain c = true) : except "\n" c = true := by
  rw [except, Bool.not_eq_true', ← Bool.not_eq_true, List.contains_iff_mem]
  intro hc
  obtain rfl : c = '\n' := by simpa using hc
  exact absurd h (by decide)

section

variable {name : List Char}

/-- each hyphen before a digit is a place where the name can be cut -/
theorem cut_of_hyphen (hplain : ∀ c ∈ name, isPlain c = true) (hstart : name.head? ≠ some '-')
    {front back : List Char} {d : Char} (hd : isAsciiDigit d = true)
    (hsplit : name = front ++ '-' :: (d :: back ++ ".jar".toList)) : Cut name front (d :: back) := by
  have hbehind : ∀ c ∈ d :: back, isPlain c = true := by
    intro c hc
    refine hplain c ?_
    rw [hsplit]
    exact List.mem_append_right front (List.mem_cons_of_mem '-' (List.mem_append_left _ hc))
  obtain ⟨hfirst, hmore⟩ := List.forall_mem_cons.1 hbehind
  refine ⟨hsplit, ?_, fun c hc => ?_, d, back, rfl, ?_, fun c hc => isVersionChar_of_isPlain (hmore c hc)⟩
  · rintro rfl
    exact hstart (by rw [hsplit]; rfl)
  · refine except_of_isPlain (hplain c ?_)
    rw [hsplit]
    exact List.mem_append_left _ hc
  · rw [isDigit_of_isPlain hfirst]
    exact hd

/-- the shortest artifact has no hyphen before a digit, since it could be cut there -/
theorem whole_of_shortest (hplain : ∀ c ∈ name, isPlain c = true) (hstart : name.head? ≠ some '-')
    {artifact version : List Char} (hcut : Cut name artifact version)
    (hshortest : ∀ shorter version', Cut name shorter version' → artifact.length ≤ shorter.length) :
    Classpath.Whole artifact := by
  intro front d back hsplit
  refine Bool.eq_false_iff.2 fun hd => ?_
  have hearlier : Cut name front (d :: (back ++ '-' :: version)) := by
    refine cut_of_hyphen hplain hstart hd ?_
    rw [hcut.split, hsplit]
    simp only [List.append_assoc, List.cons_append]
  have hle := hshortest front _ hearlier
  simp only [hsplit, List.length_append, List.length_cons] at hle
  omega

end

theorem artifact_append (stem : String) :
    Classpath.artifact (stem ++ ".jar") = String.ofList (Classpath.beforeVersion stem.toList) := by
  rw [Classpath.artifact, stripEnd_eq_some_iff.2 rfl, Option.getD_some]

section

variable {stem : String} (hplain : ∀ c ∈ (stem ++ ".jar").toList, isPlain c = true)
  (hstart : (stem ++ ".jar").toList.head? ≠ some '-')

include hplain hstart

/-- a match cuts the stem at its first hyphen before a digit -/
theorem groups_of_find? {m : Match} (h : libraryName.find? (stem ++ ".jar") = some m) :
    m.group 1 = Classpath.artifact (stem ++ ".jar") ∧ m.group 1 ++ "-" ++ m.group 2 = stem := by
  obtain ⟨artifact, version, hcut, hfirst, hsecond, hshortest⟩ := of_find?_libraryName h
  have hstem : stem.toList = artifact ++ '-' :: version := by
    have hsplit := hcut.split
    rw [String.toList_append, ← List.cons_append, ← List.append_assoc] at hsplit
    exact List.append_cancel_right hsplit
  obtain ⟨d, more, rfl, hd, -⟩ := hcut.version
  have hdigit : isAsciiDigit d = true := by
    rw [← isDigit_of_isPlain (hplain d ?_)]
    · exact hd
    · rw [hcut.split]
      exact List.mem_append_right artifact (List.mem_cons_of_mem '-' List.mem_cons_self)
  have hwhole := whole_of_shortest hplain hstart hcut hshortest
  refine ⟨?_, String.toList_inj.1 ?_⟩
  · rw [hfirst, artifact_append, hstem, Classpath.beforeVersion_append hwhole hdigit]
  · rw [hfirst, hsecond, hstem]
    simp

/-- a stem that is cut belongs to a name that the pattern matches -/
theorem occurs_of_artifact_ne (h : Classpath.artifact (stem ++ ".jar") ≠ stem) :
    libraryName.occurs (stem ++ ".jar") = true := by
  rw [artifact_append] at h
  have hne : Classpath.beforeVersion stem.toList ≠ stem.toList :=
    fun hwhole => h (by rw [hwhole, String.ofList_toList])
  obtain ⟨d, back, hsplit, hd⟩ := Classpath.exists_of_beforeVersion_ne hne
  generalize Classpath.beforeVersion stem.toList = front at hsplit
  have hname : (stem ++ ".jar").toList = front ++ '-' :: (d :: back ++ ".jar".toList) := by
    rw [String.toList_append, hsplit, List.append_assoc, List.cons_append]
  exact occurs_of_cut (cut_of_hyphen hplain hstart hd hname)

end

/-- **Both ways cut a name at one place.** Among the names of ASCII letters, digits, `_`, `.` and `-` that start with no
hyphen, the pattern matches just those whose stem is cut. Then its first group is the artifact, and its two groups with
a hyphen between them are the stem. -/
theorem libraryName_artifact {name : String} (hplain : ∀ c ∈ name.toList, isPlain c = true)
    (hjar : endsWith name ".jar" = true) (hstart : startsWith name "-" = false) :
    ∃ stem, name = stem ++ ".jar" ∧
      (libraryName.occurs name = true ↔ Classpath.artifact name ≠ stem) ∧
      ∀ m, libraryName.find? name = some m →
        m.group 1 = Classpath.artifact name ∧ m.group 1 ++ "-" ++ m.group 2 = stem := by
  obtain ⟨stem, rfl⟩ := exists_of_endsWith hjar
  have hhead : (stem ++ ".jar").toList.head? ≠ some '-' := by
    intro hhyphen
    obtain ⟨more, hname⟩ := List.head?_eq_some_iff.1 hhyphen
    rw [startsWith, hname] at hstart
    exact nomatch hstart
  refine ⟨stem, rfl, ⟨fun hoccurs hartifact => ?_, occurs_of_artifact_ne hplain hhead⟩,
    fun m => groups_of_find? hplain hhead⟩
  obtain ⟨m, hm⟩ := Option.isSome_iff_exists.1 hoccurs
  obtain ⟨hfirst, hjoined⟩ := groups_of_find? hplain hhead hm
  rw [hfirst, hartifact] at hjoined
  -- the groups and the hyphen would be no longer than the first group
  have hlength := congrArg String.length hjoined
  rw [String.length_append, String.length_append, show "-".length = 1 from rfl] at hlength
  omega

/-- a name with hyphens before and behind the version, and with the ending twice -/
theorem libraryName_log4j :
    (∀ c ∈ "log4j-1.2-api-2.17.jar.jar".toList, isPlain c = true) ∧
      endsWith "log4j-1.2-api-2.17.jar.jar" ".jar" = true ∧ startsWith "log4j-1.2-api-2.17.jar.jar" "-" = false ∧
      ∃ m, libraryName.find? "log4j-1.2-api-2.17.jar.jar" = some m ∧ m.group 1 = "log4j" ∧
        m.group 1 ++ "-" ++ m.group 2 = "log4j-1.2-api-2.17.jar" := by
  have hplain : ∀ c ∈ "log4j-1.2-api-2.17.jar.jar".toList, isPlain c = true := by decide
  have hjar : endsWith "log4j-1.2-api-2.17.jar.jar" ".jar" = true := by decide
  have hstart : startsWith "log4j-1.2-api-2.17.jar.jar" "-" = false := by decide
  obtain ⟨stem, hname, hoccurs, hgroups⟩ := libraryName_artifact hplain hjar hstart
  obtain rfl : "log4j-1.2-api-2.17.jar" = stem := by
    have hstem : stripEnd "log4j-1.2-api-2.17.jar.jar" ".jar" = some "log4j-1.2-api-2.17.jar" := by decide +kernel
    exact Option.some.inj (hstem.symm.trans (stripEnd_eq_some_iff.2 hname))
  have hartifact : Classpath.artifact "log4j-1.2-api-2.17.jar.jar" = "log4j" := by decide +kernel
  obtain ⟨m, hm⟩ := Option.isSome_iff_exists.1 (hoccurs.2 (by rw [hartifact]; decide))
  obtain ⟨hfirst, hjoined⟩ := hgroups m hm
  exact ⟨hplain, hjar, hstart, m, hm, hfirst.trans hartifact, hjoined⟩

end Package

end CodeSurvey
