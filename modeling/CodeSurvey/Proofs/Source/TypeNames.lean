/-
The type that a source file declares.

Its name is searched in the normalized text, and so in the text without comments, of which each character has its
origin (`strippedMarks`). There the literals still stand. A `TypeSite` cuts the text at a declaration; it is in code when
all of it stands outside literals. The pattern matches at the sites and nowhere else (`TypeSite.matchAt_place`,
`exists_typeSite`), so `typeName` takes the first site wherever it stands, and `declaredName` the first one in code. Main
statement: `typeName_normalize`, which says exactly when the two are the same.
-/
import CodeSurvey.Proofs.Pattern.Places
import CodeSurvey.Proofs.Source.TypeDeclarations

namespace CodeSurvey.Source

open Text

/-! ## Declarations in the text without comments -/

/-- the text without comments, each character with its origin -/
def strippedMarks (text : String) : List (Char × Origin) := decodeMarked (markedBytes text)

/-- the characters alone -/
def letters (ms : List (Char × Origin)) : List Char := ms.map Prod.fst

theorem letters_append (ms ns : List (Char × Origin)) : letters (ms ++ ns) = letters ms ++ letters ns :=
  List.map_append

theorem letters_strippedMarks (text : String) : letters (strippedMarks text) = (stripComments text).toList := by
  rw [letters, strippedMarks, map_fst_decodeMarked, map_fst_markedBytes, stripComments]

/-- the text, cut at a type declaration -/
structure TypeSite (ms : List (Char × Origin)) where
  before : List (Char × Origin)
  keyword : List (Char × Origin)
  gap : List (Char × Origin)
  name : List (Char × Origin)
  after : List (Char × Origin)
  spelled : before ++ (keyword ++ (gap ++ (name ++ after))) = ms
  declares : Declares (letters before).getLast? (letters keyword) (letters gap) (letters name) (letters after)

namespace TypeSite

variable {ms : List (Char × Origin)}

/-- where the declaration starts -/
def place (s : TypeSite ms) : Nat := s.before.length

/-- the declaration with its origins -/
def taken (s : TypeSite ms) : List (Char × Origin) := s.keyword ++ (s.gap ++ s.name)

/-- all of it stands outside literals -/
def InCode (s : TypeSite ms) : Prop := ∀ m ∈ s.taken, m.2 = .code

/-- the name that is declared -/
def word (s : TypeSite ms) : String := String.ofList (letters s.name)

/-- what the pattern matches at the site -/
def found (s : TypeSite ms) : Match := foundType (letters s.keyword) (letters s.gap) (letters s.name)

theorem group_found (s : TypeSite ms) : s.found.group 1 = s.word := rfl

theorem matchAt_place (s : TypeSite ms) : typeDeclaration.matchAt (letters ms) s.place = some s.found := by
  have hplace : s.place = (letters s.before).length := (List.length_map _).symm
  have hmatch := s.declares.matchHere_eq
  rw [← letters_append, ← letters_append, ← letters_append, ← Pattern.matchAt_length, ← letters_append, s.spelled,
    ← hplace] at hmatch
  exact hmatch

theorem before_taken (s : TypeSite ms) : s.before ++ (s.taken ++ s.after) = ms := by
  refine Eq.trans ?_ s.spelled
  rw [taken, List.append_assoc, List.append_assoc]

theorem drop_place (s : TypeSite ms) : ms.drop s.place = s.taken ++ s.after :=
  (congrArg (List.drop s.place) s.before_taken.symm).trans List.drop_left

/-- the match takes the declaration -/
theorem take_found (s : TypeSite ms) : (ms.drop s.place).take s.found.text.length = s.taken := by
  have hlength : s.found.text.length = s.taken.length := by
    simp [found, foundType, taken, letters]
  rw [hlength, s.drop_place, List.take_left]

theorem taken_ne_nil (s : TypeSite ms) : s.taken ≠ [] := by
  obtain ⟨w, ws, hkeyword, -⟩ := s.declares.exists_cons
  intro hnil
  rw [taken, List.append_eq_nil_iff] at hnil
  rw [hnil.1] at hkeyword
  exact nomatch hkeyword

theorem place_lt (s : TypeSite ms) : s.place < ms.length := by
  have hlength := congrArg List.length s.before_taken
  have hpos := List.length_pos_iff.2 s.taken_ne_nil
  rw [List.length_append, List.length_append] at hlength
  rw [place]
  omega

end TypeSite

/-- **The pattern matches at the sites and nowhere else.** -/
theorem exists_typeSite {ms : List (Char × Origin)} {place : Nat} {m : Match}
    (h : typeDeclaration.matchAt (letters ms) place = some m) : ∃ s : TypeSite ms, s.place = place ∧ m = s.found := by
  obtain ⟨keyword, gap, name, after, hrest, hdeclares, rfl⟩ := exists_declares h
  have hletters : letters (ms.drop place) = keyword ++ (gap ++ (name ++ after)) := by
    rw [← hrest, letters, letters, List.map_drop]
  have hbefore : letters (ms.take place) = (letters ms).take place := List.map_take
  have hplace : (ms.take place).length = place := by
    obtain ⟨w, ws, rfl, -⟩ := hdeclares.exists_cons
    have hlength := congrArg List.length hletters
    rw [letters, List.length_map, List.length_drop, List.cons_append, List.length_cons] at hlength
    rw [List.length_take]
    omega
  obtain ⟨keyword', rest, hspelled, rfl, hgap⟩ := List.map_eq_append_iff.1 hletters
  obtain ⟨gap', rest, rfl, rfl, hname⟩ := List.map_eq_append_iff.1 hgap
  obtain ⟨name', after', rfl, rfl, rfl⟩ := List.map_eq_append_iff.1 hname
  refine ⟨⟨ms.take place, keyword', gap', name', after', ?_, ?_⟩, hplace, rfl⟩
  · rw [← hspelled, List.take_append_drop]
  · rw [hbefore]
    exact hdeclares

/-! ## The first declaration -/

/-- the name at the first of the sites with the property, none if there is no such site -/
inductive FirstName {ms : List (Char × Origin)} (P : TypeSite ms → Prop) : Option String → Prop
  | named (s : TypeSite ms) (h : P s) (first : ∀ s', P s' → s.place ≤ s'.place) : FirstName P (some s.word)
  | nowhere (h : ∀ s, ¬ P s) : FirstName P none

section

variable {ms : List (Char × Origin)} {P : TypeSite ms → Prop}

theorem TypeSite.word_unique {s t : TypeSite ms} (h : s.place = t.place) : s.word = t.word := by
  have hfound : s.found = t.found := Option.some.inj (by rw [← s.matchAt_place, ← t.matchAt_place, h])
  rw [← s.group_found, ← t.group_found, hfound]

theorem FirstName.unique {r r' : Option String} (h : FirstName P r) (h' : FirstName P r') : r = r' := by
  cases h with
  | named s hs hfirst =>
    cases h' with
    | named t ht hfirst' => rw [TypeSite.word_unique (Nat.le_antisymm (hfirst t ht) (hfirst' s hs))]
    | nowhere hnone => exact absurd hs (hnone s)
  | nowhere hnone =>
    cases h' with
    | named t ht _ => exact absurd ht (hnone t)
    | nowhere _ => rfl

/-- The first name of all is the first one with the property, if the site it stands at has the property, or if both
sites name the same. -/
theorem FirstName.eq_iff {r r' : Option String} (h : FirstName (fun _ : TypeSite ms => True) r) (h' : FirstName P r') :
    r = r' ↔ ∀ s : TypeSite ms, (∀ s' : TypeSite ms, s.place ≤ s'.place) → P s ∨ r' = some s.word := by
  constructor
  · rintro rfl s hs
    exact .inr (h.unique (.named s trivial fun s' _ => hs s'))
  · intro hall
    cases h with
    | named s _ hfirst =>
      rcases hall s fun s' => hfirst s' trivial with hP | hsame
      · exact (FirstName.named s hP fun s' _ => hfirst s' trivial).unique h'
      · exact hsame.symm
    | nowhere hnone => exact (FirstName.nowhere fun s _ => hnone s trivial).unique h'

/-- the first place at which a site with the property is found -/
theorem firstName_of_places {f : Nat → Option String} {bound : Nat} (hbound : ms.length ≤ bound)
    (hsite : ∀ s, P s → f s.place = some s.word)
    (hfound : ∀ i n, f i = some n → ∃ s, P s ∧ s.place = i ∧ s.word = n) :
    FirstName P ((List.range bound).findSome? f) := by
  cases hname : (List.range bound).findSome? f with
  | none =>
    refine .nowhere fun s hs => ?_
    have hmem : s.place ∈ List.range bound := List.mem_range.2 (Nat.lt_of_lt_of_le s.place_lt hbound)
    have hnone := List.findSome?_eq_none_iff.1 hname s.place hmem
    rw [hsite s hs] at hnone
    exact nomatch hnone
  | some n =>
    obtain ⟨i, -, hi, hbefore⟩ := (Pattern.findSome?_range n).1 hname
    obtain ⟨s, hs, rfl, rfl⟩ := hfound i n hi
    refine .named s hs fun s' hs' => Nat.le_of_not_lt fun hlt => ?_
    have hnone := hbefore s'.place hlt
    rw [hsite s' hs'] at hnone
    exact nomatch hnone

end

/-- the name in the type declaration at a place, if all of it stands outside literals -/
def declaredAt (ms : List (Char × Origin)) (place : Nat) : Option String :=
  (typeDeclaration.matchAt (letters ms) place).bind fun m =>
    if ((ms.drop place).take m.text.length).all (·.2 == .code) then some (m.group 1) else none

/-- the name in the first type declaration that stands outside comments and literals -/
def declaredName (text : String) : Option String :=
  (List.range (strippedMarks text).length).findSome? (declaredAt (strippedMarks text))

theorem firstName_declaredName (text : String) :
    FirstName (TypeSite.InCode : TypeSite (strippedMarks text) → Prop) (declaredName text) := by
  refine firstName_of_places (Nat.le_refl _) (fun s hs => ?_) (fun i n hn => ?_)
  · have hcode : s.taken.all (·.2 == .code) = true := List.all_eq_true.2 fun m hm => beq_iff_eq.2 (hs m hm)
    rw [declaredAt, s.matchAt_place, Option.bind_some, s.take_found, if_pos hcode, s.group_found]
  · obtain ⟨m, hm, hcode⟩ := Option.bind_eq_some_iff.1 hn
    obtain ⟨s, rfl, rfl⟩ := exists_typeSite hm
    rw [s.take_found, Option.ite_none_right_eq_some, s.group_found] at hcode
    obtain ⟨hall, hword⟩ := hcode
    exact ⟨s, fun m hm => beq_iff_eq.1 (List.all_eq_true.1 hall m hm), rfl, Option.some.inj hword⟩

/-- the search takes the first declaration wherever it stands -/
theorem firstName_typeName (text : String) :
    FirstName (fun _ : TypeSite (strippedMarks text) => True) (typeName (normalize text)) := by
  have hname : typeName (normalize text) = (List.range ((strippedMarks text).length + 1)).findSome? fun place =>
      (typeDeclaration.matchAt (letters (strippedMarks text)) place).map (·.group 1) := by
    rw [normalize, typeName_collapse, typeName, Pattern.find?_eq, ← letters_strippedMarks, List.map_findSome?, letters,
      List.length_map]
    rfl
  rw [hname]
  refine firstName_of_places (Nat.le_succ _) (fun s _ => ?_) (fun i n hn => ?_)
  · rw [s.matchAt_place, Option.map_some, s.group_found]
  · obtain ⟨m, hm, hword⟩ := Option.map_eq_some_iff.1 hn
    obtain ⟨s, rfl, rfl⟩ := exists_typeSite hm
    exact ⟨s, trivial, rfl, hword⟩

/-- **The name of a file is the one it declares** exactly when the first declaration that its text spells, in code or
within a literal, stands in code or names the same type. -/
theorem typeName_normalize (text : String) :
    FirstName (fun _ : TypeSite (strippedMarks text) => True) (typeName (normalize text)) ∧
    FirstName (TypeSite.InCode : TypeSite (strippedMarks text) → Prop) (declaredName text) ∧
    (typeName (normalize text) = declaredName text ↔ ∀ s : TypeSite (strippedMarks text),
      (∀ s' : TypeSite (strippedMarks text), s.place ≤ s'.place) → s.InCode ∨ declaredName text = some s.word) := by
  have hfirst := firstName_typeName text
  have hdeclared := firstName_declaredName text
  exact ⟨hfirst, hdeclared, hfirst.eq_iff hdeclared⟩

/-- a keyword within a literal, with no word behind it there, and a declaration in code -/
def mentionedText : String := "/* enum A */ @Api(\"a class\") public class  Bar \x7b \x7d"

theorem typeName_mentioned :
    typeName (normalize mentionedText) = some "Bar" ∧ ∀ s : TypeSite (strippedMarks mentionedText),
      (∀ s' : TypeSite (strippedMarks mentionedText), s.place ≤ s'.place) →
        s.InCode ∨ declaredName mentionedText = some s.word := by
  obtain ⟨-, -, hiff⟩ := typeName_normalize mentionedText
  have hname : typeName (normalize mentionedText) = some "Bar" := by decide +kernel
  have hdeclared : declaredName mentionedText = some "Bar" := by decide +kernel
  exact ⟨hname, hiff.1 (hname.trans hdeclared.symm)⟩

/-- a declaration that an annotation's argument spells, before the one in code -/
def spokenText : String := "@Api(\"the class Foo\") class Bar \x7b \x7d"

/-- A name that a literal spells is taken for the declared one. -/
theorem typeName_spoken :
    typeName (normalize spokenText) = some "Foo" ∧
      FirstName (TypeSite.InCode : TypeSite (strippedMarks spokenText) → Prop) (some "Bar") := by
  have hdeclared : declaredName spokenText = some "Bar" := by decide +kernel
  exact ⟨by decide +kernel, hdeclared ▸ firstName_declaredName spokenText⟩

end CodeSurvey.Source
