/-
Placeholders of a project description.

A text is cut into single characters and placeholders, from the left and as early as one can start (`Cut`, `cut_parts`).
Resolving it puts in the place of each placeholder the value of its name, or leaves it as written, and keeps all other
characters (`toList_resolve`). It does so once: a value is not resolved in turn. So a resolved text holds a placeholder
exactly if the value put in for one of its placeholders does (`holds_resolved_iff`), for values that make no placeholder
together with what stands around them (`Sealed`). The induction is over the parts; that none is made of a character and
what follows it is where `Sealed` is used.

`summarize_placeholders` says it of all versions of a summary. A property that is defined by another one is therefore
not enough: `summarize_chain` is a description without a cycle whose summary has a placeholder for a defined name.
-/
import Mathlib.Data.List.TakeWhile
import CodeSurvey.Proofs.Pattern.Replacing
import CodeSurvey.Proofs.Stack.PomSummary
import CodeSurvey.Proofs.Trace.Calls

namespace CodeSurvey

open Text Xml
open Tracer (head_mark)

namespace Pom

/-! ## Parts of a text -/

/-- a name that a placeholder may have -/
def IsName (name : List Char) : Prop := name ≠ [] ∧ '}' ∉ name

instance (name : List Char) : Decidable (IsName name) := inferInstanceAs (Decidable (_ ∧ _))

/-- the placeholder of a name -/
def written (name : List Char) : List Char := '$' :: '{' :: (name ++ ['}'])

theorem written_append (name rest : List Char) : written name ++ rest = '$' :: '{' :: (name ++ '}' :: rest) := by
  simp [written]

inductive Part where
  | char (c : Char)
  | placeholder (name : List Char)
  deriving DecidableEq, Repr

/-- the name of the placeholder that a text starts with -/
def nameAt? : List Char → Option (List Char)
  | '$' :: '{' :: rest =>
    let name := rest.takeWhile (· != '}')
    if name ≠ [] ∧ name ≠ rest then some name else none
  | _ => none

/-- the parts of a text after its first `skip` characters -/
def partsFrom : (skip : Nat) → List Char → List Part
  | _, [] => []
  | skip + 1, _ :: rest => partsFrom skip rest
  | 0, c :: rest =>
    match nameAt? (c :: rest) with
    | some name => .placeholder name :: partsFrom (name.length + 2) rest
    | none => .char c :: partsFrom 0 rest

def parts (text : List Char) : List Part := partsFrom 0 text

/-- the parts of a text: a placeholder wherever one starts, else a character -/
inductive Cut : List Char → List Part → Prop where
  | nil : Cut [] []
  | placeholder {name rest : List Char} {ps : List Part} (hname : IsName name) (h : Cut rest ps) :
    Cut (written name ++ rest) (.placeholder name :: ps)
  | char {c : Char} {rest : List Char} {ps : List Part} (hfree : ∀ name, IsName name → ¬ written name <+: c :: rest)
    (h : Cut rest ps) : Cut (c :: rest) (.char c :: ps)

theorem nameAt?_written {name : List Char} (h : IsName name) (rest : List Char) :
    nameAt? (written name ++ rest) = some name := by
  have hkept : ∀ c ∈ name, (c != '}') = true := fun c hc => bne_iff_ne.2 (ne_of_mem_of_not_mem hc h.2)
  have hname : (name ++ '}' :: rest).takeWhile (· != '}') = name := by
    rw [List.takeWhile_append_of_pos hkept]
    simp
  rw [written_append, nameAt?, hname]
  exact if_pos ⟨h.1, by simp⟩

theorem of_nameAt? {text name : List Char} (h : nameAt? text = some name) : IsName name ∧ written name <+: text := by
  unfold nameAt? at h
  split at h
  · rename_i rest
    obtain ⟨⟨hne, hrest⟩, hname⟩ := Option.ite_none_right_eq_some.1 h
    obtain rfl := Option.some.inj hname
    have hclosed : rest.takeWhile (· != '}') ++ rest.dropWhile (· != '}') = rest := List.takeWhile_append_dropWhile
    have hname : '}' ∉ rest.takeWhile (· != '}') := fun hmem => absurd (List.mem_takeWhile_imp hmem) (by decide)
    refine ⟨⟨hne, hname⟩, ?_⟩
    cases hdrop : rest.dropWhile (· != '}') with
    | nil =>
      rw [hdrop, List.append_nil] at hclosed
      exact absurd hclosed hrest
    | cons c back =>
      have hc : (c != '}') = false := by
        have := List.head?_dropWhile_not (· != '}') rest
        rwa [hdrop] at this
      obtain rfl : c = '}' := by simpa using hc
      rw [hdrop] at hclosed
      exact ⟨back, by rw [written_append, hclosed]⟩
  · cases h

theorem partsFrom_skip (front rest : List Char) : partsFrom front.length (front ++ rest) = parts rest := by
  induction front with
  | nil => cases rest <;> rfl
  | cons c front ih => exact ih

theorem parts_written {name : List Char} (h : IsName name) (rest : List Char) :
    parts (written name ++ rest) = .placeholder name :: parts rest := by
  have hhead : nameAt? ('$' :: ('{' :: name ++ ['}'] ++ rest)) = some name := nameAt?_written h rest
  have hsplit : written name ++ rest = '$' :: ('{' :: name ++ ['}'] ++ rest) := rfl
  have hlength : name.length + 2 = ('{' :: name ++ ['}']).length := by simp
  rw [parts, hsplit, partsFrom, hhead]
  exact congrArg (Part.placeholder name :: ·) (hlength ▸ partsFrom_skip _ rest)

theorem parts_char {c : Char} {rest : List Char} (h : nameAt? (c :: rest) = none) :
    parts (c :: rest) = .char c :: parts rest := by
  rw [parts, partsFrom, h]
  rfl

/-- **Every text is cut into its parts.** -/
theorem cut_parts (text : List Char) : Cut text (parts text) := by
  induction hlength : text.length using Nat.strong_induction_on generalizing text with
  | _ n ih =>
    subst hlength
    cases text with
    | nil => exact .nil
    | cons c rest =>
      cases hname : nameAt? (c :: rest) with
      | none =>
        rw [parts_char hname]
        refine .char (fun name h hfront => ?_) (ih _ (by simp) rest rfl)
        obtain ⟨back, hback⟩ := hfront
        rw [← hback, nameAt?_written h] at hname
        cases hname
      | some name =>
        obtain ⟨h, back, hback⟩ := of_nameAt? hname
        rw [← hback, parts_written h]
        refine .placeholder h (ih _ ?_ back rfl)
        rw [← hback]
        simp [written]
        omega

theorem Cut.dollar_mem {text name : List Char} {ps : List Part} (h : Cut text ps) (hmem : .placeholder name ∈ ps) :
    '$' ∈ text := by
  induction h with
  | nil => cases hmem
  | placeholder => simp [written]
  | char _ _ ih =>
    rcases List.mem_cons.1 hmem with hhere | hbehind
    · cases hhere
    · exact List.mem_cons_of_mem _ (ih hbehind)

/-! ## Resolving -/

theorem run_placeholder {β : Type} (k : Cursor → Option β) (c : Cursor) :
    Pattern.run placeholder k c = Pattern.run (.exactly ['$', '{'])
      (Pattern.run (.group 1 (.some1 (Pattern.except "\x7d"))) (Pattern.run (.exactly ['}']) k)) c :=
  rfl

theorem except_brace (c : Char) : Pattern.except "\x7d" c = (c != '}') := by
  by_cases h : c = '}'
  · subst h; rfl
  · simp [Pattern.except, h]

theorem forall_except {name : List Char} (h : '}' ∉ name) : ∀ c ∈ name, Pattern.except "\x7d" c = true := by
  intro c hc
  rw [except_brace]
  exact bne_iff_ne.2 (ne_of_mem_of_not_mem hc h)

theorem matchHere_written {name : List Char} (h : IsName name) (rest : List Char) :
    placeholder.matchHere none (written name ++ rest) = some ⟨written name, [(1, name)]⟩ := by
  rw [Pattern.matchHere, run_placeholder, written_append, Pattern.run_exactly rfl, Pattern.run_group]
  refine Pattern.run_some1 h.1 (forall_except h.2) (head_mark (by decide) rest) rfl ?_
  rw [Pattern.run_exactly rfl]
  simp only [Cursor.forward_taken, Cursor.forward_groups, Taken.pushAll_append, Taken.text_pushAll, List.map_cons,
    Cursor.text_upTo_forward, List.map_nil]
  rfl

theorem exists_of_matchHere {lead : Option Char} {text : List Char} {m : Match}
    (h : placeholder.matchHere lead text = some m) : ∃ name, IsName name ∧ written name <+: text := by
  rw [Pattern.matchHere, run_placeholder] at h
  obtain ⟨c₁, htext, h⟩ := Pattern.exists_of_run_exactly h
  obtain ⟨name, c₂, hname, hne, hinner, h⟩ := Pattern.exists_of_run_group h
  obtain ⟨c₃, hclosing, -⟩ := Pattern.exists_of_run_exactly h
  have hbrace : '}' ∉ name := fun hmem => absurd (hinner _ hmem) (by decide)
  refine ⟨name, ⟨hne, hbrace⟩, c₃.rest, ?_⟩
  rw [written_append]
  exact (htext.trans (congrArg (['$', '{'] ++ ·) (hname.trans (congrArg (name ++ ·) hclosing)))).symm

theorem of_value? {p : Pom} {name value : String} (h : p.value? name = some value) :
    p.version = some value ∨ p.parent.version = some value ∨ p.properties.get? name = some value := by
  unfold value? at h
  split at h
  · exact .inl h
  · split at h
    · exact .inr (.inl h)
    · exact .inr (.inr h)

/-- what stands for a part in a resolved text -/
def shown (p : Pom) : Part → List Char
  | .char c => [c]
  | .placeholder name => ((p.value? (String.ofList name)).map String.toList).getD (written name)

theorem shown_of_value (p : Pom) {name : List Char} {value : String} (h : p.value? (String.ofList name) = some value) :
    p.shown (.placeholder name) = value.toList := by
  rw [shown, h]
  rfl

theorem shown_of_none (p : Pom) {name : List Char} (h : p.value? (String.ofList name) = none) :
    p.shown (.placeholder name) = written name := by
  rw [shown, h]
  rfl

theorem flatMap_shown_char (p : Pom) (c : Char) (ps : List Part) :
    (Part.char c :: ps).flatMap p.shown = c :: ps.flatMap p.shown :=
  rfl

/-- **Resolving replaces the placeholders that have a value, once, and nothing else.** -/
theorem toList_resolve (p : Pom) (text : String) : (p.resolve text).toList = (parts text.toList).flatMap p.shown := by
  rw [resolve, Pattern.replaceAll, String.toList_ofList]
  have hcut := cut_parts text.toList
  generalize text.toList = cs, parts text.toList = ps at hcut ⊢
  induction hcut with
  | nil => rfl
  | @placeholder name rest ps hname _ ih =>
    rw [Pattern.replaceAllFrom_match rfl _ (matchHere_written hname rest) rfl (List.cons_ne_nil _ _), ih,
      List.flatMap_cons, shown]
    congr 1
    show ((p.value? (String.ofList name)).getD (String.ofList (written name))).toList = _
    cases p.value? (String.ofList name) with
    | none => exact String.toList_ofList
    | some value => rfl
  | @char c rest ps hfree _ ih =>
    have hnone : placeholder.matchHere none (c :: rest) = none := by
      refine Option.eq_none_iff_forall_ne_some.2 fun m hm => ?_
      obtain ⟨name, hname, hfront⟩ := exists_of_matchHere hm
      exact hfree name hname hfront
    rw [Pattern.replaceAllFrom_other rfl _ hnone, ih, flatMap_shown_char]
/-! ## Placeholders that remain -/

/-- the text holds the placeholder of the name -/
def Holds (text name : List Char) : Prop := IsName name ∧ written name <:+: text

theorem Holds.mono {text text' name : List Char} (h : Holds text name) (hheld : text <:+: text') : Holds text' name :=
  ⟨h.1, h.2.trans hheld⟩

/-- the end of the text is the beginning of a placeholder -/
def BreaksOff (text : List Char) : Prop :=
  ∃ begun more name, IsName name ∧ begun ≠ [] ∧ more ≠ [] ∧ begun <:+ text ∧ begun ++ more = written name

theorem not_breaksOff_of_not_mem {text : List Char} (h : '$' ∉ text) : ¬ BreaksOff text := by
  rintro ⟨begun, more, name, -, hbegun, -, hsuffix, hwritten⟩
  obtain ⟨c, begun, rfl⟩ := List.exists_cons_of_ne_nil hbegun
  obtain rfl : c = '$' := (List.cons.inj hwritten).1
  exact h (hsuffix.subset List.mem_cons_self)

/-- what ends with a closing brace breaks off no placeholder -/
theorem not_breaksOff_of_getLast? {text : List Char} (h : text.getLast? = some '}') : ¬ BreaksOff text := by
  rintro ⟨begun, more, name, hname, hbegun, hmore, ⟨front, rfl⟩, hwritten⟩
  obtain ⟨most, hmost⟩ := List.getLast?_eq_some_iff.1 h
  have hlast : begun.getLast? = some '}' := by rwa [List.getLast?_append_of_ne_nil front hbegun] at h
  obtain ⟨inner, rfl⟩ := List.getLast?_eq_some_iff.1 hlast
  -- all of a placeholder but its last character has no closing brace
  have hinit : (written name).dropLast = '$' :: '{' :: name := by
    rw [written, ← List.cons_append, ← List.cons_append, List.dropLast_concat]
  rw [← hwritten, List.dropLast_append_of_ne_nil hmore] at hinit
  have hmem : '}' ∈ '$' :: '{' :: name := by
    rw [← hinit]
    simp
  simp [hname.2] at hmem

theorem not_breaksOff_written (name : List Char) : ¬ BreaksOff (written name) :=
  not_breaksOff_of_getLast? (by rw [written, ← List.cons_append, ← List.cons_append, List.getLast?_concat])

/-- A placeholder stands in one of two texts that follow each other, unless the first one breaks off within it. -/
theorem holds_append_iff {text rest name : List Char} (h : ¬ BreaksOff text) :
    Holds (text ++ rest) name ↔ Holds text name ∨ Holds rest name := by
  constructor
  · rintro ⟨hname, front, back, hsplit⟩
    rw [List.append_assoc] at hsplit
    rcases List.append_eq_append_iff.1 hsplit with ⟨middle, htext, hrest⟩ | ⟨middle, -, hrest⟩
    · rcases List.append_eq_append_iff.1 hrest with ⟨begun, hmiddle, -⟩ | ⟨more, hwritten, hback⟩
      · exact .inl ⟨hname, front, begun, by rw [htext, hmiddle, List.append_assoc]⟩
      · by_cases hmiddle : middle = []
        · refine .inr ⟨hname, [], back, ?_⟩
          rw [List.nil_append, hwritten, hmiddle, List.nil_append, hback]
        · by_cases hmore : more = []
          · refine .inl ⟨hname, front, [], ?_⟩
            rw [List.append_nil, hwritten, hmore, List.append_nil, htext]
          · exact absurd ⟨middle, more, name, hname, hmiddle, hmore, ⟨front, htext.symm⟩, hwritten.symm⟩ h
    · exact .inr ⟨hname, middle, back, by rw [hrest, List.append_assoc]⟩
  · rintro (hholds | hholds)
    · exact hholds.mono (List.prefix_append text rest).isInfix
    · exact hholds.mono (List.suffix_append text rest).isInfix

/-- a value that makes no placeholder together with what stands around it -/
structure Sealed (value : List Char) : Prop where
  nonempty : value ≠ []
  head : value.head? ≠ some '{'
  ends : ¬ BreaksOff value

/-- the values put in for the placeholders among the parts are sealed -/
def SealedIn (p : Pom) (ps : List Part) : Prop :=
  ∀ name value, .placeholder name ∈ ps → p.value? (String.ofList name) = some value → Sealed value.toList

theorem SealedIn.tail {p : Pom} {x : Part} {ps : List Part} (h : p.SealedIn (x :: ps)) : p.SealedIn ps :=
  fun name value hmem => h name value (List.mem_cons_of_mem x hmem)

theorem not_breaksOff_shown {p : Pom} {ps : List Part} (h : p.SealedIn ps) {name : List Char}
    (hmem : .placeholder name ∈ ps) : ¬ BreaksOff (p.shown (.placeholder name)) := by
  cases hvalue : p.value? (String.ofList name) with
  | none =>
    rw [shown_of_none p hvalue]
    exact not_breaksOff_written name
  | some value =>
    rw [shown_of_value p hvalue]
    exact (h name value hmem hvalue).ends

/-- what is shown of a placeholder does not start with an opening brace -/
theorem head_shown {p : Pom} {ps : List Part} (h : p.SealedIn ps) {name : List Char}
    (hmem : .placeholder name ∈ ps) (rest : List Char) : (p.shown (.placeholder name) ++ rest).head? ≠ some '{' := by
  cases hvalue : p.value? (String.ofList name) with
  | none =>
    rw [shown_of_none p hvalue, written_append, List.head?_cons]
    decide
  | some value =>
    rw [shown_of_value p hvalue]
    have hsealed := h name value hmem hvalue
    obtain ⟨c, cs, hcons⟩ := List.exists_cons_of_ne_nil hsealed.nonempty
    have hhead := hsealed.head
    rw [hcons] at hhead ⊢
    exact hhead

/-- a text without closing braces has no placeholders, so it is shown as it is -/
theorem flatMap_shown_of_not_mem (p : Pom) {text : List Char} {ps : List Part} (hcut : Cut text ps) (h : '}' ∉ text) :
    ps.flatMap p.shown = text := by
  induction hcut with
  | nil => rfl
  | placeholder => simp [written] at h
  | @char c rest ps _ _ ih => rw [flatMap_shown_char, ih (List.not_mem_of_not_mem_cons h)]

theorem Cut.char_of_ne {c : Char} {text rest : List Char} {ps : List Part} (h : Cut text ps) (htext : text = c :: rest)
    (hc : c ≠ '$') : ∃ ps', ps = .char c :: ps' := by
  cases h with
  | nil => cases htext
  | placeholder => exact absurd (List.cons.inj htext).1.symm hc
  | @char d _ ps => exact ⟨ps, by rw [(List.cons.inj htext).1]⟩

/-- **No placeholder is made of a character and what is shown behind it.** -/
theorem not_written_at_front {p : Pom} {c : Char} {rest : List Char} {ps : List Part}
    (hfree : ∀ name, IsName name → ¬ written name <+: c :: rest) (hcut : Cut rest ps) (hsealed : p.SealedIn ps)
    {name : List Char} (hname : IsName name) : ¬ written name <+: c :: ps.flatMap p.shown := by
  rintro ⟨back, hback⟩
  rw [written_append] at hback
  obtain ⟨rfl, hshown⟩ := List.cons.inj hback
  cases hcut with
  | nil => cases hshown
  | @placeholder name' rest ps =>
    refine head_shown hsealed List.mem_cons_self (ps.flatMap p.shown) ?_
    rw [← List.flatMap_cons, ← hshown]
    rfl
  | @char d rest ps _ hcut =>
    rw [flatMap_shown_char] at hshown
    obtain ⟨rfl, hrest⟩ := List.cons.inj hshown
    by_cases hclosing : '}' ∈ rest
    · obtain ⟨inner, behind, rfl, hinner⟩ := List.eq_append_cons_of_mem hclosing
      by_cases hne : inner = []
      · -- the name would have to start with a closing brace
        obtain ⟨ps', rfl⟩ := hcut.char_of_ne (by rw [hne, List.nil_append]) (by decide)
        obtain ⟨first, others, rfl⟩ := List.exists_cons_of_ne_nil hname.1
        rw [flatMap_shown_char] at hrest
        exact hname.2 ((List.cons.inj hrest).1 ▸ List.mem_cons_self)
      · exact hfree inner ⟨hne, hinner⟩ ⟨behind, written_append inner behind⟩
    · rw [flatMap_shown_of_not_mem p hcut hclosing] at hrest
      exact hclosing (hrest ▸ by simp)

/-- **A resolved text holds a placeholder exactly if the value put in for one of its placeholders does.** -/
theorem holds_shown_iff {p : Pom} {text : List Char} {ps : List Part} (hcut : Cut text ps) (hsealed : p.SealedIn ps)
    (name : List Char) :
    Holds (ps.flatMap p.shown) name ↔ ∃ key, .placeholder key ∈ ps ∧ Holds (p.shown (.placeholder key)) name := by
  induction hcut with
  | nil => simp [Holds, written]
  | @placeholder key rest ps _ _ ih =>
    rw [List.flatMap_cons, holds_append_iff (not_breaksOff_shown hsealed List.mem_cons_self), ih hsealed.tail]
    simp [or_and_right, exists_or]
  | @char c rest ps hfree hcut ih =>
    have hbehind : Holds (c :: ps.flatMap p.shown) name ↔ Holds (ps.flatMap p.shown) name := by
      constructor
      · rintro ⟨hname, hheld⟩
        exact ⟨hname, (List.infix_cons_iff.1 hheld).resolve_left (not_written_at_front hfree hcut hsealed.tail hname)⟩
      · exact fun h => h.mono (List.suffix_cons c _).isInfix
    rw [flatMap_shown_char, hbehind, ih hsealed.tail]
    simp

/-! ## Versions of a summary -/

/-- the description defines the name -/
def Defines (p : Pom) (name : String) : Prop :=
  (p.properties.get? name).isSome ∨ name ∈ ["project.version", "version"] ∧ p.version.isSome ∨
    name = "project.parent.version" ∧ p.parent.version.isSome

/-- the text holds a placeholder for a name that the description defines -/
def Unresolved (p : Pom) (text : List Char) : Prop := ∃ name, p.Defines (String.ofList name) ∧ Holds text name

/-- the texts that a description gives as versions -/
def versionTexts (p : Pom) : List String :=
  languageProperties.filterMap p.properties.get? ++ p.parent.version.toList ++
    (p.properties.get? "spring-boot.version").toList ++ p.dependencies.filterMap (·.version)

end Pom

/-- the versions that a summary names -/
def StackSummary.versions (s : StackSummary) : List String :=
  s.languageVersion.toList ++ s.runtimeVersion.toList ++ s.frameworkVersion.toList ++ s.dependencies.entries.map (·.2)

namespace Pom

theorem mem_frameworkVersionOf {dependencies : Dependencies} {runtime : Option String} {version : String}
    (h : version ∈ StackSummary.frameworkVersionOf dependencies runtime) :
    version ∈ dependencies.entries.map (·.2) ∨ version ∈ runtime := by
  rcases Option.or_eq_some_iff.1 h with hcore | ⟨-, hruntime⟩
  · obtain ⟨e, he, rfl⟩ := Option.map_eq_some_iff.1 hcore
    exact .inl (List.mem_map_of_mem (List.mem_of_find?_eq_some he))
  · exact .inr hruntime

theorem exists_text_of_dependency {p : Pom} {version : String} (h : version ∈ p.resolvedDependencies.entries.map (·.2)) :
    version = StackSummary.unspecified ∨ ∃ text ∈ p.versionTexts, version = p.resolve text := by
  obtain ⟨⟨key, version⟩, hentry, rfl⟩ := List.mem_map.1 h
  rw [← Ordered.get?_eq_some_iff, get?_resolvedDependencies] at hentry
  obtain ⟨c, hlast, rfl⟩ := Option.map_eq_some_iff.1 hentry
  have hc : c ∈ p.dependencies := (List.mem_filter.1 (List.mem_of_getLast? hlast)).1
  rw [versionOf]
  cases hversion : c.version with
  | none => exact .inl rfl
  | some text =>
    exact .inr ⟨text, List.mem_append_right _ (List.mem_filterMap.2 ⟨c, hc, hversion⟩), rfl⟩

theorem exists_text_of_version {p : Pom} {version : String} (h : version ∈ p.summary.versions) :
    version = StackSummary.unspecified ∨ ∃ text ∈ p.versionTexts, version = p.resolve text := by
  have hlanguage (hmem : version ∈ p.languageVersion) : ∃ text ∈ p.versionTexts, version = p.resolve text := by
    obtain ⟨text, hfound, rfl⟩ := Option.map_eq_some_iff.1 hmem
    obtain ⟨property, hproperty, htext⟩ := List.exists_of_findSome?_eq_some hfound
    have hgiven := List.mem_filterMap.2 ⟨property, hproperty, htext⟩
    exact ⟨text, by simp only [versionTexts, List.mem_append, hgiven, true_or], rfl⟩
  have hruntime (hmem : version ∈ p.runtimeVersion) : ∃ text ∈ p.versionTexts, version = p.resolve text := by
    obtain ⟨text, hfound, rfl⟩ := Option.map_eq_some_iff.1 hmem
    refine ⟨text, ?_, rfl⟩
    rcases Option.or_eq_some_iff.1 hfound with hparent | ⟨-, hproperty⟩
    · have hgiven : text ∈ p.parent.version.toList :=
        Option.mem_toList.2 (Option.ite_none_right_eq_some.1 hparent).2
      simp only [versionTexts, List.mem_append, hgiven, or_true, true_or]
    · have hgiven : text ∈ (p.properties.get? "spring-boot.version").toList :=
        Option.mem_toList.2 (Option.filter_eq_some_iff.1 hproperty).1
      simp only [versionTexts, List.mem_append, hgiven, or_true, true_or]
  simp only [StackSummary.versions, List.mem_append, Option.mem_toList] at h
  rcases h with ((h | h) | h) | h
  · exact .inr (hlanguage h)
  · exact .inr (hruntime h)
  · rcases mem_frameworkVersionOf h with hdependency | h
    · exact exists_text_of_dependency hdependency
    · exact .inr (hruntime h)
  · exact exists_text_of_dependency h

/-- a name without a dollar sign, left as written, is unresolved if it is defined -/
theorem unresolved_written_iff (p : Pom) {key : List Char} (hkey : IsName key) (hdollar : '$' ∉ key) :
    p.Unresolved (written key) ↔ p.Defines (String.ofList key) := by
  refine ⟨?_, fun h => ⟨key, h, hkey, List.infix_refl _⟩⟩
  rintro ⟨name, hdefines, hname, hheld⟩
  rcases List.infix_cons_iff.1 hheld with ⟨back, hback⟩ | hbehind
  · have hfirst : nameAt? (written key ++ []) = some key := nameAt?_written hkey []
    rw [List.append_nil] at hfirst
    have hback : written name ++ back = written key := hback
    rw [← hback, nameAt?_written hname] at hfirst
    rwa [← Option.some.inj hfirst]
  · have hmem : '$' ∈ '{' :: (key ++ ['}']) := hbehind.subset List.mem_cons_self
    simp [hdollar] at hmem

/-- **Versions are resolved once.** Each version of a summary is a text of its description in which every placeholder
with a value is replaced by it, the others and all other text stay, and a placeholder for a defined name remains exactly
where one stands in what was put in. -/
theorem summarize_placeholders {document : String} {events : List Xml.Event} {p : Pom}
    (h : Xml.events? document = some events) (hp : ofEvents events = p) :
    summarize document = .ok p.summary ∧
      (∀ version ∈ p.summary.versions,
        version = StackSummary.unspecified ∨ ∃ text ∈ p.versionTexts, version = p.resolve text) ∧
      ∀ text : String, Cut text.toList (parts text.toList) ∧
        (p.resolve text).toList = (parts text.toList).flatMap p.shown ∧
        (p.SealedIn (parts text.toList) → (p.Unresolved (p.resolve text).toList ↔
          ∃ key, .placeholder key ∈ parts text.toList ∧ p.Unresolved (p.shown (.placeholder key)))) := by
  subst hp
  refine ⟨by rw [summarize, h], fun version => exists_text_of_version, fun text => ?_⟩
  have hcut := cut_parts text.toList
  refine ⟨hcut, toList_resolve _ text, fun hsealed => ?_⟩
  rw [toList_resolve]
  constructor
  · rintro ⟨name, hdefines, hholds⟩
    obtain ⟨key, hkey, hshown⟩ := (holds_shown_iff hcut hsealed name).1 hholds
    exact ⟨key, hkey, name, hdefines, hshown⟩
  · rintro ⟨key, hkey, name, hdefines, hshown⟩
    exact ⟨name, hdefines, (holds_shown_iff hcut hsealed name).2 ⟨key, hkey, hshown⟩⟩

/-! ## A description that is resolved and one that is not -/

/-- a description of one dependency -/
def clientPom (properties : Content) (version : String) : Content :=
  plainElement "project"
    (textElement "version" "1.4.0" <| plainElement "properties" properties <| plainElement "dependencies"
      (plainElement "dependency"
        (textElement "groupId" "com.acme" <| textElement "artifactId" "client" <| textElement "version" version .nil)
        .nil) .nil) .nil

/-- a version made of a defined property, an undefined one, and other text -/
def mixedPom : Content :=
  clientPom (textElement "java.version" "17" <| textElement "lib" "2.1" .nil) "v$\x7blib\x7d-$\x7bother\x7d"

/-- a property defined by another one -/
def chainPom : Content :=
  clientPom (textElement "lib" "$\x7bbase\x7d" <| textElement "base" "1" .nil) "$\x7blib\x7d"

theorem summarize_placeholders_mixed :
    mixedPom.IsDocument ∧ ∃ p, ofEvents mixedPom.events = p ∧
      summarize (String.ofList mixedPom.written) = .ok p.summary ∧
      p.summary.dependencies.entries = [("com.acme:client", "v2.1-$\x7bother\x7d")] ∧
      p.SealedIn (parts "v$\x7blib\x7d-$\x7bother\x7d".toList) ∧ ¬ p.Unresolved "v2.1-$\x7bother\x7d".toList := by
  have hdocument : mixedPom.IsDocument := ⟨by decide +kernel, by decide +kernel⟩
  obtain ⟨hsummary, -, hresolve⟩ := summarize_placeholders (events?_written hdocument) rfl
  obtain ⟨-, -, hunresolved⟩ := hresolve "v$\x7blib\x7d-$\x7bother\x7d"
  have hparts : parts "v$\x7blib\x7d-$\x7bother\x7d".toList =
      [.char 'v', .placeholder "lib".toList, .char '-', .placeholder "other".toList] := by decide
  have hlib : (ofEvents mixedPom.events).value? "lib" = some "2.1" := by decide +kernel
  have hother : (ofEvents mixedPom.events).value? "other" = none := by decide +kernel
  have hsealed : (ofEvents mixedPom.events).SealedIn (parts "v$\x7blib\x7d-$\x7bother\x7d".toList) := by
    intro name value hname hvalue
    rw [hparts] at hname
    obtain rfl | rfl : name = "lib".toList ∨ name = "other".toList := by simpa using hname
    · obtain rfl : "2.1" = value := Option.some.inj (hlib.symm.trans hvalue)
      exact ⟨by decide, by decide, not_breaksOff_of_not_mem (by decide)⟩
    · cases hother.symm.trans hvalue
  refine ⟨hdocument, _, rfl, hsummary, by decide +kernel, hsealed, fun h => ?_⟩
  have hversion : (ofEvents mixedPom.events).resolve "v$\x7blib\x7d-$\x7bother\x7d" = "v2.1-$\x7bother\x7d" := by
    decide +kernel
  rw [← hversion] at h
  obtain ⟨key, hkey, hshown⟩ := (hunresolved hsealed).1 h
  rw [hparts] at hkey
  obtain rfl | rfl : key = "lib".toList ∨ key = "other".toList := by simpa using hkey
  · have hvalue : (ofEvents mixedPom.events).shown (.placeholder "lib".toList) = "2.1".toList := shown_of_value _ hlib
    obtain ⟨name, -, -, hheld⟩ := hshown
    rw [hvalue] at hheld
    exact absurd (hheld.subset List.mem_cons_self) (by decide)
  · have hwritten : (ofEvents mixedPom.events).shown (.placeholder "other".toList) = written "other".toList :=
      shown_of_none _ hother
    rw [hwritten, unresolved_written_iff _ (by decide) (by decide)] at hshown
    exact absurd hshown (by unfold Defines; decide +kernel)

/-- no property is defined by itself, through however many others -/
def Acyclic (p : Pom) : Prop :=
  ∃ rank : String → Nat, ∀ key value, p.value? key = some value →
    ∀ name, .placeholder name ∈ parts value.toList → rank (String.ofList name) < rank key

/-- **A property that is defined by another one leaves a placeholder for a defined name.** -/
theorem summarize_chain :
    chainPom.IsDocument ∧ ∃ p, ofEvents chainPom.events = p ∧ p.Acyclic ∧
      summarize (String.ofList chainPom.written) = .ok p.summary ∧
      p.summary.dependencies.entries = [("com.acme:client", "$\x7bbase\x7d")] ∧
      p.Unresolved "$\x7bbase\x7d".toList := by
  have hdocument : chainPom.IsDocument := ⟨by decide +kernel, by decide +kernel⟩
  have hproperties : (ofEvents chainPom.events).properties.entries = [("base", "1"), ("lib", "$\x7bbase\x7d")] := by
    decide +kernel
  have hacyclic : (ofEvents chainPom.events).Acyclic := by
    refine ⟨fun key => if key = "lib" then 1 else 0, fun key value hvalue name hname => ?_⟩
    rcases of_value? hvalue with hversion | hparent | hproperty
    · rw [show (ofEvents chainPom.events).version = some "1.4.0" by decide +kernel] at hversion
      rw [← Option.some.inj hversion] at hname
      exact absurd (cut_parts _ |>.dollar_mem hname) (by decide)
    · rw [show (ofEvents chainPom.events).parent.version = none by decide +kernel] at hparent
      cases hparent
    · rw [Ordered.get?_eq_some_iff, hproperties] at hproperty
      obtain ⟨rfl, rfl⟩ | ⟨rfl, rfl⟩ : key = "base" ∧ value = "1" ∨ key = "lib" ∧ value = "$\x7bbase\x7d" := by
        simpa using hproperty
      · exact absurd (cut_parts _ |>.dollar_mem hname) (by decide)
      · rw [show parts "$\x7bbase\x7d".toList = [.placeholder "base".toList] by decide] at hname
        obtain rfl : name = "base".toList := by simpa using hname
        decide
  exact ⟨hdocument, _, rfl, hacyclic, summarize_eq_ok (events?_written hdocument), by decide +kernel,
    "base".toList, by unfold Defines; decide +kernel, by decide, List.infix_refl _⟩

end Pom

end CodeSurvey
