/-
The type that a method answers with.

`Header` is a method's header: annotations and modifiers in any order, type parameters and a return type. Every
annotation becomes a blank, and blanks join the modifier before them (`flatMap_bare`), so what is left is a run of
modifiers, which the pattern takes one by one, with the type parameters behind them. What remains is the return type, and
nothing of an annotation, a modifier or a type parameter is in it. The patterns end an argument list at its first closing
parenthesis and type parameters at the first closing bracket, so neither may hold another one within. Main statement:
`responseType_header`.
-/
import CodeSurvey.Proofs.Trace.Annotations
import CodeSurvey.Trace.Endpoint

namespace CodeSurvey.Endpoint

open Text
open Injection (Mark Solid annotationsReplaced annotationsReplaced_append annotationsReplaced_flatMap
  annotationsReplaced_gap not_at_of_blank not_at_of_isWord)
open Tracer (head_mark isBlank_of_isWord)

/-! ## Headers -/

def modifiers : List String :=
  ["public", "protected", "private", "static", "final", "synchronized", "abstract", "default", "native"]

/-- an annotation or a modifier, with the blanks behind it -/
inductive HeaderPart where
  | mark (a : Mark) (gap : List Char)
  | modifier (word : String) (gap : List Char)

namespace HeaderPart

def text : HeaderPart → List Char
  | mark a gap => a.text ++ gap
  | modifier word gap => word.toList ++ gap

/-- the text with a blank for an annotation -/
def bare : HeaderPart → List Char
  | mark _ gap => ' ' :: gap
  | modifier word gap => word.toList ++ gap

inductive WellFormed : HeaderPart → Prop
  | mark {a : Mark} {gap : List Char} (ha : a.WellFormed) (hplain : a.Plain) (hgap : Blank gap)
    (hne : a.IsMarker → gap ≠ []) : WellFormed (mark a gap)
  | modifier {word : String} {gap : List Char} (hword : word ∈ modifiers) (hne : gap ≠ []) (hgap : Blank gap) :
    WellFormed (modifier word gap)

end HeaderPart

/-- a type as it stands at the end of a header -/
structure IsDeclaredType (type : List Char) : Prop where
  nonempty : type ≠ []
  unmarked : ∀ c ∈ type, c ≠ '@'
  first : ∀ c ∈ type.head?, isBlank c = false ∧ c ≠ '(' ∧ c ≠ '<'
  last : ∀ c ∈ type.getLast?, isBlank c = false
  /-- the type does not start with a modifier -/
  unmodified : ∀ word ∈ modifiers, ∀ rest, type = word.toList ++ rest → ∀ c ∈ rest.head?, isBlank c = false

/-- the header of a method -/
structure Header where
  parts : List HeaderPart
  /-- what stands between the brackets of the type parameters, and the blanks behind them -/
  parameters : Option (List Char × List Char)
  type : List Char

namespace Header

def parameterText (h : Header) : List Char :=
  match h.parameters with
  | none => []
  | some (inner, gap) => '<' :: (inner ++ '>' :: gap)

/-- the type parameters and the type -/
def declared (h : Header) : List Char := h.parameterText ++ h.type

def text (h : Header) : List Char := h.parts.flatMap HeaderPart.text ++ h.declared

structure WellFormed (h : Header) : Prop where
  parts : ∀ part ∈ h.parts, part.WellFormed
  parameters : ∀ x ∈ h.parameters, (∀ c ∈ x.1, c ≠ '>' ∧ c ≠ '@') ∧ Blank x.2
  type : IsDeclaredType h.type

end Header

/-! ## The header without annotations -/

theorem modifier_chars : ∀ word ∈ modifiers, word.toList ≠ [] ∧ ∀ c ∈ word.toList, isWord c = true := by decide

theorem head_modifier {word : String} (h : word ∈ modifiers) (rest : List Char) :
    ∀ c ∈ (word.toList ++ rest).head?, isWord c = true := by
  obtain ⟨hne, hchars⟩ := modifier_chars word h
  obtain ⟨x, xs, hx⟩ := List.exists_cons_of_ne_nil hne
  rw [hx]
  exact fun c hc => Option.some.inj hc ▸ hchars x (hx ▸ List.mem_cons_self)

theorem HeaderPart.WellFormed.solid {part : HeaderPart} (h : part.WellFormed) (rest : List Char) :
    Solid (part.text ++ rest) := by
  cases h with
  | mark => exact fun c hc => Option.some.inj hc ▸ by decide
  | modifier hword =>
    rw [HeaderPart.text, List.append_assoc]
    exact Injection.solid_of_isWord (head_modifier hword _)

/-- **Every annotation becomes a blank.** -/
theorem annotationsReplaced_parts {parts : List HeaderPart} (hparts : ∀ part ∈ parts, part.WellFormed)
    {rest : List Char} (hrest : Solid rest) :
    annotationsReplaced [' '] (parts.flatMap HeaderPart.text ++ rest) =
      parts.flatMap HeaderPart.bare ++ annotationsReplaced [' '] rest := by
  refine annotationsReplaced_flatMap (fun part hpart => ⟨(hparts part hpart).solid, fun back hback => ?_⟩) hrest
  cases hparts part hpart with
  | mark ha hplain hgap hne => exact annotationsReplaced_gap _ ha hplain hgap hne hback
  | modifier hword hne hgap =>
    refine annotationsReplaced_append _ (List.forall_mem_append.2 ⟨?_, not_at_of_blank hgap⟩) back
    exact not_at_of_isWord (modifier_chars _ hword).2

/-! ## Blanks and modifiers -/

/-- the blanks before the first modifier -/
def blanksFirst : List HeaderPart → List Char
  | .mark _ gap :: parts => ' ' :: (gap ++ blanksFirst parts)
  | _ => []

/-- the modifiers, each with the blanks up to the next one -/
def modifierTexts : List HeaderPart → List (List Char)
  | [] => []
  | .mark _ _ :: parts => modifierTexts parts
  | .modifier word gap :: parts => (word.toList ++ (gap ++ blanksFirst parts)) :: modifierTexts parts

theorem flatMap_bare (parts : List HeaderPart) :
    parts.flatMap HeaderPart.bare = blanksFirst parts ++ (modifierTexts parts).flatten := by
  induction parts with
  | nil => rfl
  | cons part parts ih =>
    rw [List.flatMap_cons, ih]
    cases part <;> simp [HeaderPart.bare, blanksFirst, modifierTexts]

theorem blank_blanksFirst {parts : List HeaderPart} (h : ∀ part ∈ parts, part.WellFormed) :
    Blank (blanksFirst parts) := by
  induction parts with
  | nil => exact blank_nil
  | cons part parts ih =>
    obtain ⟨hpart, hothers⟩ := List.forall_mem_cons.1 h
    cases hpart with
    | mark _ _ hgap _ => exact List.forall_mem_cons.2 ⟨by decide, hgap.append (ih hothers)⟩
    | modifier => exact blank_nil

theorem mem_modifierTexts {parts : List HeaderPart} (h : ∀ part ∈ parts, part.WellFormed) :
    ∀ piece ∈ modifierTexts parts,
      ∃ word ∈ modifiers, ∃ gap, piece = word.toList ++ gap ∧ gap ≠ [] ∧ Blank gap := by
  induction parts with
  | nil => exact fun _ hpiece => absurd hpiece List.not_mem_nil
  | cons part parts ih =>
    obtain ⟨hpart, hothers⟩ := List.forall_mem_cons.1 h
    cases hpart with
    | mark => exact ih hothers
    | @modifier word gap hword hne hgap =>
      refine List.forall_mem_cons.2 ⟨⟨word, hword, gap ++ blanksFirst parts, rfl, ?_, ?_⟩, ih hothers⟩
      · exact List.append_ne_nil_of_left_ne_nil hne _
      · exact hgap.append (blank_blanksFirst hothers)

/-! ## What the pattern takes -/

/-- no modifier is the front of another one -/
theorem modifier_front : ∀ word ∈ modifiers, ∀ other ∈ modifiers,
    other.toList.isPrefixOf word.toList = true → other = word := by
  decide

/-- of the modifiers only one stands where it has blanks behind it -/
theorem modifier_unique {word other : String} (hword : word ∈ modifiers) (hother : other ∈ modifiers)
    {gap back : List Char} (hne : gap ≠ []) (hgap : Blank gap) (h : other.toList <+: word.toList ++ (gap ++ back)) :
    other = word := by
  obtain ⟨rest, hrest⟩ := h
  rcases List.append_eq_append_iff.1 hrest with ⟨middle, hmiddle, -⟩ | ⟨middle, hmiddle, hblank⟩
  · exact modifier_front word hword other hother (List.isPrefixOf_iff_prefix.2 ⟨middle, hmiddle.symm⟩)
  · cases middle with
    | nil => rw [← String.toList_inj, hmiddle, List.append_nil]
    | cons x middle =>
      obtain ⟨b, gap, rfl⟩ := List.exists_cons_of_ne_nil hne
      obtain rfl : b = x := (List.cons.inj hblank).1
      have hx := (modifier_chars other hother).2 b (by rw [hmiddle]; simp)
      rw [isWord_of_isBlank (hgap b List.mem_cons_self)] at hx
      cases hx

section

variable {β : Type} {k : Cursor → Option β} {c : Cursor} {b : β}

theorem run_leadingModifiers (k : Cursor → Option β) (c : Cursor) :
    Pattern.run leadingModifiers k c = Pattern.run (.star (.oneOf modifiers ++ .blank))
      (Pattern.run (.opt (.lit "<" ++ .any0 (Pattern.except ">") ++ .lit ">" ++ .gap)) k) c :=
  rfl

theorem run_typeParameters (k : Cursor → Option β) (c : Cursor) :
    Pattern.run (.lit "<" ++ .any0 (Pattern.except ">") ++ .lit ">" ++ .gap) k c = Pattern.run (.char (· == '<'))
      (Pattern.run (.any0 (Pattern.except ">")) (Pattern.run (.char (· == '>')) (Pattern.run .gap k))) c :=
  rfl

theorem run_modifier {word : String} (hword : word ∈ modifiers) {gap back : List Char} (hne : gap ≠ [])
    (hgap : Blank gap) (hback : ∀ c ∈ back.head?, isBlank c = false) (hc : c.rest = word.toList ++ gap ++ back)
    (h : k (c.forward (word.toList ++ gap) back) = some b) :
    Pattern.run (.oneOf modifiers ++ .blank) k c = some b := by
  rw [List.append_assoc] at hc
  refine Pattern.run_oneOf (k := Pattern.run .blank k) hword hc (fun other hother hfront => ?_) ?_
  · rw [hc] at hfront
    exact modifier_unique hword hother hne hgap hfront
  · refine Pattern.run_some1 hne hgap hback rfl ?_
    rwa [Cursor.forward_forward]

variable {h : Header} (hh : h.WellFormed)

include hh

/-- the type parameters are taken where there are some -/
theorem run_parameterText (hc : c.rest = h.declared) (htaken : k (c.forward h.parameterText h.type) = some b) :
    Pattern.run (.opt (.lit "<" ++ .any0 (Pattern.except ">") ++ .lit ">" ++ .gap)) k c = some b := by
  rw [Header.declared] at hc
  rw [Header.parameterText] at hc htaken
  cases hparameters : h.parameters with
  | none =>
    rw [hparameters] at hc htaken
    have hrest : c.rest = h.type := hc
    rw [Pattern.run_opt_pass]
    · rwa [← Cursor.forward_nil hrest]
    · refine Option.eq_none_iff_forall_ne_some.2 fun b' hb' => ?_
      obtain ⟨x, rest, hx, hopening, -⟩ := Pattern.of_run_char hb'
      exact (hh.type.first x (by rw [← hrest, hx]; rfl)).2.2 (beq_iff_eq.1 hopening)
  | some x =>
    obtain ⟨inner, gap⟩ := x
    obtain ⟨hinner, hgap⟩ := hh.parameters _ hparameters
    rw [hparameters] at hc htaken
    refine Pattern.run_opt_take ?_
    have hsplit : c.rest = '<' :: (inner ++ ('>' :: (gap ++ h.type))) := by
      rw [hc, List.cons_append, List.append_assoc, List.cons_append]
    rw [run_typeParameters, Pattern.run_char rfl hsplit]
    refine Pattern.run_span (fun c hc => ?_) (head_mark (by decide) _) rfl ?_
    · simp [Pattern.except, (hinner c hc).1]
    rw [Pattern.run_char rfl rfl]
    refine Pattern.run_span hgap (fun c hc => (hh.type.first c hc).1) rfl ?_
    simp only [Cursor.forward_forward]
    refine (Pattern.onward_forward _ _ (List.cons_ne_nil _ _) _).trans ?_
    simpa using htaken

theorem solid_declared : Solid h.declared := by
  rw [Header.declared, Header.parameterText]
  cases h.parameters with
  | none => exact fun c hc => ⟨(hh.type.first c hc).1, (hh.type.first c hc).2.1⟩
  | some x => exact fun c hc => Option.some.inj hc ▸ by decide

/-- no modifier is left to take before the type parameters and the type -/
theorem run_modifier_eq_none (hc : c.rest = h.declared) :
    Pattern.run (.oneOf modifiers ++ .blank) k c = none := by
  refine Option.eq_none_iff_forall_ne_some.2 fun b' hb' => ?_
  obtain ⟨word, hword, d, hd, hb'⟩ := Pattern.exists_of_run_oneOf (k := Pattern.run .blank k) hb'
  obtain ⟨gap, rest, hgap, hne, hblank, -⟩ := Pattern.of_run_some1 hb'
  obtain ⟨x, gap', rfl⟩ := List.exists_cons_of_ne_nil hne
  have hsplit : h.declared = word.toList ++ d.rest := hc.symm.trans hd
  rw [Header.declared, Header.parameterText] at hsplit
  cases hparameters : h.parameters with
  | none =>
    rw [hparameters] at hsplit
    have hx := hh.type.unmodified word hword d.rest hsplit x (by rw [hgap]; rfl)
    rw [hblank x List.mem_cons_self] at hx
    cases hx
  | some y =>
    rw [hparameters] at hsplit
    have hopening := head_modifier hword d.rest '<' (by rw [← hsplit]; rfl)
    exact absurd hopening (by decide)

/-- **The pattern takes all modifiers and the type parameters.** -/
theorem matchHere_leadingModifiers :
    leadingModifiers.matchHere none ((modifierTexts h.parts).flatten ++ h.declared) =
      some ⟨(modifierTexts h.parts).flatten ++ h.parameterText, []⟩ := by
  rw [Pattern.matchHere, run_leadingModifiers]
  refine Pattern.run_star (fun text => ∀ c ∈ text.head?, isBlank c = false) (fun piece hpiece => ?_)
    (fun c hc => (solid_declared hh c hc).1) (fun k c hc => run_modifier_eq_none hh hc) rfl ?_
  · obtain ⟨word, hword, gap, rfl, hne, hgap⟩ := mem_modifierTexts hh.parts piece hpiece
    refine ⟨List.append_ne_nil_of_right_ne_nil _ hne, fun back c hc => ?_, fun k c back hback hc htaken => ?_⟩
    · rw [List.append_assoc] at hc
      exact isBlank_of_isWord (head_modifier hword _ c hc)
    · exact run_modifier hword hne hgap hback hc htaken
  · refine run_parameterText hh rfl ?_
    rw [Cursor.forward_forward, Cursor.forward_taken, Taken.text_pushAll]
    rfl

end

/-! ## The response -/

/-- a type as an answer: none where it says that there is none -/
def shown (type : String) : Option String := if ["", "void", "Void", "?"].contains type then none else some type

section

variable {h : Header} (hh : h.WellFormed)

include hh

theorem annotationsReplaced_declared : annotationsReplaced [' '] h.declared = h.declared := by
  have hnone : ∀ c ∈ h.declared, c ≠ '@' := by
    rw [Header.declared, Header.parameterText]
    cases hparameters : h.parameters with
    | none => exact hh.type.unmarked
    | some x =>
      obtain ⟨hinner, hgap⟩ := hh.parameters x hparameters
      simp only [List.cons_append, List.append_assoc, List.forall_mem_cons, List.forall_mem_append]
      exact ⟨by decide, fun c hc => (hinner c hc).2, by decide, not_at_of_blank hgap, hh.type.unmarked⟩
  have hreplaced := annotationsReplaced_append [' '] hnone []
  rwa [List.append_nil, Injection.annotationsReplaced_nil, List.append_nil] at hreplaced

/-- what is left without annotations -/
theorem trimmed_header : trimmed (Injection.annotationUse.replaceAll (fun _ => " ") (String.ofList h.text)) =
    String.ofList ((modifierTexts h.parts).flatten ++ h.declared) := by
  have hreplaced : annotationsReplaced [' '] h.text =
      blanksFirst h.parts ++ ((modifierTexts h.parts).flatten ++ h.declared) := by
    rw [Header.text, annotationsReplaced_parts hh.parts (solid_declared hh), annotationsReplaced_declared hh,
      flatMap_bare, List.append_assoc]
  have htrimmed : trim ((modifierTexts h.parts).flatten ++ h.declared) =
      (modifierTexts h.parts).flatten ++ h.declared := by
    refine trim_of_ends ?_ ?_
    · cases hpieces : modifierTexts h.parts with
      | nil => exact fun c hc => (solid_declared hh c hc).1
      | cons piece pieces =>
        obtain ⟨word, hword, gap, rfl, -⟩ := mem_modifierTexts hh.parts piece (hpieces ▸ List.mem_cons_self)
        rw [List.flatten_cons, List.append_assoc, List.append_assoc]
        exact fun c hc => isBlank_of_isWord (head_modifier hword _ c hc)
    · rw [Header.declared, ← List.append_assoc, List.getLast?_append, List.getLast?_eq_some_getLast hh.type.nonempty]
      exact fun c hc => hh.type.last c (List.getLast?_eq_some_getLast hh.type.nonempty ▸ hc)
  simp only [trimmed, Pattern.replaceAll_eq, String.toList_ofList]
  have htext := congrArg trim hreplaced
  rw [trim_gap (blank_blanksFirst hh.parts), htrimmed] at htext
  exact congrArg String.ofList htext

theorem dropModifiers_header :
    dropModifiers (String.ofList ((modifierTexts h.parts).flatten ++ h.declared)) = String.ofList h.type := by
  rw [dropModifiers, String.toList_ofList, matchHere_leadingModifiers hh]
  rw [Header.declared, ← List.append_assoc]
  exact congrArg String.ofList List.drop_left

theorem responseType_eq : responseType (String.ofList h.text) = shown (unwrap (String.ofList h.type)) := by
  have htype : trimmed (String.ofList h.type) = String.ofList h.type := by
    rw [trimmed, String.toList_ofList, trim_of_ends (fun c hc => (hh.type.first c hc).1) hh.type.last]
  rw [responseType, trimmed_header hh, dropModifiers_header hh, htype]
  rfl

end

/-! ## The wrapper -/

theorem unwrap_wrapped {type : String} {inner : List Char}
    (h : type.toList = "ResponseEntity<".toList ++ (inner ++ ">".toList)) :
    unwrap type = trimmed (String.ofList inner) := by
  have hstart : stripStart type "ResponseEntity<" = some (String.ofList inner ++ ">") := by
    rw [stripStart_eq_some_iff, ← String.toList_inj, h]
    simp
  have hend : stripEnd (String.ofList inner ++ ">") ">" = some (String.ofList inner) := stripEnd_eq_some_iff.2 rfl
  rw [unwrap, hstart, Option.bind_some, hend]
  rfl

theorem unwrap_other {type : String}
    (h : ¬ ∃ inner, type.toList = "ResponseEntity<".toList ++ (inner ++ ">".toList)) : unwrap type = type := by
  have hnone : ((stripStart type "ResponseEntity<").bind fun inner => stripEnd inner ">") = none := by
    refine Option.eq_none_iff_forall_ne_some.2 fun inner hinner => h ⟨inner.toList, ?_⟩
    obtain ⟨rest, hstart, hend⟩ := Option.bind_eq_some_iff.1 hinner
    rw [stripStart_eq_some_iff.1 hstart, stripEnd_eq_some_iff.1 hend, String.toList_append, String.toList_append]
  rw [unwrap, hnone]
  rfl

/-- **The response is the return type**, without its wrapper and without any remains of what stands before it. -/
theorem responseType_header {h : Header} (hh : h.WellFormed) :
    (∀ inner, h.type = "ResponseEntity<".toList ++ (inner ++ ">".toList) →
      responseType (String.ofList h.text) = shown (trimmed (String.ofList inner))) ∧
    ((¬ ∃ inner, h.type = "ResponseEntity<".toList ++ (inner ++ ">".toList)) →
      responseType (String.ofList h.text) = shown (String.ofList h.type)) := by
  have htype : (String.ofList h.type).toList = h.type := String.toList_ofList
  refine ⟨fun inner hinner => ?_, fun hother => ?_⟩
  · rw [responseType_eq hh, unwrap_wrapped (htype.trans hinner)]
  · rw [responseType_eq hh, unwrap_other (by rwa [htype])]

/-- an annotation with arguments, a modifier, a marker, two more modifiers, type parameters and a type -/
def listingHeader (type : List Char) : Header where
  parts := [.mark ⟨"GetMapping".toList, some ([], "\"/orders\"".toList)⟩ [' '], .modifier "public" [' '],
    .mark ⟨"Nullable".toList, none⟩ [' '], .modifier "static" [' '], .modifier "final" [' ']]
  parameters := some ("T extends Order & Priced".toList, [' '])
  type := type

theorem listingHeader_wellFormed {type : List Char} (h : IsDeclaredType type) : (listingHeader type).WellFormed where
  parts := by
    simp only [listingHeader, List.forall_mem_cons]
    refine ⟨.mark ⟨by decide, ?_⟩ ?_ (by decide) fun _ => by decide, .modifier (by decide) (by decide) (by decide),
      .mark (Mark.wellFormed_marker (by decide)) (Mark.plain_marker _) (by decide) fun _ => by decide,
      .modifier (by decide) (by decide) (by decide), .modifier (by decide) (by decide) (by decide), nofun⟩ <;>
    · rintro x ⟨⟩
      decide
  parameters := by
    rintro x ⟨⟩
    decide
  type := h

theorem unmodified_of_front {type : List Char} (h : ∀ word ∈ modifiers, word.toList.isPrefixOf type = false) :
    ∀ word ∈ modifiers, ∀ rest, type = word.toList ++ rest → ∀ c ∈ rest.head?, isBlank c = false := by
  intro word hword rest hrest
  have hfront := List.isPrefixOf_iff_prefix.2 ⟨rest, hrest.symm⟩
  rw [h word hword] at hfront
  cases hfront

theorem responseType_header_listing :
    (listingHeader "ResponseEntity<List<T>>".toList).WellFormed ∧
    responseType (String.ofList (listingHeader "ResponseEntity<List<T>>".toList).text) = some "List<T>" ∧
    (listingHeader "Void".toList).WellFormed ∧
    responseType (String.ofList (listingHeader "Void".toList).text) = none := by
  have hwrapped : (listingHeader "ResponseEntity<List<T>>".toList).WellFormed := listingHeader_wellFormed
    ⟨by decide, by decide, by decide, by decide, unmodified_of_front (by decide)⟩
  have hvoid : (listingHeader "Void".toList).WellFormed := listingHeader_wellFormed
    ⟨by decide, by decide, by decide, by decide, unmodified_of_front (by decide)⟩
  refine ⟨hwrapped, ?_, hvoid, ?_⟩
  · rw [(responseType_header hwrapped).1 "List<T>".toList rfl]
    decide
  · rw [(responseType_header hvoid).2 (by rintro ⟨inner, hinner⟩; cases hinner)]
    decide

/-- An argument list ends at its first closing parenthesis and type parameters end at the first closing bracket: the rest
remains. -/
theorem responseType_remains :
    responseType "@PreAuthorize(\"hasRole('ADMIN')\") public Foo" = some "\") public Foo" ∧
    responseType "public <T extends Comparable<T>> T" = some "> T" := by
  decide +kernel

end CodeSurvey.Endpoint
