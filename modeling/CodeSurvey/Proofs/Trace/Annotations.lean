/-
Annotations, and what the pattern of annotations takes of them.

The pattern reads `@`, a word and, if one follows, an argument list up to the first closing parenthesis. So it takes the
whole of an annotation whose arguments hold no such parenthesis (`Mark.run_text`, `Mark.matchHere_text`), a
marker without arguments too unless something behind it reads as an argument list (`OpensArguments`).
-/
import CodeSurvey.Proofs.Pattern.Replacing
import CodeSurvey.Proofs.Text.Cutting
import CodeSurvey.Proofs.Trace.Calls
import CodeSurvey.Trace.Injection

namespace CodeSurvey.Injection

open Text
open Tracer (head_mark isBlank_of_isWord)

/-- a word: word characters, at least one -/
structure IsIdentifier (name : List Char) : Prop where
  nonempty : name ≠ []
  chars : ∀ c ∈ name, isWord c = true

instance (name : List Char) : Decidable (IsIdentifier name) :=
  decidable_of_iff (name ≠ [] ∧ ∀ c ∈ name, isWord c = true) ⟨fun ⟨h, h'⟩ => ⟨h, h'⟩, fun ⟨h, h'⟩ => ⟨h, h'⟩⟩

theorem IsIdentifier.exists_cons {name : List Char} (h : IsIdentifier name) :
    ∃ w ws, name = w :: ws ∧ isWord w = true := by
  obtain ⟨w, ws, rfl⟩ := List.exists_cons_of_ne_nil h.nonempty
  exact ⟨w, ws, rfl, h.chars w List.mem_cons_self⟩

/-- a word does not start with a blank -/
theorem IsIdentifier.head {name : List Char} (h : IsIdentifier name) (rest : List Char) :
    ∀ c ∈ (name ++ rest).head?, isBlank c = false := by
  obtain ⟨w, ws, rfl, hw⟩ := h.exists_cons
  exact head_mark (isBlank_of_isWord hw) _

/-- an annotation; of an argument list the blanks before it and what stands within the parentheses -/
structure Mark where
  name : List Char
  arguments : Option (List Char × List Char)

namespace Mark

/-- the argument list as it is written -/
def argumentText (a : Mark) : List Char :=
  match a.arguments with
  | none => []
  | some (gap, inner) => gap ++ '(' :: (inner ++ [')'])

def text (a : Mark) : List Char := '@' :: (a.name ++ a.argumentText)

structure WellFormed (a : Mark) : Prop where
  name : IsIdentifier a.name
  blank : ∀ x ∈ a.arguments, Blank x.1

/-- no parenthesis closes within the argument list -/
def Plain (a : Mark) : Prop := ∀ x ∈ a.arguments, ')' ∉ x.2

/-- there is no argument list -/
def IsMarker (a : Mark) : Prop := a.arguments = none

theorem IsMarker.plain {a : Mark} (h : a.IsMarker) : a.Plain := by
  intro x hx
  rw [h] at hx
  cases hx

theorem wellFormed_marker {name : List Char} (h : IsIdentifier name) : WellFormed ⟨name, none⟩ :=
  ⟨h, fun _ hx => nomatch hx⟩

theorem plain_marker (name : List Char) : Plain ⟨name, none⟩ := IsMarker.plain rfl

theorem text_marker (name : List Char) : text ⟨name, none⟩ = '@' :: name :=
  congrArg ('@' :: ·) (List.append_nil name)

theorem text_ne_nil (a : Mark) : a.text ≠ [] := List.cons_ne_nil _ _

end Mark

/-! ## Argument lists -/

/-- blanks, an opening parenthesis and somewhere behind it a closing one -/
def OpensArguments (text : List Char) : Prop :=
  ∃ gap back, Blank gap ∧ text = gap ++ '(' :: back ∧ ')' ∈ back

theorem not_opensArguments_of_not_mem {text : List Char} (h : ')' ∉ text) : ¬ OpensArguments text := by
  rintro ⟨gap, back, -, rfl, hback⟩
  exact h (List.mem_append_right _ (List.mem_cons_of_mem _ hback))

/-- neither a blank nor an opening parenthesis comes first -/
def Solid (text : List Char) : Prop := ∀ c ∈ text.head?, isBlank c = false ∧ c ≠ '('

theorem solid_of_isWord {text : List Char} (h : ∀ c ∈ text.head?, isWord c = true) : Solid text := by
  intro c hc
  refine ⟨isBlank_of_isWord (h c hc), ?_⟩
  rintro rfl
  exact absurd (h _ hc) (by decide)

/-- no argument list starts with anything but a blank or a parenthesis -/
theorem not_opensArguments_of_solid {gap rest : List Char} (hgap : Blank gap) (hrest : Solid rest) :
    ¬ OpensArguments (gap ++ rest) := by
  rintro ⟨gap', back, hgap', htext, -⟩
  have hsplit := Tracer.span_unique htext hgap (fun c hc => (hrest c hc).1) hgap' (head_mark rfl _)
  exact (hrest '(' (by rw [hsplit.2]; rfl)).2 rfl

theorem except_parenthesis (c : Char) : Pattern.except ")" c = (c != ')') := by
  by_cases h : c = ')' <;> simp [Pattern.except, h]

theorem excepts_iff (text : List Char) : ')' ∉ text ↔ ∀ c ∈ text, Pattern.except ")" c = true := by
  simp only [except_parenthesis, bne_iff_ne]
  exact ⟨fun h c hc heq => h (heq ▸ hc), fun h hmem => h ')' hmem rfl⟩

section

variable {β : Type} {k : Cursor → Option β} {c : Cursor} {b : β}

theorem run_arguments_eq (k : Cursor → Option β) (c : Cursor) :
    Pattern.run arguments k c = Pattern.run .gap (Pattern.run (.char (· == '('))
      (Pattern.run (.any0 (Pattern.except ")")) (Pattern.run (.char (· == ')')) k))) c :=
  rfl

theorem run_arguments {gap inner rest : List Char} (hgap : Blank gap) (hinner : ')' ∉ inner)
    (hc : c.rest = gap ++ '(' :: (inner ++ [')']) ++ rest)
    (h : k (c.forward (gap ++ '(' :: (inner ++ [')'])) rest) = some b) : Pattern.run arguments k c = some b := by
  rw [List.append_assoc, List.cons_append, List.append_assoc, List.singleton_append] at hc
  rw [run_arguments_eq]
  refine Pattern.run_span hgap (head_mark rfl _) hc ?_
  rw [Pattern.run_char rfl rfl]
  refine Pattern.run_span ((excepts_iff inner).1 hinner) (head_mark rfl _) rfl ?_
  rw [Pattern.run_char rfl rfl]
  simpa only [Cursor.forward_forward, List.append_assoc, List.cons_append, List.nil_append] using h

theorem run_arguments_eq_none (h : ¬ OpensArguments c.rest) : Pattern.run arguments k c = none := by
  refine Option.eq_none_iff_forall_ne_some.2 fun b hb => h ?_
  rw [run_arguments_eq] at hb
  obtain ⟨gap, c₁, hgap, hblank, hb⟩ := Pattern.exists_of_run_span hb
  obtain ⟨opening, c₂, hopening, hx, hb⟩ := Pattern.exists_of_run_char hb
  obtain ⟨inner, c₃, hinner, -, hb⟩ := Pattern.exists_of_run_span hb
  obtain ⟨closing, c₄, hclosing, hy, -⟩ := Pattern.exists_of_run_char hb
  obtain rfl : opening = '(' := beq_iff_eq.1 hx
  obtain rfl : closing = ')' := beq_iff_eq.1 hy
  refine ⟨gap, inner ++ ')' :: c₄.rest, hblank, ?_, by simp⟩
  rw [hgap, hopening, hinner, hclosing]

/-! ## The pattern -/

theorem run_annotationUse (k : Cursor → Option β) (c : Cursor) :
    Pattern.run annotationUse k c =
      Pattern.run (.char (· == '@')) (Pattern.run .word (Pattern.run (.opt arguments) k)) c :=
  rfl

/-- what may stand behind an annotation so that it ends there -/
def Mark.EndsAt (a : Mark) (rest : List Char) : Prop :=
  a.arguments = none → (∀ c ∈ rest.head?, isWord c = false) ∧ ¬ OpensArguments rest

/-- an annotation ends before blanks with something else than an argument list behind them -/
theorem Mark.endsAt_gap {a : Mark} {gap rest : List Char} (hgap : Blank gap) (hne : a.IsMarker → gap ≠ [])
    (hrest : Solid rest) : a.EndsAt (gap ++ rest) := by
  intro hmarker
  obtain ⟨b, gap', rfl⟩ := List.exists_cons_of_ne_nil (hne hmarker)
  exact ⟨head_mark (isWord_of_isBlank (hgap b List.mem_cons_self)) _, not_opensArguments_of_solid hgap hrest⟩

/-- the argument list of an annotation is taken if it has one -/
theorem Mark.run_argumentText {a : Mark} (ha : a.WellFormed) (hplain : a.Plain) {rest : List Char}
    (hend : a.EndsAt rest) (hc : c.rest = a.argumentText ++ rest)
    (h : k (c.forward a.argumentText rest) = some b) : Pattern.run (.opt Injection.arguments) k c = some b := by
  obtain ⟨name, arguments⟩ := a
  cases arguments with
  | none =>
    have hrest : c.rest = rest := hc
    rw [Pattern.run_opt_pass (run_arguments_eq_none (hrest ▸ (hend rfl).2))]
    rwa [← Cursor.forward_nil hrest]
  | some x =>
    obtain ⟨gap, inner⟩ := x
    refine Pattern.run_opt_take (run_arguments (ha.blank _ rfl) (hplain _ rfl) hc ?_)
    rwa [Pattern.onward_forward _ _ (List.append_ne_nil_of_right_ne_nil _ (List.cons_ne_nil _ _))]

/-- a word ends where the argument list of an annotation starts -/
theorem Mark.head_argumentText {a : Mark} (ha : a.WellFormed) {rest : List Char} (hend : a.EndsAt rest) :
    ∀ c ∈ (a.argumentText ++ rest).head?, isWord c = false := by
  obtain ⟨name, arguments⟩ := a
  cases arguments with
  | none => exact (hend rfl).1
  | some x =>
    rw [argumentText, List.append_assoc]
    exact (ha.blank _ rfl).head (fun c hblank => isWord_of_isBlank hblank) (head_mark (by decide) _)

/-- **The pattern takes an annotation** within whose arguments no parenthesis closes. -/
theorem Mark.run_text {a : Mark} (ha : a.WellFormed) (hplain : a.Plain) {rest : List Char}
    (hend : a.EndsAt rest) (hc : c.rest = a.text ++ rest) (h : k (c.forward a.text rest) = some b) :
    Pattern.run annotationUse k c = some b := by
  have hsplit : c.rest = '@' :: (a.name ++ (a.argumentText ++ rest)) := by
    rw [hc, text, List.cons_append, List.append_assoc]
  rw [run_annotationUse, Pattern.run_char rfl hsplit]
  refine Pattern.run_some1 ha.name.nonempty ha.name.chars (head_argumentText ha hend) rfl ?_
  refine run_argumentText ha hplain hend rfl ?_
  rwa [Cursor.forward_forward, Cursor.forward_forward]

end

theorem Mark.matchHere_text {a : Mark} (ha : a.WellFormed) (hplain : a.Plain) {rest : List Char}
    (hend : a.EndsAt rest) : annotationUse.matchHere none (a.text ++ rest) = some ⟨a.text, []⟩ := by
  refine a.run_text ha hplain hend rfl ?_
  rw [Cursor.forward_taken, Cursor.forward_groups, Taken.text_pushAll]
  rfl

/-- an annotation starts with its mark -/
theorem run_annotationUse_other {β : Type} {k : Cursor → Option β} {c : Cursor} (h : ∀ x ∈ c.rest.head?, x ≠ '@') :
    Pattern.run annotationUse k c = none := by
  refine Option.eq_none_iff_forall_ne_some.2 fun b hb => ?_
  rw [run_annotationUse] at hb
  obtain ⟨mark, c₁, hmark, hx, -⟩ := Pattern.exists_of_run_char hb
  exact h mark (by rw [hmark]; rfl) (beq_iff_eq.1 hx)

theorem matchHere_annotationUse_other {c : Char} (h : c ≠ '@') (rest : List Char) :
    annotationUse.matchHere none (c :: rest) = none :=
  run_annotationUse_other fun _ hx => Option.some.inj hx ▸ h

/-! ## Texts without annotations -/

/-- the text with every annotation replaced -/
def annotationsReplaced (image text : List Char) : List Char := annotationUse.replacedBy image text

theorem annotationsReplaced_nil (image : List Char) : annotationsReplaced image [] = [] := rfl

theorem annotationsReplaced_other (image : List Char) {c : Char} (h : c ≠ '@') (rest : List Char) :
    annotationsReplaced image (c :: rest) = c :: annotationsReplaced image rest :=
  Pattern.replacedBy_other rfl image (matchHere_annotationUse_other h rest)

theorem annotationsReplaced_append (image : List Char) {front : List Char} (h : ∀ c ∈ front, c ≠ '@')
    (rest : List Char) : annotationsReplaced image (front ++ rest) = front ++ annotationsReplaced image rest := by
  induction front with
  | nil => rfl
  | cons c front ih =>
    obtain ⟨hc, hfront⟩ := List.forall_mem_cons.1 h
    rw [List.cons_append, annotationsReplaced_other image hc, ih hfront, List.cons_append]

theorem annotationsReplaced_text (image : List Char) {a : Mark} (ha : a.WellFormed) (hplain : a.Plain)
    {rest : List Char} (hend : a.EndsAt rest) :
    annotationsReplaced image (a.text ++ rest) = image ++ annotationsReplaced image rest :=
  Pattern.replacedBy_match rfl image (a.matchHere_text ha hplain hend) rfl a.text_ne_nil

theorem not_at_of_isWord {text : List Char} (h : ∀ c ∈ text, isWord c = true) : ∀ c ∈ text, c ≠ '@' := by
  rintro c hc rfl
  exact absurd (h _ hc) (by decide)

theorem not_at_of_blank {gap : List Char} (h : Blank gap) : ∀ c ∈ gap, c ≠ '@' := by
  rintro c hc rfl
  exact absurd (h _ hc) (by decide)

theorem annotationsReplaced_gap (image : List Char) {a : Mark} (ha : a.WellFormed) (hplain : a.Plain)
    {gap rest : List Char} (hgap : Blank gap) (hne : a.IsMarker → gap ≠ []) (hrest : Solid rest) :
    annotationsReplaced image (a.text ++ gap ++ rest) = image ++ gap ++ annotationsReplaced image rest := by
  rw [List.append_assoc, annotationsReplaced_text image ha hplain (a.endsAt_gap hgap hne hrest),
    annotationsReplaced_append image (not_at_of_blank hgap), List.append_assoc]

/-- Where the annotations of every piece are replaced, those of all pieces are. -/
theorem annotationsReplaced_flatMap {α : Type} {text bare : α → List Char} {image : List Char} {pieces : List α}
    (hpieces : ∀ a ∈ pieces, (∀ back, Solid (text a ++ back)) ∧ ∀ back, Solid back →
      annotationsReplaced image (text a ++ back) = bare a ++ annotationsReplaced image back)
    {rest : List Char} (hrest : Solid rest) :
    annotationsReplaced image (pieces.flatMap text ++ rest) =
      pieces.flatMap bare ++ annotationsReplaced image rest := by
  induction pieces with
  | nil => rfl
  | cons a pieces ih =>
    obtain ⟨⟨-, ha⟩, hothers⟩ := List.forall_mem_cons.1 hpieces
    have hbehind : Solid (pieces.flatMap text ++ rest) := by
      cases pieces with
      | nil => exact hrest
      | cons next pieces =>
        rw [List.flatMap_cons, List.append_assoc]
        exact (hothers next List.mem_cons_self).1 _
    rw [List.flatMap_cons, List.flatMap_cons, List.append_assoc, List.append_assoc, ha _ hbehind, ih hothers]

end CodeSurvey.Injection
