/-
The methods of a text and the contents of its literals.

A list of passages is a text whose literals are all closed, with a filling of the literals in each of two versions.
`methods_refilled`: whatever the fillings are, the scan finds as many methods in one version as in the other, in the
same order, with the same names and with bodies in the same places, and the other parts of a method are in both versions
what one part of the text writes. That `outlines` reads no content is what carries it; what is added here is that the
blanks trimmed off a header are passages of the text, since a literal neither starts nor ends with one.
-/
import Mathlib.Data.List.Forall2
import CodeSurvey.Proofs.Source.Outlines
import CodeSurvey.Proofs.Source.Revision

namespace CodeSurvey.Source

open Text

/-! ## Trimming -/

/-- the passages without the blanks at both ends -/
def trimPassages (xs : List Passage) : List Passage :=
  (xs.dropWhile (Passage.Is · isBlank)).rdropWhile (Passage.Is · isBlank)

theorem trimPassages_within (xs : List Passage) : trimPassages xs <:+: xs :=
  (List.rdropWhile_prefix _ _).isInfix.trans (List.dropWhile_suffix _).isInfix

/-- a passage that is no blank does not end with one -/
theorem last_not_blank (v : Version) {x : Passage} (h : x.Is isBlank = false) :
    ∃ cs c, (x.lexeme v).chars = cs ++ [c] ∧ isBlank c = false := by
  rw [← x.is_lexeme v] at h
  cases hx : x.lexeme v with
  | code c hc =>
    rw [hx] at h
    exact ⟨[], c, rfl, h⟩
  | literal k content => exact ⟨_, k.mark, rfl, by cases k <;> decide⟩

theorem Passage.chars_concat (v : Version) (xs : List Passage) (x : Passage) :
    Passage.chars v (xs ++ [x]) = Passage.chars v xs ++ (x.lexeme v).chars := by
  simp [Passage.chars]

theorem trimEnd_chars (v : Version) (xs : List Passage) :
    trimEnd (Passage.chars v xs) = Passage.chars v (xs.rdropWhile (Passage.Is · isBlank)) := by
  show (Passage.chars v xs).rdropWhile isBlank = _
  induction xs using List.reverseRecOn with
  | nil => rfl
  | append_singleton xs x ih =>
    rw [List.rdropWhile_concat]
    rcases blank_cases v x with ⟨hx, c, hc, hchars⟩ | ⟨hx, -⟩
    · rw [if_pos hx, ← ih, Passage.chars_concat, hchars, List.rdropWhile_concat_pos _ _ _ hc]
    · obtain ⟨cs, c, hchars, hc⟩ := last_not_blank v hx
      rw [if_neg (by simp [hx]), Passage.chars_concat, hchars, ← List.append_assoc,
        List.rdropWhile_concat_neg _ _ _ (by simp [hc])]

theorem trimmed_text (v : Version) (xs : List Passage) :
    trimmed (Passage.text v xs) = Passage.text v (trimPassages xs) := by
  rw [trimmed, Passage.text_eq, String.toList_ofList, trim, trimStart, dropWhile_chars, trimEnd_chars,
    ← Passage.text_eq, trimPassages]

/-! ## Methods -/

/-- one part of the passages writes the first text in the old version and the second in the new one -/
def SamePart (xs : List Passage) (s t : String) : Prop :=
  ∃ part, part <:+: xs ∧ Passage.text .old part = s ∧ Passage.text .new part = t

/-- the methods have one name, and their other parts differ by the fillings only -/
structure Method.Refilled (xs : List Passage) (m m' : Method) : Prop where
  name : m.name = m'.name
  header : SamePart xs m.header m'.header
  params : SamePart xs m.params m'.params
  body : Option.Rel (SamePart xs) m.body m'.body

/-- the parts of an outline are parts of the text -/
theorem Outline.Fits.parts {o : Outline} {before rest : List Passage} (h : o.Fits before rest) (x : Passage) :
    o.header <:+: before.reverse ++ x :: rest ∧ o.params <:+: before.reverse ++ x :: rest ∧
      o.last <:+: before.reverse ++ x :: rest := by
  obtain ⟨close, after, hrest, -⟩ := h.rest_eq
  rw [h.before_eq, hrest]
  refine ⟨⟨o.lead, o.name ++ o.gap ++ x :: (o.params ++ close :: (o.clause ++ o.last ++ after)), ?_⟩,
    ⟨o.lead ++ o.header ++ o.name ++ o.gap ++ [x], close :: (o.clause ++ o.last ++ after), ?_⟩,
    ⟨o.lead ++ o.header ++ o.name ++ o.gap ++ [x] ++ o.params ++ [close] ++ o.clause, after, ?_⟩⟩ <;>
  simp only [List.append_assoc, List.cons_append, List.nil_append]

theorem Outline.Fits.refilled {o : Outline} {before rest : List Passage} (h : o.Fits before rest) (x : Passage) :
    Method.Refilled (before.reverse ++ x :: rest) (o.method .old) (o.method .new) := by
  obtain ⟨hheader, hparams, hlast⟩ := h.parts x
  constructor
  case name => exact congrArg textOf (Passage.map_lexeme_of_kept h.named .old .new)
  case header =>
    exact ⟨trimPassages o.header, (trimPassages_within _).trans hheader, (trimmed_text .old _).symm,
      (trimmed_text .new _).symm⟩
  case params => exact ⟨o.params, hparams, rfl, rfl⟩
  case body =>
    unfold Outline.method
    cases o.isBlock with
    | false => exact .none
    | true => exact .some ⟨o.last, hlast, rfl, rfl⟩

/-- **The methods of a text do not depend on what its literals hold.** -/
theorem methods_refilled (xs : List Passage) :
    List.Forall₂ (Method.Refilled xs) (methods (Passage.text .old xs)) (methods (Passage.text .new xs)) := by
  rw [methods_text, methods_text, List.forall₂_map_left_iff, List.forall₂_map_right_iff, List.forall₂_same]
  intro o ho
  obtain ⟨front, x, rest, hfits, -, heq⟩ := fits_of_mem ho
  rw [List.reverse_nil, List.nil_append] at heq
  rw [← heq]
  exact hfits.refilled x

end CodeSurvey.Source
