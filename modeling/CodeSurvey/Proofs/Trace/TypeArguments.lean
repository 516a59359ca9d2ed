/-
Type arguments, removed from the inside out.

One round removes every innermost pair of brackets with what stands between, and the loop makes rounds until there is
none. A round with something to remove makes the text shorter, so the loop ends on every text, balanced or not, after
at most as many rounds as there are characters (`dropTypeArguments_ends`).

`Nested` says that the brackets of a text are balanced, and what stands outside of them. A round keeps that
(`Nested.innermostRemoved`), and a nested text without innermost arguments has no brackets at all, so what the loop ends
with is what stood outside (`dropTypeArguments_nested`), however deep the arguments are.
-/
import Mathlib.Logic.Function.Iterate
import CodeSurvey.Proofs.Pattern.Replacing
import CodeSurvey.Proofs.Trace.Calls
import CodeSurvey.Trace.Injection

namespace CodeSurvey.Injection

open Text
open Tracer (head_mark span_unique)

/-! ## Innermost arguments -/

def isBracket (c : Char) : Bool := c == '<' || c == '>'

/-- no bracket stands in the text -/
def Bare (text : List Char) : Prop := ∀ c ∈ text, isBracket c = false

instance (text : List Char) : Decidable (Bare text) := inferInstanceAs (Decidable (∀ c ∈ text, isBracket c = false))

theorem except_brackets (c : Char) : Pattern.except "<>" c = !isBracket c := by
  by_cases h : c = '<'
  · subst h; rfl
  · by_cases h' : c = '>'
    · subst h'; rfl
    · simp [Pattern.except, isBracket, h, h']

theorem bare_iff (text : List Char) : Bare text ↔ ∀ c ∈ text, Pattern.except "<>" c = true := by
  simp [Bare, except_brackets]

theorem run_typeArguments {β : Type} (k : Cursor → Option β) (c : Cursor) :
    Pattern.run typeArguments k c = Pattern.run (.char (· == '<'))
      (Pattern.run (.any0 (Pattern.except "<>")) (Pattern.run (.char (· == '>')) k)) c :=
  rfl

theorem matchHere_typeArguments {inner : List Char} (h : Bare inner) (rest : List Char) :
    typeArguments.matchHere none ('<' :: (inner ++ '>' :: rest)) = some ⟨'<' :: (inner ++ ['>']), []⟩ := by
  rw [Pattern.matchHere, run_typeArguments, Pattern.run_char rfl rfl]
  refine Pattern.run_span ((bare_iff inner).1 h) (head_mark rfl _) rfl ?_
  rw [Pattern.run_char rfl rfl]
  simp only [Cursor.forward_taken, Cursor.forward_groups, Taken.pushAll_append, Taken.text_pushAll, List.map_nil]
  rfl

theorem exists_typeArguments {lead : Option Char} {text : List Char} {m : Match}
    (h : typeArguments.matchHere lead text = some m) :
    ∃ inner rest, text = '<' :: (inner ++ '>' :: rest) ∧ Bare inner := by
  rw [Pattern.matchHere, run_typeArguments] at h
  obtain ⟨opening, c₁, htext, hopening, h⟩ := Pattern.exists_of_run_char h
  obtain ⟨inner, c₂, hinner, hbare, h⟩ := Pattern.exists_of_run_span h
  obtain ⟨closing, c₃, hclosing, hmark, -⟩ := Pattern.exists_of_run_char h
  obtain rfl : opening = '<' := beq_iff_eq.1 hopening
  obtain rfl : closing = '>' := beq_iff_eq.1 hmark
  exact ⟨inner, c₃.rest, by rw [← hclosing, ← hinner]; exact htext, (bare_iff inner).2 hbare⟩

theorem matchHere_typeArguments_other {c : Char} (h : c ≠ '<') (rest : List Char) :
    typeArguments.matchHere none (c :: rest) = none := by
  refine Option.eq_none_iff_forall_ne_some.2 fun m hm => h ?_
  obtain ⟨inner, back, htext, -⟩ := exists_typeArguments hm
  exact (List.cons.inj htext).1

/-! ## One round -/

/-- the text without its innermost type arguments -/
def innermostRemoved (text : List Char) : List Char := typeArguments.replacedBy [] text

theorem innermostRemoved_other {c : Char} (h : c ≠ '<') (rest : List Char) :
    innermostRemoved (c :: rest) = c :: innermostRemoved rest :=
  Pattern.replacedBy_other rfl [] (matchHere_typeArguments_other h rest)

theorem innermostRemoved_arguments {inner : List Char} (h : Bare inner) (rest : List Char) :
    innermostRemoved ('<' :: (inner ++ '>' :: rest)) = innermostRemoved rest := by
  have hsplit : '<' :: (inner ++ '>' :: rest) = ('<' :: (inner ++ ['>'])) ++ rest := by simp
  have hmatch := matchHere_typeArguments h rest
  rw [hsplit] at hmatch ⊢
  exact Pattern.replacedBy_match rfl [] hmatch rfl (List.cons_ne_nil _ _)

/-- an opening bracket stays where another one comes before the next closing one -/
theorem innermostRemoved_outer {front : List Char} (h : Bare front) (rest : List Char) :
    innermostRemoved ('<' :: (front ++ '<' :: rest)) = '<' :: innermostRemoved (front ++ '<' :: rest) := by
  refine Pattern.replacedBy_other rfl [] (Option.eq_none_iff_forall_ne_some.2 fun m hm => ?_)
  obtain ⟨inner, back, htext, hbare⟩ := exists_typeArguments hm
  have hbehind := (span_unique (p := fun c => !isBracket c) (List.cons.inj htext).2 (by simpa [Bare] using h)
    (head_mark rfl _) (by simpa [Bare] using hbare) (head_mark rfl _)).2
  exact absurd (List.cons.inj hbehind).1 (by decide)

/-- the text with balanced brackets, and what stands outside of them -/
inductive Nested : List Char → List Char → Prop
  | nil : Nested [] []
  | char {c : Char} {text raw : List Char} (hc : isBracket c = false) (h : Nested text raw) :
    Nested (c :: text) (c :: raw)
  | arguments {inner within text raw : List Char} (hinner : Nested inner within) (h : Nested text raw) :
    Nested ('<' :: (inner ++ '>' :: text)) raw

namespace Nested

variable {text raw : List Char}

theorem append {text' raw' : List Char} (h : Nested text raw) (h' : Nested text' raw') :
    Nested (text ++ text') (raw ++ raw') := by
  induction h with
  | nil => exact h'
  | char hc _ ih => exact .char hc ih
  | arguments hinner _ _ ih =>
    rw [List.cons_append, List.append_assoc]
    exact .arguments hinner ih

theorem of_bare (h : Bare text) : Nested text text := by
  induction text with
  | nil => exact .nil
  | cons c text ih =>
    obtain ⟨hc, hothers⟩ := List.forall_mem_cons.1 h
    exact .char hc (ih hothers)

theorem bare_raw (h : Nested text raw) : Bare raw := by
  induction h with
  | nil => exact fun _ hc => absurd hc List.not_mem_nil
  | char hc _ ih => exact List.forall_mem_cons.2 ⟨hc, ih⟩
  | arguments _ _ _ ih => exact ih

/-- the first bracket of a nested text opens -/
theorem bare_or_opens (h : Nested text raw) : Bare text ∨ ∃ front back, text = front ++ '<' :: back ∧ Bare front := by
  induction h with
  | nil => exact .inl fun _ hc => absurd hc List.not_mem_nil
  | @char c text raw hc _ ih =>
    rcases ih with hbare | ⟨front, back, rfl, hfront⟩
    · exact .inl (List.forall_mem_cons.2 ⟨hc, hbare⟩)
    · exact .inr ⟨c :: front, back, rfl, List.forall_mem_cons.2 ⟨hc, hfront⟩⟩
  | arguments => exact .inr ⟨[], _, rfl, fun _ hc => absurd hc List.not_mem_nil⟩

/-- **One round keeps what stands outside**, and what follows the text goes on by itself. -/
theorem innermostRemoved_append (h : Nested text raw) :
    ∃ text', Nested text' raw ∧ ∀ rest, innermostRemoved (text ++ rest) = text' ++ innermostRemoved rest := by
  induction h with
  | nil => exact ⟨[], .nil, fun _ => rfl⟩
  | @char c text raw hc _ ih =>
    obtain ⟨text', hnested, happend⟩ := ih
    have hne : c ≠ '<' := by
      rintro rfl
      exact absurd hc (by decide)
    refine ⟨c :: text', .char hc hnested, fun rest => ?_⟩
    rw [List.cons_append, innermostRemoved_other hne, happend, List.cons_append]
  | @arguments inner within text raw hinner _ ihinner ih =>
    obtain ⟨text', hnested, happend⟩ := ih
    obtain ⟨inner', hnested', happend'⟩ := ihinner
    have hsplit : ∀ rest, '<' :: (inner ++ '>' :: text) ++ rest = '<' :: (inner ++ '>' :: (text ++ rest)) := by
      intro rest
      simp
    rcases hinner.bare_or_opens with hbare | ⟨front, back, hfront, hbare⟩
    · refine ⟨text', hnested, fun rest => ?_⟩
      rw [hsplit, innermostRemoved_arguments hbare, happend]
    · refine ⟨'<' :: (inner' ++ '>' :: text'), .arguments hnested' hnested, fun rest => ?_⟩
      have houter : innermostRemoved ('<' :: (inner ++ '>' :: (text ++ rest))) =
          '<' :: innermostRemoved (inner ++ '>' :: (text ++ rest)) := by
        rw [hfront, List.append_assoc, List.cons_append]
        exact innermostRemoved_outer hbare _
      rw [hsplit, houter, happend', innermostRemoved_other (by decide), happend]
      simp

theorem innermostRemoved (h : Nested text raw) : Nested (innermostRemoved text) raw := by
  obtain ⟨text', hnested, happend⟩ := h.innermostRemoved_append
  have hround := happend []
  rw [List.append_nil, show Injection.innermostRemoved [] = [] from rfl, List.append_nil] at hround
  exact hround ▸ hnested

/-- a nested text with brackets has innermost arguments -/
theorem eq_raw_or_innermost (h : Nested text raw) :
    text = raw ∨ ∃ front inner rest, text = front ++ '<' :: (inner ++ '>' :: rest) ∧ Bare inner := by
  induction h with
  | nil => exact .inl rfl
  | @char c text raw hc _ ih =>
    rcases ih with rfl | ⟨front, inner, rest, rfl, hbare⟩
    · exact .inl rfl
    · exact .inr ⟨c :: front, inner, rest, rfl, hbare⟩
  | @arguments inner within text raw hinner _ ihinner _ =>
    rcases ihinner with rfl | ⟨front, inner', rest, rfl, hbare⟩
    · exact .inr ⟨[], inner, text, rfl, hinner.bare_raw⟩
    · exact .inr ⟨'<' :: front, inner', rest ++ '>' :: text, by simp, hbare⟩

end Nested

/-! ## The loop -/

/-- one round of the loop -/
def oneRound (s : String) : String := typeArguments.replaceAll (fun _ => "") s

theorem toList_oneRound (s : String) : (oneRound s).toList = innermostRemoved s.toList := by
  rw [oneRound, Pattern.replaceAll_eq, String.toList_ofList]
  rfl

theorem length_oneRound_lt {s : String} (h : typeArguments.occurs s = true) : (oneRound s).length < s.length := by
  have hempty : ∀ lead, typeArguments.matchHere lead [] = none := by
    intro lead
    refine Option.eq_none_iff_forall_ne_some.2 fun m hm => ?_
    obtain ⟨inner, rest, htext, -⟩ := exists_typeArguments hm
    exact nomatch htext
  rw [← String.length_toList, ← String.length_toList, toList_oneRound]
  exact Pattern.length_replacedBy_lt hempty h

/-- **The loop ends on every text**, balanced or not: some number of rounds, at most the length of the text, have
something to remove, and behind them nothing is left to remove. -/
theorem dropTypeArguments_ends (s : String) :
    ∃ n ≤ s.length, (∀ i < n, typeArguments.occurs (oneRound^[i] s) = true) ∧
      typeArguments.occurs (oneRound^[n] s) = false ∧
      ∀ fuel, s.length ≤ fuel → dropTypeArguments fuel s = oneRound^[n] s := by
  induction hlength : s.length using Nat.strongRecOn generalizing s with
  | _ length ih =>
    by_cases hoccurs : typeArguments.occurs s = true
    · have hlt := length_oneRound_lt hoccurs
      obtain ⟨n, hn, hrounds, hend, hdrop⟩ := ih _ (hlength ▸ hlt) (oneRound s) rfl
      refine ⟨n + 1, by omega, fun i hi => ?_, hend, fun fuel hfuel => ?_⟩
      · cases i with
        | zero => exact hoccurs
        | succ i => exact hrounds i (Nat.lt_of_succ_lt_succ hi)
      · obtain ⟨fuel, rfl⟩ : ∃ m, fuel = m + 1 := ⟨fuel - 1, by omega⟩
        rw [dropTypeArguments, if_pos hoccurs]
        exact hdrop fuel (by omega)
    · refine ⟨0, Nat.zero_le _, fun i hi => absurd hi (Nat.not_lt_zero i), Bool.eq_false_iff.2 hoccurs,
        fun fuel _ => ?_⟩
      cases fuel with
      | zero => rfl
      | succ fuel => rw [dropTypeArguments, if_neg hoccurs]; rfl

theorem Nested.rounds {text raw : List Char} (h : Nested text raw) (n : Nat) :
    Nested (oneRound^[n] (String.ofList text)).toList raw := by
  induction n with
  | zero => exact (String.toList_ofList (l := text)).symm ▸ h
  | succ n ih =>
    rw [Function.iterate_succ_apply', toList_oneRound]
    exact ih.innermostRemoved

/-- **Of a nested text the loop leaves what stands outside the type arguments.** -/
theorem dropTypeArguments_nested {text raw : List Char} (h : Nested text raw) {fuel : Nat}
    (hfuel : text.length ≤ fuel) : dropTypeArguments fuel (String.ofList text) = String.ofList raw := by
  obtain ⟨n, -, -, hend, hdrop⟩ := dropTypeArguments_ends (String.ofList text)
  rw [hdrop fuel (by rwa [String.length_ofList])]
  rcases (h.rounds n).eq_raw_or_innermost with hraw | ⟨front, inner, rest, htext, hbare⟩
  · rw [← hraw, String.ofList_toList]
  · have hoccurs := (Pattern.occurs_iff (p := typeArguments) rfl _).2
      ⟨front, _, htext, by rw [matchHere_typeArguments hbare]; rfl⟩
    rw [hoccurs] at hend
    cases hend

end CodeSurvey.Injection
