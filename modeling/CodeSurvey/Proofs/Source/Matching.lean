/-
Delimiters found by counting.

`Balanced` is the grammar of text whose delimiters stand in pairs, and `closing` counts. `closing_balanced`: counting
comes out of such text at the depth it went in with, by induction on the grammar; so the delimiter that closes a block is
the one behind its inner text (`closing_block`). Literals play no part in it, since the masked copy shows no delimiter of
theirs.
-/
import CodeSurvey.Proofs.Source.Lexeme

namespace CodeSurvey.Source

open Text

/-- text in which each opening delimiter has its closing one, and each closing one its opening one -/
inductive Balanced (opening closer : Char) : List Lexeme → Prop where
  | nil : Balanced opening closer []
  | other {l ls} : l.Is (· == opening) = false → l.Is (· == closer) = false → Balanced opening closer ls →
      Balanced opening closer (l :: ls)
  | block {o inner c ls} : o.Is (· == opening) = true → Balanced opening closer inner → c.Is (· == closer) = true →
      Balanced opening closer ls → Balanced opening closer (o :: inner ++ c :: ls)

/-! ## One byte at a time -/

theorem closing_other {opening closer b : UInt8} (h : b ≠ opening) (h' : b ≠ closer) (depth : Nat) (rest : Bytes) :
    closing opening closer depth (b :: rest) = (closing opening closer depth rest).map (· + 1) := by
  rw [closing.eq_def]
  dsimp only
  rw [if_neg h, if_neg h']

theorem closing_open (opening closer : UInt8) (depth : Nat) (rest : Bytes) :
    closing opening closer depth (opening :: rest) = (closing opening closer (depth + 1) rest).map (· + 1) := by
  rw [closing.eq_def]
  dsimp only
  rw [if_pos rfl]

theorem closing_close {opening closer : UInt8} (h : closer ≠ opening) (depth : Nat) (rest : Bytes) :
    closing opening closer (depth + 2) (closer :: rest) = (closing opening closer (depth + 1) rest).map (· + 1) := by
  rw [closing.eq_def]
  dsimp only
  rw [if_neg h, if_pos rfl]

theorem closing_last {opening closer : UInt8} (h : closer ≠ opening) (rest : Bytes) :
    closing opening closer 1 (closer :: rest) = some 0 := by
  rw [closing.eq_def]
  dsimp only
  rw [if_neg h, if_pos rfl]

theorem closing_early {opening closer : UInt8} (h : closer ≠ opening) (rest : Bytes) :
    closing opening closer 0 (closer :: rest) = none := by
  rw [closing.eq_def]
  dsimp only
  rw [if_neg h, if_pos rfl]

theorem closing_pass {opening closer : UInt8} {bs : Bytes} (h : ∀ b ∈ bs, b ≠ opening ∧ b ≠ closer) (depth : Nat)
    (rest : Bytes) :
    closing opening closer depth (bs ++ rest) = (closing opening closer depth rest).map (· + bs.length) := by
  induction bs with
  | nil => simp
  | cons b bs ih =>
    have hb := h b List.mem_cons_self
    rw [List.cons_append, closing_other hb.1 hb.2, ih fun b' hb' => h b' (List.mem_cons_of_mem b hb'), Option.map_map]
    rfl

/-! ## Balanced text -/

/-- two delimiters and their bytes -/
structure Delimiters (opening closer : Char) (o c : UInt8) : Prop where
  ne : c ≠ o
  opens : Shows (· == o) (· == opening)
  closes : Shows (· == c) (· == closer)
  opening_form : String.utf8EncodeChar opening = [o]
  closer_form : String.utf8EncodeChar closer = [c]

theorem parens : Delimiters '(' ')' parenOpen parenClose where
  ne := by decide
  opens := shows_delimiter (d := '(') (by decide) (by decide) fun k => by cases k <;> decide
  closes := shows_delimiter (d := ')') (by decide) (by decide) fun k => by cases k <;> decide
  opening_form := by decide
  closer_form := by decide

theorem braces : Delimiters '{' '}' braceOpen braceClose where
  ne := by decide
  opens := shows_delimiter (d := '{') (by decide) (by decide) fun k => by cases k <;> decide
  closes := shows_delimiter (d := '}') (by decide) (by decide) fun k => by cases k <;> decide
  opening_form := by decide
  closer_form := by decide

section

variable {opening closer : Char} {o c : UInt8} (hd : Delimiters opening closer o c) {ls : List Lexeme}

include hd

/-- Balanced text leaves the depth as it is. -/
theorem closing_balanced (h : Balanced opening closer ls) (depth : Nat) (rest : Bytes) :
    closing o c (depth + 1) (shownOf ls ++ rest) = (closing o c (depth + 1) rest).map (· + (shownOf ls).length) := by
  induction h generalizing depth rest with
  | nil => simp
  | other hl hl' h ih =>
    rename_i l ls
    have hpass : ∀ b ∈ l.shown, b ≠ o ∧ b ≠ c := by
      intro b hb
      have hopen := (hd.opens.mem_shown hb).trans hl
      have hclose := (hd.closes.mem_shown hb).trans hl'
      exact ⟨beq_eq_false_iff_ne.1 hopen, beq_eq_false_iff_ne.1 hclose⟩
    rw [shownOf_cons, List.append_assoc, closing_pass hpass, ih, Option.map_map, List.length_append]
    congr 1
    funext n
    simp only [Function.comp_apply]
    omega
  | block hlo hinner hlc hls ihinner ih =>
    rename_i lo inner lc ls
    have hlo : lo.shown = [o] := shown_of_is hlo hd.opening_form
    have hlc : lc.shown = [c] := shown_of_is hlc hd.closer_form
    simp only [shownOf_append, shownOf_cons, hlo, hlc, List.append_assoc, List.cons_append, List.nil_append]
    rw [closing_open, ihinner, closing_close hd.ne, ih]
    simp only [Option.map_map, List.length_cons, List.length_append]
    congr 1
    funext n
    simp only [Function.comp_apply]
    omega

/-- The delimiter that closes balanced text is the one behind it. -/
theorem closing_block (h : Balanced opening closer ls) (rest : Bytes) :
    closing o c 0 (o :: shownOf ls ++ c :: rest) = some ((shownOf ls).length + 1) := by
  rw [List.cons_append, closing_open, closing_balanced hd h, closing_last hd.ne]
  simp

end

end CodeSurvey.Source
