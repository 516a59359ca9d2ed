/-
Lines taken by themselves.

A move looks at most two bytes ahead, and a line feed is none of the bytes it looks for. So a scan of a front, a line
feed and a back makes the moves of the front alone and goes on from the state after it (`scan_newline`), unless the
front ends with a backslash that would escape the line feed: this is the only move that reaches beyond the front
(`skip_eq_zero_or`). In code, in a line comment and in a literal a line feed then leads back to code
(`scan_endsLine`). Main statement: outside text blocks and block comments, comments are taken out line by line
(`stripComments_newline`).
-/
import CodeSurvey.Proofs.Source.Turns

namespace CodeSurvey.Source

open Text

/-! ## Text and its bytes -/

theorem encode_append (s t : String) : encode (s ++ t) = encode s ++ encode t := by
  rw [encode, String.toList_append, encodeChars_append, encode, encode]

/-- What a scan keeps is a text: reading it loses no byte. -/
theorem encode_stripComments (text : String) : encode (stripComments text) = stripBytes (encode text) := by
  obtain ⟨kept, last, hread, hstrip⟩ := exists_reads_text text
  rw [hstrip, encode, String.toList_ofList, ← map_fst_encodeMarked, ← hread.turns_eq.1, map_fst_turns, encode]

/-! ## The state at the end -/

/-- where the scan of a text leaves the reader -/
def endState (text : String) : State := (scan ⟨.code, 0⟩ (encode text)).2

/-- a line feed ends the line here: the reader is in code, in a line comment, or in a string or character literal and
there not right behind a backslash that still waits for what it escapes -/
def State.EndsLine (st : State) : Prop :=
  st.mode = .code ∨ st.mode = .lineComment ∨ (st.mode = .inString ∨ st.mode = .inChar) ∧ st.skip = 0

instance (st : State) : Decidable st.EndsLine :=
  inferInstanceAs (Decidable
    (st.mode = .code ∨ st.mode = .lineComment ∨ (st.mode = .inString ∨ st.mode = .inChar) ∧ st.skip = 0))

theorem scan_cons (mode : Mode) (b : UInt8) (rest : Bytes) :
    scan ⟨mode, 0⟩ (b :: rest) =
      ((move mode b rest).kept ++ (scan ⟨(move mode b rest).mode, (move mode b rest).more⟩ rest).1,
        (scan ⟨(move mode b rest).mode, (move mode b rest).more⟩ rest).2) :=
  rfl

theorem length_of_head? {rest : Bytes} {b : UInt8} (h : rest.head? = some b) : 1 ≤ rest.length := by
  cases rest with
  | nil => exact nomatch h
  | cons x xs => exact Nat.le_add_left _ _

theorem length_of_quotesFollow {rest : Bytes} (h : quotesFollow rest = true) : 2 ≤ rest.length := by
  match rest, h with
  | [], h => exact nomatch h
  | [x], h => simp [quotesFollow] at h
  | x :: y :: xs, _ => simp

/-- a move stays within the bytes, except at a backslash in a literal that is the last of them -/
theorem more_le_or (mode : Mode) (b : UInt8) (rest : Bytes) :
    (move mode b rest).more ≤ rest.length ∨
      rest = [] ∧ b = backslash ∧ (move mode b rest).mode.isLiteral = true := by
  by_cases hliteral : mode.isLiteral = true
  · by_cases hback : b = backslash
    · subst hback
      rw [move_escape hliteral]
      cases rest with
      | nil => exact .inr ⟨rfl, rfl, hliteral⟩
      | cons x xs => exact .inl (Nat.le_add_left _ _)
    · refine .inl ?_
      obtain rfl | ⟨k, rfl⟩ := literal_cases hliteral
      · by_cases hclose : b = quote ∧ quotesFollow rest = true
        · obtain ⟨rfl, hfollow⟩ := hclose
          have hmove : move .textBlock quote rest = ⟨[quote, quote, quote], .code, 2⟩ := by simp [move, hback, hfollow]
          rw [hmove]
          exact length_of_quotesFollow hfollow
        · rw [move_textBlock hback fun hb => by simpa [hb] using hclose]
          exact Nat.zero_le _
      · cases k <;> simp [move, Literal.mode, hback]
  · refine .inl ?_
    cases mode with
    | code =>
      simp only [move]
      split_ifs with hline hblock htext
      · simp only [Bool.and_eq_true, decide_eq_true_eq] at hline
        exact length_of_head? hline.2
      · simp only [Bool.and_eq_true, decide_eq_true_eq] at hblock
        exact length_of_head? hblock.2
      · simp only [Bool.and_eq_true, decide_eq_true_eq] at htext
        exact length_of_quotesFollow htext.2
      all_goals exact Nat.zero_le _
    | lineComment => simp only [move]; split_ifs <;> exact Nat.zero_le _
    | blockComment =>
      simp only [move]
      split_ifs with h
      · simp only [Bool.and_eq_true, decide_eq_true_eq] at h
        exact length_of_head? h.2
      · exact Nat.zero_le _
    | inString | inChar | textBlock => exact absurd rfl hliteral

/-- **Only a backslash at the end, in a literal, leaves something open.** -/
theorem skip_eq_zero_or {st : State} {bs : Bytes} (h : st.skip ≤ bs.length) :
    (scan st bs).2.skip = 0 ∨ bs.getLast? = some backslash ∧ (scan st bs).2.mode.isLiteral = true := by
  induction bs generalizing st with
  | nil => exact .inl (Nat.le_zero.1 h)
  | cons b rest ih =>
    obtain ⟨mode, skip⟩ := st
    have hlast : rest.getLast? = some backslash → (b :: rest).getLast? = some backslash := by
      intro hrest
      rw [List.getLast?_cons, hrest]
      rfl
    cases skip with
    | succ n =>
      have hrest : (⟨mode, n⟩ : State).skip ≤ rest.length := Nat.le_of_succ_le_succ h
      exact (ih hrest).imp_right fun hend => ⟨hlast hend.1, hend.2⟩
    | zero =>
      rw [scan_cons]
      rcases more_le_or mode b rest with hmore | ⟨rfl, rfl, hliteral⟩
      · exact (ih hmore).imp_right fun hend => ⟨hlast hend.1, hend.2⟩
      · exact .inr ⟨rfl, hliteral⟩

theorem skip_endState {text : String} (h : (endState text).EndsLine) : (endState text).skip = 0 := by
  have hstart : (⟨.code, 0⟩ : State).skip ≤ (encode text).length := Nat.zero_le _
  rcases skip_eq_zero_or hstart with hskip | ⟨-, hliteral⟩
  · exact hskip
  · change (endState text).mode.isLiteral = true at hliteral
    rcases h with h | h | ⟨-, hskip⟩
    · exact absurd hliteral (by simp [h, Mode.isLiteral])
    · exact absurd hliteral (by simp [h, Mode.isLiteral])
    · exact hskip

/-! ## Over a line feed -/

/-- what a move looks for is no line feed -/
theorem move_append_newline {mode : Mode} {b : UInt8} {rest : Bytes}
    (h : rest = [] → (move mode b rest).more = 0) (tail : Bytes) :
    move mode b (rest ++ newline :: tail) = move mode b rest := by
  have hhead : ∀ d, d ≠ newline → ((rest ++ newline :: tail).head? = some d ↔ rest.head? = some d) := by
    intro d hd
    cases rest with
    | nil => simp [hd.symm]
    | cons x xs => rfl
  have hquotes : quotesFollow (rest ++ newline :: tail) = quotesFollow rest := by
    match rest with
    | [] => rfl
    | [x] => simp [quotesFollow, newline, quote]
    | x :: y :: xs => rfl
  by_cases hliteral : mode.isLiteral = true
  · by_cases hback : b = backslash
    · subst hback
      rw [move_escape hliteral] at h
      rw [move_escape hliteral, move_escape hliteral]
      cases rest with
      | nil => exact absurd (h rfl) (by simp)
      | cons x xs => rfl
    · obtain rfl | ⟨k, rfl⟩ := literal_cases hliteral
      · simp only [move, if_neg hback, hquotes]
      · cases k <;> simp [move, Literal.mode, hback]
  · cases mode with
    | code => simp only [move, hhead slash (by decide), hhead star (by decide), hquotes]
    | lineComment => rfl
    | blockComment => simp only [move, hhead slash (by decide)]
    | inString | inChar | textBlock => exact absurd rfl hliteral

/-- **A scan up to a line feed does not depend on what stands behind it.** -/
theorem scan_newline {st : State} {bs : Bytes} (h : (scan st bs).2.skip = 0) (tail : Bytes) :
    (scan st (bs ++ newline :: tail)).1 = (scan st bs).1 ++ (scan (scan st bs).2 (newline :: tail)).1 := by
  induction bs generalizing st with
  | nil => rfl
  | cons b rest ih =>
    obtain ⟨mode, skip⟩ := st
    cases skip with
    | succ n => exact ih h
    | zero =>
      rw [scan_cons] at h
      have hmore : rest = [] → (move mode b rest).more = 0 := by
        rintro rfl
        exact h
      rw [List.cons_append, scan_cons, scan_cons, move_append_newline hmore, ih h, List.append_assoc]

/-- behind the line feed the reader starts afresh -/
theorem scan_endsLine {st : State} (h : st.EndsLine) (hskip : st.skip = 0) (tail : Bytes) :
    (scan st (newline :: tail)).1 = newline :: stripBytes tail := by
  obtain ⟨mode, skip⟩ := st
  obtain rfl : skip = 0 := hskip
  have hmove : move mode newline tail = ⟨[newline], .code, 0⟩ := by
    rcases h with h | h | ⟨h | h, -⟩
    all_goals
      obtain rfl : mode = _ := h
      rfl
  rw [scan_cons, hmove]
  rfl

/-- **Comments are taken out line by line**, where a line does not end in a text block or in a block comment; a literal
that is still open there changes nothing on later lines. -/
theorem stripComments_newline {front : String} (h : (endState front).EndsLine) (back : String) :
    stripComments (front ++ "\n" ++ back) = stripComments front ++ "\n" ++ stripComments back := by
  apply encode_injective
  have hbytes : encode "\n" = [newline] := by decide
  simp only [encode_append, encode_stripComments, hbytes, List.append_assoc, List.singleton_append]
  rw [stripBytes, scan_newline (skip_endState h)]
  exact congrArg (_ ++ ·) (scan_endsLine h (skip_endState h) _)

/-- an open string with a comment start and an escaped quote, then an open character literal and a line comment -/
theorem stripComments_openQuotes :
    (endState "a = \"it's // \\\"").EndsLine ∧
      stripComments ("a = \"it's // \\\"" ++ "\n" ++ "b = '/* // c\n/* d */ e") =
        "a = \"it's // \\\"" ++ "\n" ++ "b = '/* // c\n  e" := by
  have hend : (endState "a = \"it's // \\\"").EndsLine := by decide +kernel
  refine ⟨hend, ?_⟩
  rw [stripComments_newline hend]
  decide +kernel

end CodeSurvey.Source
