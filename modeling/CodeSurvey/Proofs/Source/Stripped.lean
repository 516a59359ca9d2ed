/-
Text without comments, read again.

What a turn keeps depends on a few characters ahead, and those are not the same in the stripped text: a comment there is
a space. `Ahead` says when one text shows the reader as much as another does, and `Takes.over` that a turn outside
comments is then made in the same way before either. A run keeps such a text (`Reads.ahead`): a character that the
reader looks for stands first in it only where it stood first before. So the turns of the first reading are those of the
second, without the comments (`Reads.again`). Main statement: the second reading takes nothing out
(`stripComments_stripComments`).
-/
import CodeSurvey.Proofs.Source.Turns

namespace CodeSurvey.Source

open Text

/-! ## What the reader sees ahead -/

/-- the mode in which the stripped text is read where the text is read in the mode -/
def Mode.plain : Mode → Mode
  | .lineComment | .blockComment => .code
  | other => other

/-- of what the reader looks for ahead, the second text shows only what the first one does -/
structure Ahead (rest rest' : List Char) : Prop where
  empty : rest = [] → rest' = []
  head : ∀ d, isBlank d = false → rest'.head? = some d → rest.head? = some d
  quotes : ['"', '"'] <+: rest' → ['"', '"'] <+: rest

theorem Ahead.trans {rest rest' rest'' : List Char} (h : Ahead rest rest') (h' : Ahead rest' rest'') :
    Ahead rest rest'' where
  empty hrest := h'.empty (h.empty hrest)
  head d hd hhead := h.head d hd (h'.head d hd hhead)
  quotes hquotes := h.quotes (h'.quotes hquotes)

/-- two quotes ahead: the first is there in both texts, the second one decides -/
theorem quotes_cons {c : Char} {cs ds : List Char} (h : ds.head? = some '"' → cs.head? = some '"')
    (hquotes : ['"', '"'] <+: c :: ds) : ['"', '"'] <+: c :: cs := by
  obtain ⟨rfl, hsecond⟩ := List.cons_prefix_cons.1 hquotes
  obtain ⟨tail, rfl⟩ := hsecond
  obtain ⟨tail', rfl⟩ := List.head?_eq_some_iff.1 (h rfl)
  exact ⟨tail', rfl⟩

/-- **A turn outside comments does not depend on more than it sees ahead.** -/
theorem Takes.over {mode next : Mode} {text rest rest' : List Char} {kept : List (Char × Origin)}
    (h : Takes mode text kept next rest) (hmode : mode.plain = mode) (hnext : next.plain = next)
    (hahead : Ahead rest rest') : Takes mode (kept.map Prod.fst ++ rest') kept next rest' := by
  cases h with
  | textBlockStart => exact .textBlockStart rest'
  | literalStart k _ h => exact .literalStart k rest' fun hk hquotes => h hk (hahead.quotes hquotes)
  | code c _ h hs =>
    exact .code c rest' h fun hc =>
      ⟨fun hd => (hs hc).1 (hahead.head _ (by decide) hd), fun hd => (hs hc).2 (hahead.head _ (by decide) hd)⟩
  | escape _ h c => exact .escape mode h c rest'
  | loneBackslash _ h =>
    rw [hahead.empty rfl]
    exact .loneBackslash mode h
  | textBlockEnd => exact .textBlockEnd rest'
  | inTextBlock c _ h hq => exact .inTextBlock c rest' h fun hc hquotes => hq hc (hahead.quotes hquotes)
  | literalEnd k => exact .literalEnd k rest'
  | cutOff k => exact .cutOff k rest'
  | inLiteral k c _ h => exact .inLiteral k c rest' h
  | lineStart | blockStart => exact nomatch hnext
  | lineEnd | inLineComment | blockEnd | inBlockComment => exact nomatch hmode

/-! ## What is kept, seen from before it -/

/-- outside comments what is kept starts as the text does, or with the space of a comment -/
theorem Reads.head_kept {mode last : Mode} {text : List Char} {kept : List (Char × Origin)}
    (h : Reads mode text kept last []) (hmode : mode.plain = mode) :
    (kept.map Prod.fst).head? = text.head? ∨ (kept.map Prod.fst).head? = some ' ' := by
  cases h with
  | refl => exact .inl rfl
  | step first others =>
    cases first with
    | lineStart | blockStart => exact .inr rfl
    | lineEnd | inLineComment | blockEnd | inBlockComment => exact nomatch hmode
    | _ => exact .inl rfl

theorem Reads.head_text {mode last : Mode} {text : List Char} {kept : List (Char × Origin)}
    (h : Reads mode text kept last []) (hmode : mode.plain = mode) {d : Char} (hd : isBlank d = false)
    (hhead : (kept.map Prod.fst).head? = some d) : text.head? = some d := by
  rcases h.head_kept hmode with hsame | hspace
  · rw [← hsame, hhead]
  · rw [hspace] at hhead
    obtain rfl : ' ' = d := Option.some.inj hhead
    exact absurd hd (by decide)

/-- **What is kept of a text shows the reader no more than the text does.** -/
theorem Reads.ahead {mode last : Mode} {text : List Char} {kept : List (Char × Origin)}
    (h : Reads mode text kept last []) (hmode : mode.plain = mode) : Ahead text (kept.map Prod.fst) where
  empty htext := by
    subst htext
    cases h with
    | refl => rfl
    | step first => exact nomatch first
  head d hd hhead := h.head_text hmode hd hhead
  quotes hquotes := by
    cases h with
    | refl => exact absurd hquotes (by decide)
    | step first others =>
      have hsecond := fun hnext => others.head_text (d := '"') hnext (by decide)
      cases first with
      | textBlockStart | textBlockEnd => exact ⟨_, rfl⟩
      | lineStart | blockStart => exact absurd (List.cons_prefix_cons.1 hquotes).1 (by decide)
      | escape | loneBackslash => exact absurd (List.cons_prefix_cons.1 hquotes).1 (by decide)
      | literalStart k | inLiteral k => exact quotes_cons (hsecond (by cases k <;> rfl)) hquotes
      | code | literalEnd | cutOff | inTextBlock => exact quotes_cons (hsecond rfl) hquotes
      | lineEnd | inLineComment | blockEnd | inBlockComment => exact nomatch hmode

/-! ## The second reading -/

theorem plain_of_isLiteral {mode : Mode} (h : mode.isLiteral = true) : mode.plain = mode := by
  cases mode with
  | lineComment | blockComment => exact nomatch h
  | code | inString | inChar | textBlock => rfl

theorem plain_mode (k : Literal) : k.mode.plain = k.mode := by
  cases k <;> rfl

/-- a turn is made outside comments, or all it leaves is a blank of code -/
theorem Takes.plain_or {mode next : Mode} {text rest : List Char} {kept : List (Char × Origin)}
    (h : Takes mode text kept next rest) :
    mode.plain = mode ∧ next.plain = next ∨
      mode.plain = .code ∧ next.plain = .code ∧ (kept = [] ∨ kept = [(' ', .code)] ∨ kept = [('\n', .code)]) := by
  cases h with
  | lineStart | blockStart => exact .inr ⟨rfl, rfl, .inr (.inl rfl)⟩
  | lineEnd => exact .inr ⟨rfl, rfl, .inr (.inr rfl)⟩
  | inLineComment | blockEnd | inBlockComment => exact .inr ⟨rfl, rfl, .inl rfl⟩
  | textBlockStart | code | textBlockEnd | inTextBlock => exact .inl ⟨rfl, rfl⟩
  | literalStart k => exact .inl ⟨rfl, plain_mode k⟩
  | literalEnd k | cutOff k => exact .inl ⟨plain_mode k, rfl⟩
  | inLiteral k => exact .inl ⟨plain_mode k, plain_mode k⟩
  | escape _ h | loneBackslash _ h => exact .inl ⟨plain_of_isLiteral h, plain_of_isLiteral h⟩

theorem ne_of_isBlank {c d : Char} (hc : isBlank c = true) (hd : isBlank d = false) : c ≠ d := by
  rintro rfl
  exact absurd hc (by simp [hd])

/-- a blank of code is passed -/
theorem takes_blank {c : Char} (h : isBlank c = true) (rest : List Char) :
    Takes .code (c :: rest) [(c, .code)] .code rest :=
  .code c rest ⟨ne_of_isBlank h (by decide), ne_of_isBlank h (by decide)⟩ fun hc =>
    absurd hc (ne_of_isBlank h (by decide))

/-- one turn: the second reading makes it too, or passes what a comment has left -/
theorem Takes.again {mode next last : Mode} {text rest : List Char} {kept kept' : List (Char × Origin)}
    (first : Takes mode text kept next rest) (others : Reads next rest kept' last []) :
    Reads mode.plain (kept.map Prod.fst ++ kept'.map Prod.fst) kept next.plain (kept'.map Prod.fst) := by
  rcases first.plain_or with ⟨hmode, hnext⟩ | ⟨hmode, hnext, rfl | rfl | rfl⟩
  · rw [hmode, hnext]
    exact (first.over hmode hnext (others.ahead hnext)).reads
  all_goals rw [hmode, hnext]
  · exact .refl _ _
  · exact (takes_blank (by decide) _).reads
  · exact (takes_blank (by decide) _).reads

/-- **The stripped text is read turn by turn like the text**, and each turn keeps what it takes. -/
theorem Reads.again {mode last : Mode} {text : List Char} {kept : List (Char × Origin)}
    (h : Reads mode text kept last []) : Reads mode.plain (kept.map Prod.fst) kept last.plain [] := by
  generalize htail : ([] : List Char) = tail at h
  induction h with
  | refl => subst htail; exact .refl _ _
  | step first others ih =>
    subst htail
    rw [List.map_append]
    exact (first.again others).trans (ih rfl)

/-- **Stripping twice is stripping once**, for every text, well-formed or not. -/
theorem stripComments_stripComments (text : String) : stripComments (stripComments text) = stripComments text := by
  obtain ⟨kept, last, hread, hstrip⟩ := exists_reads_text text
  rw [hstrip]
  exact stripComments_of_reads hread.again

end CodeSurvey.Source
