/-
Source text as code, literals and comments.

A `Segment` is a stretch of code without quotes and comment starts, a closed literal, a closed text block or a comment.
Each of them carries the proof that it ends where it says: the closing quotes of a text block are the first ones that no
backslash stands before, and no `*/` stands in a block comment before its end. `Fits` says what may follow a segment so
that the reader does not see a longer token across the two, and `Separated` says it of a list of them.

`stripComments_segments`: a text made of separated segments keeps its code and its literals as they are, and each
comment leaves a space, a line comment its line feed as well. One run of turns for each kind of segment proves it
(`reads_segment`), all of them by `reads_items`, where the reader stays in its mode over item after item.
-/
import Mathlib.Data.List.Infix
import CodeSurvey.Proofs.Source.Turns

namespace CodeSurvey.Source

/-! ## Segments -/

/-- something within a text block -/
inductive BlockItem where
  | plain (c : Char) (h : c ≠ '\\')
  /-- a backslash and the character behind it -/
  | escape (c : Char)

def BlockItem.chars : BlockItem → List Char
  | plain c _ => [c]
  | escape c => ['\\', c]

/-- a stretch of code, a literal, a text block or a comment -/
inductive Segment where
  | code (cs : List Char) (unquoted : ∀ c ∈ cs, c ≠ '"' ∧ c ≠ '\'')
      (uncommented : ¬ ['/', '/'] <:+: cs ∧ ¬ ['/', '*'] <:+: cs)
  | literal (k : Literal) (content : List (Inner k)) (oneLine : ∀ i ∈ content, i.chars ≠ ['\n'])
  /-- between items, three quotes stand only at the end -/
  | textBlock (content : List BlockItem)
      (first : ∀ tail ∈ content.tails, tripleQuote <+: tail.flatMap BlockItem.chars ++ tripleQuote → tail = [])
  | lineComment (body : List Char) (oneLine : '\n' ∉ body) (ended : Bool)
  | blockComment (body : List Char) (first : ¬ ['*', '/'] <:+: body) (closed : Bool)

namespace Segment

def chars : Segment → List Char
  | code cs _ _ => cs
  | literal k content _ => k.mark :: content.flatMap Inner.chars ++ [k.mark]
  | textBlock content _ => tripleQuote ++ content.flatMap BlockItem.chars ++ tripleQuote
  | lineComment body _ ended => '/' :: '/' :: body ++ if ended then ['\n'] else []
  | blockComment body _ closed => '/' :: '*' :: body ++ if closed then ['*', '/'] else []

/-- what is left of the segment without comments -/
def kept : Segment → List Char
  | lineComment _ _ ended => ' ' :: if ended then ['\n'] else []
  | blockComment _ _ _ => [' ']
  | other => other.chars

/-- the text may follow the segment -/
def Fits (rest : List Char) : Segment → Prop
  | code cs _ _ => cs.getLast? = some '/' → rest.head? ≠ some '/' ∧ rest.head? ≠ some '*'
  | literal k content _ => k = .string → content = [] → rest.head? ≠ some '"'
  | textBlock _ _ => True
  | lineComment _ _ ended => ended = false → rest = []
  | blockComment _ _ closed => closed = false → rest = []

end Segment

instance (rest : List Char) (s : Segment) : Decidable (s.Fits rest) :=
  match s with
  | .code cs _ _ =>
    inferInstanceAs (Decidable (cs.getLast? = some '/' → rest.head? ≠ some '/' ∧ rest.head? ≠ some '*'))
  | .literal k content _ => inferInstanceAs (Decidable (k = .string → content = [] → rest.head? ≠ some '"'))
  | .textBlock _ _ => inferInstanceAs (Decidable True)
  | .lineComment _ _ ended => inferInstanceAs (Decidable (ended = false → rest = []))
  | .blockComment _ _ closed => inferInstanceAs (Decidable (closed = false → rest = []))

/-- each segment fits before the ones that follow it -/
def Separated : List Segment → Prop
  | [] => True
  | s :: ss => s.Fits (ss.flatMap Segment.chars) ∧ Separated ss

instance : (ss : List Segment) → Decidable (Separated ss)
  | [] => inferInstanceAs (Decidable True)
  | s :: ss =>
    have := instDecidableSeparated ss
    inferInstanceAs (Decidable (s.Fits (ss.flatMap Segment.chars) ∧ Separated ss))

/-! ## Runs over items -/

/-- The reader stays in its mode over items that it takes one by one. -/
theorem reads_items {ι : Type} {mode : Mode} (chars kept : ι → List Char) (o : Origin) {items : List ι}
    {rest : List Char}
    (h : ∀ before i after, items = before ++ i :: after →
      Takes mode (chars i ++ (after.flatMap chars ++ rest)) (marked o (kept i)) mode (after.flatMap chars ++ rest)) :
    Reads mode (items.flatMap chars ++ rest) (marked o (items.flatMap kept)) mode rest := by
  induction items with
  | nil => exact .refl mode rest
  | cons i items ih =>
    rw [List.flatMap_cons, List.flatMap_cons, List.append_assoc, marked, List.map_append]
    refine .step (h [] i items rfl) (ih fun before j after hsplit => h (i :: before) j after ?_)
    rw [hsplit, List.cons_append]

/-- the same for characters -/
theorem reads_chars {mode : Mode} (kept : Char → List Char) (o : Origin) {cs rest : List Char}
    (h : ∀ before c after, cs = before ++ c :: after →
      Takes mode (c :: (after ++ rest)) (marked o (kept c)) mode (after ++ rest)) :
    Reads mode (cs ++ rest) (marked o (cs.flatMap kept)) mode rest := by
  have hitems : ∀ before c after, cs = before ++ c :: after →
      Takes mode ([c] ++ (after.flatMap (fun c => [c]) ++ rest)) (marked o (kept c)) mode
        (after.flatMap (fun c => [c]) ++ rest) := by
    simpa using h
  simpa using reads_items (fun c => [c]) kept o hitems

/-- two characters that stand side by side nowhere in a text, nor where another begins -/
theorem head?_ne_of_apart {c d : Char} {cs before after rest : List Char} (h : ¬ [c, d] <:+: cs)
    (hrest : after = [] → rest.head? ≠ some d) (hsplit : cs = before ++ c :: after) :
    (after ++ rest).head? ≠ some d := by
  cases after with
  | nil => exact hrest rfl
  | cons e after =>
    intro he
    obtain rfl : e = d := Option.some.inj he
    exact h ⟨before, after, by rw [hsplit, List.append_assoc]; rfl⟩

theorem reads_code {cs rest : List Char} (unquoted : ∀ c ∈ cs, c ≠ '"' ∧ c ≠ '\'')
    (uncommented : ¬ ['/', '/'] <:+: cs ∧ ¬ ['/', '*'] <:+: cs)
    (hrest : cs.getLast? = some '/' → rest.head? ≠ some '/' ∧ rest.head? ≠ some '*') :
    Reads .code (cs ++ rest) (marked .code cs) .code rest := by
  have hread : Reads .code (cs ++ rest) (marked .code (cs.flatMap fun c => [c])) .code rest := by
    refine reads_chars _ _ fun before c after hsplit => .code c _ (unquoted c (by rw [hsplit]; simp)) ?_
    rintro rfl
    have hlast : after = [] → cs.getLast? = some '/' := by
      rintro rfl
      rw [hsplit]
      simp
    exact ⟨head?_ne_of_apart uncommented.1 (fun h => (hrest (hlast h)).1) hsplit,
      head?_ne_of_apart uncommented.2 (fun h => (hrest (hlast h)).2) hsplit⟩
  rwa [List.flatMap_singleton'] at hread

theorem reads_inner {k : Literal} {content : List (Inner k)} (oneLine : ∀ i ∈ content, i.chars ≠ ['\n'])
    (rest : List Char) :
    Reads k.mode (content.flatMap Inner.chars ++ rest) (marked .inside (content.flatMap Inner.chars)) k.mode rest := by
  refine reads_items _ _ _ fun before i after hsplit => ?_
  have hmem : i ∈ content := by rw [hsplit]; simp
  cases i with
  | plain c h => exact .inLiteral k c _ ⟨h.1, h.2, fun hc => oneLine _ hmem (by rw [Inner.chars, hc])⟩
  | escape c => exact .escape k.mode (by cases k <;> rfl) c _

theorem reads_blockItems {content : List BlockItem}
    (first : ∀ tail ∈ content.tails, tripleQuote <+: tail.flatMap BlockItem.chars ++ tripleQuote → tail = [])
    (rest : List Char) :
    Reads .textBlock (content.flatMap BlockItem.chars ++ (tripleQuote ++ rest))
      (marked .inside (content.flatMap BlockItem.chars)) .textBlock (tripleQuote ++ rest) := by
  refine reads_items _ _ _ fun before i after hsplit => ?_
  cases i with
  | plain c h =>
    refine .inTextBlock c _ h ?_
    rintro rfl hquotes
    have htail : BlockItem.plain '"' h :: after ∈ content.tails := (List.mem_tails _ _).2 ⟨before, hsplit.symm⟩
    -- the closing quotes are long enough for the two that follow, whatever stands behind them
    have hshort : ['"', '"'] <+: after.flatMap BlockItem.chars ++ tripleQuote := by
      rw [← List.append_assoc] at hquotes
      exact List.prefix_of_prefix_length_le hquotes (List.prefix_append _ _) (by simp [tripleQuote])
    exact absurd (first _ htail ((List.prefix_cons_inj _).2 hshort)) (List.cons_ne_nil _ _)
  | escape c => exact .escape .textBlock rfl c _

/-- nothing is kept of a comment -/
theorem reads_comment {mode : Mode} {body rest : List Char}
    (h : ∀ before c after, body = before ++ c :: after → Takes mode (c :: (after ++ rest)) [] mode (after ++ rest)) :
    Reads mode (body ++ rest) [] mode rest := by
  have hnone : body.flatMap (fun _ => ([] : List Char)) = [] := List.flatMap_eq_nil_iff.2 fun _ _ => rfl
  have hread := reads_chars (fun _ => []) .code h
  rwa [hnone] at hread

theorem reads_lineComment {body : List Char} (oneLine : '\n' ∉ body) (rest : List Char) :
    Reads .lineComment (body ++ rest) [] .lineComment rest := by
  refine reads_comment fun before c after hsplit => .inLineComment c _ ?_
  rintro rfl
  exact oneLine (by rw [hsplit]; simp)

theorem reads_blockComment {body rest : List Char} (first : ¬ ['*', '/'] <:+: body)
    (hrest : rest.head? ≠ some '/') : Reads .blockComment (body ++ rest) [] .blockComment rest := by
  refine reads_comment fun before c after hsplit => .inBlockComment c _ ?_
  rintro rfl
  exact head?_ne_of_apart first (fun _ => hrest) hsplit

/-! ## Runs over segments -/

/-- the reader goes over a segment, and is back in code or at the end of the text -/
theorem reads_segment {s : Segment} {rest : List Char} (h : s.Fits rest) :
    ∃ kept last, Reads .code (s.chars ++ rest) kept last rest ∧ kept.map Prod.fst = s.kept ∧
      (last = .code ∨ rest = []) := by
  cases s with
  | code cs unquoted uncommented =>
    exact ⟨_, _, reads_code unquoted uncommented h, map_fst_marked _ _, .inl rfl⟩
  | literal k content oneLine =>
    have hopen : k = .string → ¬ ['"', '"'] <+: content.flatMap Inner.chars ++ (k.mark :: rest) := by
      rintro rfl
      cases content with
      | nil =>
        rintro ⟨tail, htail⟩
        exact h rfl rfl (by rw [← (List.cons.inj htail).2]; rfl)
      | cons i content =>
        rintro ⟨tail, htail⟩
        cases i with
        | plain c hc => exact hc.1 (List.cons.inj htail).1.symm
        | escape c => exact absurd (List.cons.inj htail).1 (by decide)
    have hchars : (Segment.literal k content oneLine).chars ++ rest =
        k.mark :: (content.flatMap Inner.chars ++ (k.mark :: rest)) := by
      simp [Segment.chars]
    rw [hchars]
    exact ⟨_, _, (Takes.literalStart k _ hopen).reads.trans
      ((reads_inner oneLine (k.mark :: rest)).trans (Takes.literalEnd k rest).reads),
      by simp [map_fst_marked, Segment.kept, Segment.chars], .inl rfl⟩
  | textBlock content first =>
    have hchars : (Segment.textBlock content first).chars ++ rest =
        tripleQuote ++ (content.flatMap BlockItem.chars ++ (tripleQuote ++ rest)) := by
      simp [Segment.chars]
    rw [hchars]
    exact ⟨_, _, (Takes.textBlockStart _).reads.trans
      ((reads_blockItems first rest).trans (Takes.textBlockEnd rest).reads),
      by simp [map_fst_marked, Segment.kept, Segment.chars], .inl rfl⟩
  | lineComment body oneLine ended =>
    cases ended with
    | true =>
      have hchars : (Segment.lineComment body oneLine true).chars ++ rest = '/' :: '/' :: (body ++ '\n' :: rest) := by
        simp [Segment.chars]
      rw [hchars]
      exact ⟨_, _, (Takes.lineStart _).reads.trans
        ((reads_lineComment oneLine ('\n' :: rest)).trans (Takes.lineEnd rest).reads), rfl, .inl rfl⟩
    | false =>
      have hchars : (Segment.lineComment body oneLine false).chars ++ rest = '/' :: '/' :: (body ++ rest) := by
        simp [Segment.chars]
      rw [hchars]
      exact ⟨_, _, (Takes.lineStart _).reads.trans (reads_lineComment oneLine rest), rfl, .inr (h rfl)⟩
  | blockComment body first closed =>
    cases closed with
    | true =>
      have hchars : (Segment.blockComment body first true).chars ++ rest =
          '/' :: '*' :: (body ++ '*' :: '/' :: rest) := by
        simp [Segment.chars]
      rw [hchars]
      exact ⟨_, _, (Takes.blockStart _).reads.trans
        ((reads_blockComment first (by simp)).trans (Takes.blockEnd rest).reads), rfl, .inl rfl⟩
    | false =>
      have hend : rest = [] := h rfl
      have hchars : (Segment.blockComment body first false).chars ++ rest = '/' :: '*' :: (body ++ rest) := by
        simp [Segment.chars]
      rw [hchars]
      exact ⟨_, _, (Takes.blockStart _).reads.trans (reads_blockComment first (by simp [hend])), rfl, .inr hend⟩

/-- a segment without characters leaves nothing -/
theorem kept_eq_nil {s : Segment} (h : s.chars = []) : s.kept = [] := by
  cases s with
  | code => exact h
  | literal => exact absurd h (by simp [Segment.chars])
  | textBlock => exact absurd h (by simp [Segment.chars, tripleQuote])
  | lineComment => exact absurd h (by simp [Segment.chars])
  | blockComment => exact absurd h (by simp [Segment.chars])

/-- the reader goes over separated segments -/
theorem reads_segments {ss : List Segment} (h : Separated ss) :
    ∃ kept last, Reads .code (ss.flatMap Segment.chars) kept last [] ∧
      kept.map Prod.fst = ss.flatMap Segment.kept := by
  induction ss with
  | nil => exact ⟨[], .code, .refl _ _, rfl⟩
  | cons s ss ih =>
    obtain ⟨kept, last, hfirst, hkept, hlast⟩ := reads_segment h.1
    rw [List.flatMap_cons, List.flatMap_cons]
    rcases hlast with rfl | hend
    · obtain ⟨kept', last', hothers, hkept'⟩ := ih h.2
      exact ⟨kept ++ kept', last', hfirst.trans hothers, by rw [List.map_append, hkept, hkept']⟩
    · -- a comment that runs to the end, so no later segment has a character
      have hnone : ss.flatMap Segment.kept = [] := by
        rw [List.flatMap_eq_nil_iff] at hend ⊢
        exact fun s' hs' => kept_eq_nil (hend s' hs')
      rw [hend, List.append_nil] at hfirst
      rw [hend, hnone, List.append_nil, List.append_nil]
      exact ⟨kept, last, hfirst, hkept⟩

/-- **Without comments a text keeps its code and its literals**, and a space for each comment. -/
theorem stripComments_segments {ss : List Segment} (h : Separated ss) :
    stripComments (String.ofList (ss.flatMap Segment.chars)) = String.ofList (ss.flatMap Segment.kept) := by
  obtain ⟨kept, last, hread, hkept⟩ := reads_segments h
  rw [stripComments_of_reads hread, hkept]

/-- code with a division, an empty string, a string with a comment start and an escaped quote, a block comment, a text
block with a quote of its own, and a line comment at the end -/
def remarked : List Segment :=
  [.code ['a', '/', 'b', ' '] (by simp) (by decide),
    .literal .string [] (by decide),
    .code [' '] (by simp) (by decide),
    .literal .string [.plain '/' (by decide), .plain '/' (by decide), .escape '"'] (by decide),
    .blockComment ['/', '\'', '*'] (by decide) true,
    .textBlock [.plain '\n' (by decide), .plain '"' (by decide), .plain '/' (by decide), .plain '*' (by decide)]
      (by decide),
    .lineComment [' ', '"'] (by decide) true,
    .code [';'] (by simp) (by decide),
    .lineComment ['/'] (by decide) false]

theorem stripComments_remarked :
    Separated remarked ∧
      stripComments "a/b \"\" \"//\\\"\"/*/'**/\"\"\"\n\"/*\"\"\"// \"\n;///" =
        "a/b \"\" \"//\\\"\" \"\"\"\n\"/*\"\"\" \n; " := by
  have hseparated : Separated remarked := by decide
  refine ⟨hseparated, ?_⟩
  calc
    _ = stripComments (String.ofList (remarked.flatMap Segment.chars)) := congrArg stripComments (by decide)
    _ = String.ofList (remarked.flatMap Segment.kept) := stripComments_segments hseparated
    _ = _ := by decide

end CodeSurvey.Source
