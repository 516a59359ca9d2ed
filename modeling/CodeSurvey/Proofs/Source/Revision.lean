/-
A source file in two versions that differ within literals.

A `Draft` is a segment of both versions, or a string or character literal with a content of its own in each; a
`Revision` is a list of drafts whose segments are separated in both versions. Text blocks have no quote of their own, so
that the mask is in step with the reader of comments.

`normalize_source`: the normalized text of each version is written by the same passages. Without comments the segments
are lexemes (`chars_lexemes`), and the collapse of blanks acts on each lexeme by itself: `tidyFrom` keeps a gap back
until a word or a literal follows, and `squeeze` does within a literal what it can do at once, since the closing mark
always follows. `collapsed_content` is the induction over a content.
-/
import CodeSurvey.Proofs.Source.Passages
import CodeSurvey.Proofs.Source.Provenance
import CodeSurvey.Proofs.Source.Segments

namespace CodeSurvey.Source

open Text

/-! ## Collapsing -/

/-- a text with one space for each run of blanks that a word follows; `gap` says that such a run was just passed -/
def collapsed (gap : Bool) : List Char → List Char
  | [] => []
  | c :: cs =>
    if isBlank c then collapsed true cs
    else (if gap then [' '] else []) ++ c :: collapsed false cs

theorem collapsed_eq (gap : Option Origin) (cs : List Char) :
    collapsed gap.isSome cs = (collapseFrom gap (marked .code cs)).map Prod.fst := by
  induction cs generalizing gap with
  | nil => rfl
  | cons c cs ih =>
    have hmarked : marked .code (c :: cs) = (c, Origin.code) :: marked .code cs := rfl
    rw [collapsed, hmarked, collapseFrom]
    by_cases h : isBlank c = true
    · rw [if_pos h, if_pos h, ← ih]
      rfl
    · rw [if_neg h, if_neg h, List.map_append, List.map_cons, ← ih]
      cases gap <;> rfl

theorem collapse_eq (cs : List Char) :
    collapse (String.ofList cs) = String.ofList (collapsed false (cs.dropWhile isBlank)) := by
  have h := map_fst_collapseMarked (marked .code cs)
  have hdrop : (marked .code cs).dropWhile (fun c => isBlank c.1) = marked .code (cs.dropWhile isBlank) :=
    List.dropWhile_map ..
  rw [map_fst_marked, collapseMarked, hdrop, ← collapsed_eq none] at h
  rw [← String.ofList_toList (s := collapse (String.ofList cs)), ← h]
  rfl

theorem collapsed_blank {c : Char} (h : isBlank c = true) (gap : Bool) (cs : List Char) :
    collapsed gap (c :: cs) = collapsed true cs := by
  rw [collapsed, if_pos h]

theorem collapsed_word {c : Char} (h : isBlank c = false) (gap : Bool) (cs : List Char) :
    collapsed gap (c :: cs) = (if gap then [' '] else []) ++ c :: collapsed false cs := by
  rw [collapsed, if_neg (by simp [h])]

/-- the content of a literal with one space for each run of blanks; `blank` says that one was just written -/
def squeeze {k : Literal} (blank : Bool) : List (Inner k) → List (Inner k)
  | [] => []
  | .plain c h :: is =>
    if isBlank c then
      if blank then squeeze true is else .plain ' ' (by cases k <;> decide) :: squeeze true is
    else .plain c h :: squeeze false is
  | .escape c :: is => if isBlank c then .escape ' ' :: squeeze true is else .escape c :: squeeze false is

/-- Behind a content stands the mark of its literal, so a blank within it can be written at once. -/
theorem collapsed_content {k : Literal} (content : List (Inner k)) (rest : List Char) :
    collapsed false (content.flatMap Inner.chars ++ k.mark :: rest) =
        (squeeze false content).flatMap Inner.chars ++ k.mark :: collapsed false rest ∧
      collapsed true (content.flatMap Inner.chars ++ k.mark :: rest) =
        ' ' :: ((squeeze true content).flatMap Inner.chars ++ k.mark :: collapsed false rest) := by
  have hmark : isBlank k.mark = false := by cases k <;> decide
  induction content with
  | nil => exact ⟨collapsed_word hmark _ _, collapsed_word hmark _ _⟩
  | cons i content ih =>
    cases i with
    | plain c h =>
      rw [List.flatMap_cons, Inner.chars, List.singleton_append, List.cons_append]
      by_cases hblank : isBlank c = true
      · rw [collapsed_blank hblank, collapsed_blank hblank, squeeze, if_pos hblank, squeeze, if_pos hblank, ih.2]
        exact ⟨rfl, rfl⟩
      · have hword := Bool.eq_false_iff.2 hblank
        rw [collapsed_word hword, collapsed_word hword, squeeze, if_neg hblank, squeeze, if_neg hblank, ih.1]
        exact ⟨rfl, rfl⟩
    | escape c =>
      have hback : isBlank '\\' = false := by decide
      rw [List.flatMap_cons, Inner.chars, List.cons_append, List.singleton_append, List.cons_append, List.cons_append,
        collapsed_word hback, collapsed_word hback]
      by_cases hblank : isBlank c = true
      · rw [collapsed_blank hblank, squeeze, if_pos hblank, squeeze, if_pos hblank, ih.2]
        exact ⟨rfl, rfl⟩
      · have hword := Bool.eq_false_iff.2 hblank
        rw [collapsed_word hword, squeeze, if_neg hblank, squeeze, if_neg hblank, ih.1]
        exact ⟨rfl, rfl⟩

theorem collapsed_literal {k : Literal} (content : List (Inner k)) (gap : Bool) (rest : List Char) :
    collapsed gap ((Lexeme.literal k content).chars ++ rest) =
      (if gap then [' '] else []) ++ (Lexeme.literal k (squeeze false content)).chars ++ collapsed false rest := by
  have hmark : isBlank k.mark = false := by cases k <;> decide
  have hchars : ∀ content : List (Inner k), ∀ tail, (Lexeme.literal k content).chars ++ tail =
      k.mark :: (content.flatMap Inner.chars ++ k.mark :: tail) := by
    intro content tail
    simp [Lexeme.chars]
  rw [hchars, collapsed_word hmark, (collapsed_content content rest).1, List.append_assoc, hchars]

/-! ## Passages collapsed -/

/-- the passage with its blanks squeezed -/
def Passage.tidied : Passage → Passage
  | .kept (.code c h) => .kept (.code c h)
  | .kept (.literal k content) => .kept (.literal k (squeeze false content))
  | .reworded k content => .reworded k fun v => squeeze false (content v)

/-- the passages that the collapsed text is written by; `gap` says that blanks were just passed -/
def tidyFrom (gap : Bool) : List Passage → List Passage
  | [] => []
  | x :: xs =>
    if x.Is isBlank then tidyFrom true xs
    else (if gap then [.kept .blank] else []) ++ x.tidied :: tidyFrom false xs

def tidy (xs : List Passage) : List Passage := tidyFrom false (xs.dropWhile (Passage.Is · isBlank))

/-- the characters of passages in a version -/
def Passage.chars (v : Version) (xs : List Passage) : List Char := xs.flatMap fun x => (x.lexeme v).chars

theorem Passage.text_eq (v : Version) (xs : List Passage) : Passage.text v xs = String.ofList (Passage.chars v xs) := by
  rw [Passage.text, textOf, List.flatMap_map, Passage.chars]

theorem Passage.chars_cons (v : Version) (x : Passage) (xs : List Passage) :
    Passage.chars v (x :: xs) = (x.lexeme v).chars ++ Passage.chars v xs := List.flatMap_cons

/-- a blank, or something that no blank starts -/
theorem blank_cases (v : Version) (x : Passage) :
    (x.Is isBlank = true ∧ ∃ c, isBlank c = true ∧ (x.lexeme v).chars = [c]) ∨
      x.Is isBlank = false ∧ ∃ c cs, isBlank c = false ∧ (x.lexeme v).chars = c :: cs := by
  rw [← x.is_lexeme v]
  cases x.lexeme v with
  | code c h =>
    by_cases hblank : isBlank c = true
    · exact .inl ⟨hblank, c, hblank, rfl⟩
    · exact .inr ⟨Bool.eq_false_iff.2 hblank, c, [], Bool.eq_false_iff.2 hblank, rfl⟩
  | literal k content => exact .inr ⟨rfl, k.mark, _, by cases k <;> decide, rfl⟩

theorem collapsed_tidied (v : Version) {x : Passage} (h : x.Is isBlank = false) (gap : Bool) (rest : List Char) :
    collapsed gap ((x.lexeme v).chars ++ rest) =
      (if gap then [' '] else []) ++ (x.tidied.lexeme v).chars ++ collapsed false rest := by
  cases x with
  | kept l =>
    cases l with
    | code c hc =>
      refine (collapsed_word h gap rest).trans ?_
      rw [List.append_assoc]
      rfl
    | literal k content => exact collapsed_literal content gap rest
  | reworded k content => exact collapsed_literal (content v) gap rest

theorem collapsed_chars (v : Version) (gap : Bool) (xs : List Passage) :
    collapsed gap (Passage.chars v xs) = Passage.chars v (tidyFrom gap xs) := by
  induction xs generalizing gap with
  | nil => rfl
  | cons x xs ih =>
    rw [Passage.chars_cons, tidyFrom]
    rcases blank_cases v x with ⟨hx, c, hc, hchars⟩ | ⟨hx, -⟩
    · rw [hchars, List.singleton_append, collapsed_blank hc, if_pos hx, ih]
    · have hkept : ¬ x.Is isBlank = true := by rw [hx]; exact Bool.false_ne_true
      rw [collapsed_tidied v hx, if_neg hkept, ih]
      cases gap <;> rfl

theorem dropWhile_chars (v : Version) (xs : List Passage) :
    (Passage.chars v xs).dropWhile isBlank = Passage.chars v (xs.dropWhile (Passage.Is · isBlank)) := by
  induction xs with
  | nil => rfl
  | cons x xs ih =>
    rw [Passage.chars_cons, List.dropWhile_cons]
    rcases blank_cases v x with ⟨hx, c, hc, hchars⟩ | ⟨hx, c, cs, hc, hchars⟩
    · rw [hchars, List.singleton_append, List.dropWhile_cons_of_pos hc, if_pos hx, ih]
    · rw [hchars, List.cons_append, List.dropWhile_cons_of_neg (by simp [hc]), if_neg (by simp [hx]),
        Passage.chars_cons, hchars, List.cons_append]

/-- The collapsed text of each version is written by the same passages. -/
theorem collapse_text (v : Version) (xs : List Passage) :
    collapse (Passage.text v xs) = Passage.text v (tidy xs) := by
  rw [Passage.text_eq, collapse_eq, dropWhile_chars, collapsed_chars, ← Passage.text_eq, tidy]

/-! ## Segments as lexemes -/

/-- characters without quotes, as lexemes -/
def codeOf (cs : List Char) : List Lexeme :=
  cs.filterMap fun c => if h : c ≠ '"' ∧ c ≠ '\'' then some (.code c h) else none

/-- something within a text block as something within a string, where a quote cannot stand by itself -/
def BlockItem.inner? : BlockItem → Option (Inner .string)
  | plain c h => if hquote : c = '"' then none else some (.plain c ⟨hquote, h⟩)
  | escape c => some (.escape c)

/-- what stands within a text block, as content of a string -/
def stringOf (content : List BlockItem) : List (Inner .string) := content.filterMap BlockItem.inner?

namespace Segment

/-- no quote in a text block stands by itself -/
def Tight : Segment → Prop
  | textBlock content _ => ∀ i ∈ content, i.chars ≠ ['"']
  | _ => True

/-- what is left of the segment without comments; a text block looks like three strings -/
def lexemes : Segment → List Lexeme
  | code cs _ _ => codeOf cs
  | literal k content _ => [.literal k content]
  | textBlock content _ => [.literal .string [], .literal .string (stringOf content), .literal .string []]
  | lineComment _ _ ended => codeOf (' ' :: if ended then ['\n'] else [])
  | blockComment _ _ _ => codeOf [' ']

end Segment

theorem chars_codeOf {cs : List Char} (h : ∀ c ∈ cs, c ≠ '"' ∧ c ≠ '\'') : (codeOf cs).flatMap Lexeme.chars = cs := by
  induction cs with
  | nil => rfl
  | cons c cs ih =>
    have hc := h c List.mem_cons_self
    rw [codeOf, List.filterMap_cons_some (dif_pos hc), List.flatMap_cons, ← codeOf,
      ih fun d hd => h d (List.mem_cons_of_mem c hd)]
    rfl

theorem chars_stringOf {content : List BlockItem} (h : ∀ i ∈ content, i.chars ≠ ['"']) :
    (stringOf content).flatMap Inner.chars = content.flatMap BlockItem.chars := by
  induction content with
  | nil => rfl
  | cons i content ih =>
    have hrest := ih fun j hj => h j (List.mem_cons_of_mem i hj)
    cases i with
    | plain c hc =>
      have hquote : ¬ c = '"' := fun hq => h _ List.mem_cons_self (congrArg (fun d => [d]) hq)
      have hinner : (BlockItem.plain c hc).inner? = some (.plain c ⟨hquote, hc⟩) := dif_neg hquote
      rw [stringOf, List.filterMap_cons_some hinner, List.flatMap_cons, ← stringOf, hrest]
      rfl
    | escape c =>
      have hinner : (BlockItem.escape c).inner? = some (.escape c) := rfl
      rw [stringOf, List.filterMap_cons_some hinner, List.flatMap_cons, ← stringOf, hrest]
      rfl

/-- Without comments a segment is lexemes. -/
theorem chars_lexemes {s : Segment} (h : s.Tight) : s.lexemes.flatMap Lexeme.chars = s.kept := by
  cases s with
  | code cs unquoted uncommented => exact chars_codeOf unquoted
  | literal k content oneLine => exact List.flatMap_singleton _ _
  | textBlock content first =>
    show (Lexeme.literal .string []).chars ++ ((Lexeme.literal .string (stringOf content)).chars ++
      ((Lexeme.literal .string []).chars ++ [])) = _
    have hcontent : (Lexeme.literal .string (stringOf content)).chars =
        '"' :: content.flatMap BlockItem.chars ++ ['"'] := by
      rw [Lexeme.chars, chars_stringOf h]
      rfl
    rw [hcontent]
    simp [Lexeme.chars, Literal.mark, Segment.kept, Segment.chars, tripleQuote]
  | lineComment body oneLine ended => cases ended <;> exact chars_codeOf (by simp)
  | blockComment body first closed => exact chars_codeOf (by simp)

/-! ## Revisions -/

/-- a segment of both versions, or a literal with a content of its own in each -/
inductive Draft where
  | shared (s : Segment) (tight : s.Tight)
  | reworded (k : Literal) (content : Version → List (Inner k)) (oneLine : ∀ v, ∀ i ∈ content v, i.chars ≠ ['\n'])

namespace Draft

def segment (v : Version) : Draft → Segment
  | shared s _ => s
  | reworded k content oneLine => .literal k (content v) (oneLine v)

/-- what is left of the draft without comments -/
def passages : Draft → List Passage
  | shared s _ => s.lexemes.map .kept
  | reworded k content _ => [.reworded k content]

theorem chars_passages (v : Version) (d : Draft) : Passage.chars v d.passages = (d.segment v).kept := by
  cases d with
  | shared s tight =>
    rw [Passage.chars, passages, List.flatMap_map]
    exact chars_lexemes tight
  | reworded k content oneLine => exact List.flatMap_singleton _ _

end Draft

/-- a source file in two versions that differ within literals -/
structure Revision where
  drafts : List Draft
  separated : ∀ v, Separated (drafts.map (Draft.segment v))

namespace Revision

/-- the text of the file in a version -/
def source (r : Revision) (v : Version) : String :=
  String.ofList ((r.drafts.map (Draft.segment v)).flatMap Segment.chars)

/-- what the normalized text is written by, in both versions -/
def passages (r : Revision) : List Passage := tidy (r.drafts.flatMap Draft.passages)

/-- **The normalized text of each version is written by the same passages.** -/
theorem normalize_source (r : Revision) (v : Version) : normalize (r.source v) = Passage.text v r.passages := by
  have hchars : Passage.chars v (r.drafts.flatMap Draft.passages) =
      (r.drafts.map (Draft.segment v)).flatMap Segment.kept := by
    rw [Passage.chars, List.flatMap_assoc, List.flatMap_map]
    exact congrArg (List.flatMap · r.drafts) (funext (Draft.chars_passages v))
  rw [normalize, source, stripComments_segments (r.separated v), ← hchars, ← Passage.text_eq, collapse_text, passages]

end Revision

end CodeSurvey.Source
