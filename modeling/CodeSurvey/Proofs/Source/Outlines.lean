/-
The scan for declarations in two versions of a text.

`outlines` finds the declarations of passages as lists of passages, each an `Outline` that holds its parts in the order
in which they stand. It follows the scan of bytes place by place and reads no content of a literal.

`methods_text`: in each version the methods are the outlines, written in it. `declarationAt_back` compares the scans
around one parenthesis, `declarationsFrom_shown` follows both over the text, by induction on the passages, and
`method_place` reads the parts off the text; what an outline says of the text around it is `Outline.Fits`.
-/
import CodeSurvey.Proofs.Source.Passages

namespace CodeSurvey.Source

open Text

open Passage (shown back)

/-! ## Outlines -/

/-- a declaration in the passages around its opening parenthesis: what stands before it, its parts in order, and whether
the last one is a body -/
structure Outline where
  lead : List Passage
  header : List Passage
  name : List Passage
  gap : List Passage
  params : List Passage
  clause : List Passage
  last : List Passage
  isBlock : Bool

/-- the declaration whose parameters open between the passages `before`, last first, and `rest` -/
def outlineAt (before rest : List Passage) : Option Outline :=
  let upToName := before.dropWhile (Passage.Is · isBlankChar)
  (lastName? upToName).bind fun name =>
    let beforeName := upToName.dropWhile (Passage.Is · isIdentChar)
    if notMethodNames.contains (word name) || !isAfterType beforeName then none
    else
      (cut? '(' ')' 0 rest).bind fun c =>
        (ending? c.after).map fun e =>
          let header := headerPart 0 beforeName
          { lead := (beforeName.drop header.length).reverse
            header := header.reverse
            name := name
            gap := (before.takeWhile (Passage.Is · isBlankChar)).reverse
            params := c.inside
            clause := e.clause
            last := e.last
            isBlock := e.isBlock }

namespace Outline

/-- the passages from the parameters to the end of the declaration -/
def more (o : Outline) : Nat := o.params.length + 1 + o.clause.length + o.last.length

/-- where the parts are in the masked copy -/
def place (v : Version) (o : Outline) : Declaration :=
  let header := (shown v o.lead).length
  let name := header + (shown v o.header).length
  let gap := name + (shown v o.name).length
  let params := gap + (shown v o.gap).length + 1
  let close := params + (shown v o.params).length
  let last := close + 1 + (shown v o.clause).length
  let stop := last + (shown v o.last).length
  { name := ⟨name, gap⟩
    header := ⟨header, name⟩
    params := ⟨params, close⟩
    body := if o.isBlock then some ⟨last, stop⟩ else none
    last := stop - 1 }

/-- the declaration as a version writes it -/
def method (v : Version) (o : Outline) : Method where
  name := Passage.text v o.name
  header := trimmed (Passage.text v o.header)
  params := Passage.text v o.params
  body := if o.isBlock then some (Passage.text v o.last) else none

end Outline

/-- what an outline says of the text around it -/
structure Outline.Fits (o : Outline) (before rest : List Passage) : Prop where
  before_eq : before.reverse = o.lead ++ o.header ++ o.name ++ o.gap
  rest_eq : ∃ close after, rest = o.params ++ close :: (o.clause ++ o.last ++ after) ∧ close.Is (· == ')') = true
  named : ∀ x ∈ o.name, x.isKept = true
  last_ne : o.last ≠ []
  semicolon : o.isBlock = false → ∃ x, o.last = [x] ∧ x.Is (· == ';') = true

theorem outlineAt_eq_some {before rest : List Passage} {o : Outline} (h : outlineAt before rest = some o) :
    o.Fits before rest := by
  unfold outlineAt at h
  dsimp only at h
  obtain ⟨name, hname, h⟩ := Option.bind_eq_some_iff.1 h
  split at h
  · exact absurd h (Option.some_ne_none o).symm
  obtain ⟨c, hcut, h⟩ := Option.bind_eq_some_iff.1 h
  obtain ⟨e, hend, rfl⟩ := Option.map_eq_some_iff.1 h
  obtain ⟨hrest, hclose⟩ := of_cut hcut
  obtain ⟨⟨after, hafter⟩, hlast, hsemicolon⟩ := of_ending hend
  constructor
  case before_eq =>
    dsimp only
    rw [of_lastName hname]
    generalize hup : before.dropWhile (Passage.Is · isBlankChar) = upToName
    generalize hbefore : upToName.dropWhile (Passage.Is · isIdentChar) = beforeName
    have hheader := List.prefix_iff_eq_append.1 (headerPart_isFront 0 beforeName)
    simp only [← List.reverse_append]
    rw [hheader, ← hbefore, List.takeWhile_append_dropWhile, ← hup, List.takeWhile_append_dropWhile]
  case rest_eq => exact ⟨c.close, after, by rw [hrest, hafter], hclose⟩
  case named => exact fun x hx => Passage.isKept_of_is (is_of_lastName hname x hx)
  case last_ne => exact hlast
  case semicolon => exact hsemicolon

/-- Around a parenthesis both scans find the same. -/
theorem declarationAt_back (v : Version) (before rest : List Passage) :
    declarationAt (back v before) (shown v rest) = (outlineAt before rest).map (Outline.place v) := by
  unfold declarationAt outlineAt
  have hgap := Passage.length_back_append v (before.takeWhile (Passage.Is · isBlankChar))
    (before.dropWhile (Passage.Is · isBlankChar))
  rw [List.takeWhile_append_dropWhile] at hgap
  simp only [(splitWhile_back agrees_blank blank_quote v before).2, hgap]
  generalize before.dropWhile (Passage.Is · isBlankChar) = upToName
  rw [nameAtEnd_back, (splitWhile_back agrees_ident shows_ident.quote v upToName).2]
  cases hname : lastName? upToName with
  | none => rfl
  | some name =>
    have hlength := Passage.length_back_append v (upToName.takeWhile (Passage.Is · isIdentChar))
      (upToName.dropWhile (Passage.Is · isIdentChar))
    rw [List.takeWhile_append_dropWhile, ← of_lastName hname] at hlength
    rw [hlength]
    generalize upToName.dropWhile (Passage.Is · isIdentChar) = beforeName
    simp only [Option.map_some, Option.bind_some, contains_shown (is_of_lastName hname), followsType_back]
    split
    · rfl
    · rw [closing_open, closing_shown parens]
      cases hcut : cut? '(' ')' 0 rest with
      | none => rfl
      | some c =>
        have hheader := Passage.length_back_append v (headerPart 0 beforeName)
          (beforeName.drop (headerPart 0 beforeName).length)
        rw [List.prefix_iff_eq_append.1 (headerPart_isFront 0 beforeName)] at hheader
        simp only [Option.map_some, Option.bind_some, drop_closing parens hcut, ending_shown, headerLength_back]
        cases hend : ending? c.after with
        | none => rfl
        | some e =>
          obtain ⟨-, -, hsemicolon⟩ := of_ending hend
          simp only [Passage.length_back] at hheader ⊢
          simp only [Option.map_some, Outline.place, Option.some.injEq, Declaration.mk.injEq, Span.mk.injEq]
          cases hblock : e.isBlock with
          | false =>
            obtain ⟨x, hx, hstop⟩ := hsemicolon hblock
            have hone : (shown v e.last).length = 1 := by
              rw [hx, Passage.shown_cons, shown_delimiter hstop (b := semicolon) (by decide)]
              rfl
            simp only [Bool.false_eq_true, if_false, Option.map_none, hone, true_and]
            omega
          | true =>
            simp only [if_true, Option.map_some, Option.some.injEq, Span.mk.injEq]
            omega

/-! ## The scan -/

/-- the declarations in passages; `before` holds those already passed, last first, and the next `skip` belong to the
last declaration -/
def outlinesFrom (before : List Passage) (skip : Nat) : List Passage → List Outline
  | [] => []
  | x :: rest =>
    match skip with
    | n + 1 => outlinesFrom (x :: before) n rest
    | 0 =>
      if x.Is (· == '(') then
        match outlineAt before rest with
        | some o => o :: outlinesFrom (x :: before) o.more rest
        | none => outlinesFrom (x :: before) 0 rest
      else outlinesFrom (x :: before) 0 rest

/-- the declarations in passages, in order -/
def outlines (xs : List Passage) : List Outline := outlinesFrom [] 0 xs

theorem declarationsFrom_skip_add (bs before rest : Bytes) (n : Nat) :
    declarationsFrom before (bs.length + n) (bs ++ rest) = declarationsFrom (bs.reverse ++ before) n rest := by
  induction bs generalizing before with
  | nil => rw [List.length_nil, Nat.zero_add, List.nil_append, List.reverse_nil, List.nil_append]
  | cons b bs ih =>
    rw [List.cons_append, List.length_cons, Nat.add_right_comm, declarationsFrom, ih, List.reverse_cons,
      List.append_assoc, List.singleton_append]

/-- what of the text behind the parenthesis belongs to a declaration -/
theorem Outline.Fits.skip_eq {o : Outline} {before rest : List Passage} (h : o.Fits before rest) (v : Version) :
    (o.place v).last - (back v before).length = (shown v (rest.take o.more)).length := by
  obtain ⟨close, after, hrest, hclose⟩ := h.rest_eq
  have hbefore : (back v before).length = (shown v o.lead).length + (shown v o.header).length +
      (shown v o.name).length + (shown v o.gap).length := by
    rw [Passage.length_back, h.before_eq]
    simp only [Passage.shown_append, List.length_append]
  have htake : rest.take o.more = o.params ++ close :: (o.clause ++ o.last) := by
    have hmore : o.more = (o.params ++ close :: (o.clause ++ o.last)).length := by
      simp only [Outline.more, List.length_append, List.length_cons]
      omega
    have hsplit : rest = (o.params ++ close :: (o.clause ++ o.last)) ++ after := by
      rw [hrest]
      simp only [List.append_assoc, List.cons_append]
    rw [hsplit, hmore, List.take_left]
  have hlast : 0 < (shown v o.last).length := by
    obtain ⟨x, xs, hx⟩ := List.exists_cons_of_ne_nil h.last_ne
    obtain ⟨b, bs, hb, -⟩ := first_shown v x
    rw [hx, Passage.shown_cons, hb]
    simp
  rw [htake, hbefore]
  simp only [Outline.place, Passage.shown_append, Passage.shown_cons, shown_delimiter hclose parens.closer_form,
    List.length_append, List.length_cons, List.length_nil]
  omega

/-- **Both scans find the same**, in each version. -/
theorem declarationsFrom_shown (v : Version) (before : List Passage) (n : Nat) (rest : List Passage) :
    declarationsFrom (back v before) (shown v (rest.take n)).length (shown v rest) =
      (outlinesFrom before n rest).map (Outline.place v) := by
  induction rest generalizing before n with
  | nil =>
    rw [List.take_nil]
    rfl
  | cons x rest ih =>
    have hpassed : (x.lexeme v).shown.reverse ++ back v before = back v (x :: before) :=
      (Passage.back_cons v x before).symm
    rw [Passage.shown_cons]
    cases n with
    | succ n =>
      rw [List.take_succ_cons, Passage.shown_cons, List.length_append, declarationsFrom_skip_add, hpassed, ih]
      rfl
    | zero =>
      have hnext := ih (x :: before) 0
      rw [List.take_zero] at hnext ⊢
      show declarationsFrom (back v before) 0 _ = _
      rw [outlinesFrom]
      by_cases hopen : x.Is (· == '(') = true
      · have hshown := shown_delimiter hopen parens.opening_form v
        have hback : parenOpen :: back v before = back v (x :: before) := by rw [Passage.back_cons, hshown]; rfl
        have hat := declarationAt_back v before rest
        rw [if_pos hopen, hshown, List.singleton_append]
        cases hfound : outlineAt before rest with
        | none =>
          rw [hfound] at hat
          rw [declarationsFrom_none hat, hback]
          exact hnext
        | some o =>
          rw [hfound] at hat
          rw [declarationsFrom_some hat, hback, (outlineAt_eq_some hfound).skip_eq v, ih]
          rfl
      · have hpass : ∀ b ∈ (x.lexeme v).shown, b ≠ parenOpen := by
          intro b hb
          have ho := (parens.opens.mem_shown hb).trans (x.is_lexeme v _)
          rw [Bool.eq_false_iff.2 hopen] at ho
          exact beq_eq_false_iff_ne.1 ho
        rw [if_neg hopen, declarationsFrom_pass hpass, hpassed]
        exact hnext

/-- an outline fits the passages around some parenthesis of the text -/
theorem fits_of_mem {before rest : List Passage} {n : Nat} {o : Outline} (h : o ∈ outlinesFrom before n rest) :
    ∃ front x back, o.Fits front back ∧ x.Is (· == '(') = true ∧
      front.reverse ++ x :: back = before.reverse ++ rest := by
  induction rest generalizing before n with
  | nil => exact absurd h List.not_mem_nil
  | cons x rest ih =>
    have hlater : ∀ {n}, o ∈ outlinesFrom (x :: before) n rest → ∃ front y back, o.Fits front back ∧
        y.Is (· == '(') = true ∧ front.reverse ++ y :: back = before.reverse ++ x :: rest := by
      intro n hmem
      obtain ⟨front, y, back, hfits, hopen, heq⟩ := ih hmem
      exact ⟨front, y, back, hfits, hopen, by rw [heq, List.reverse_cons, List.append_assoc]; rfl⟩
    cases n with
    | succ n => exact hlater h
    | zero =>
      rw [outlinesFrom] at h
      split at h
      · rename_i hopen
        split at h
        · rename_i o' hfound
          rcases List.mem_cons.1 h with rfl | hmem
          · exact ⟨before, x, rest, outlineAt_eq_some hfound, hopen, rfl⟩
          · exact hlater hmem
        · exact hlater h
      · exact hlater h

/-! ## The parts as text -/

theorem spanText_passages (v : Version) (front ms after : List Passage) {xs : List Passage}
    (hxs : xs = front ++ ms ++ after) {s : Span} (hstart : s.start = (shown v front).length)
    (hstop : s.stop = s.start + (shown v ms).length) : spanText (Passage.bytes v xs) s = Passage.text v ms :=
  spanText_between _ _ (after.map (Passage.lexeme v)) (by rw [hxs, List.map_append, List.map_append]) hstart hstop

/-- The places of an outline hold its parts. -/
theorem Outline.Fits.method_place {o : Outline} {before rest : List Passage} (h : o.Fits before rest) {x : Passage}
    (hopen : x.Is (· == '(') = true) (v : Version) :
    (o.place v).method (Passage.bytes v (before.reverse ++ x :: rest)) = o.method v := by
  obtain ⟨close, after, hrest, hclose⟩ := h.rest_eq
  have hshown := shown_delimiter hopen parens.opening_form v
  have hshown' := shown_delimiter hclose parens.closer_form v
  have hone : ∀ {y : Passage} {b : UInt8}, (y.lexeme v).shown = [b] → (shown v [y]).length = 1 := by
    intro y b hy
    rw [Passage.shown_cons, hy]
    rfl
  have hall : before.reverse ++ x :: rest = o.lead ++ o.header ++ o.name ++ o.gap ++ [x] ++ o.params ++ [close] ++
      o.clause ++ o.last ++ after := by
    rw [h.before_eq, hrest]
    simp only [List.append_assoc, List.cons_append, List.nil_append]
  have hname : spanText (Passage.bytes v (before.reverse ++ x :: rest)) (o.place v).name = Passage.text v o.name := by
    refine spanText_passages v (o.lead ++ o.header) o.name
      (o.gap ++ [x] ++ o.params ++ [close] ++ o.clause ++ o.last ++ after) ?_ ?_ rfl
    · rw [hall]
      simp only [List.append_assoc]
    · simp only [Outline.place, Passage.shown_append, List.length_append]
  have hheader : spanText (Passage.bytes v (before.reverse ++ x :: rest)) (o.place v).header =
      Passage.text v o.header := by
    refine spanText_passages v o.lead o.header
      (o.name ++ o.gap ++ [x] ++ o.params ++ [close] ++ o.clause ++ o.last ++ after) ?_ rfl rfl
    rw [hall]
    simp only [List.append_assoc]
  have hparams : spanText (Passage.bytes v (before.reverse ++ x :: rest)) (o.place v).params =
      Passage.text v o.params := by
    refine spanText_passages v (o.lead ++ o.header ++ o.name ++ o.gap ++ [x]) o.params
      ([close] ++ o.clause ++ o.last ++ after) ?_ ?_ rfl
    · rw [hall]
      simp only [List.append_assoc]
    · simp only [Outline.place, Passage.shown_append, List.length_append, hone hshown]
  have hbody : (o.place v).body.map (spanText (Passage.bytes v (before.reverse ++ x :: rest))) =
      if o.isBlock then some (Passage.text v o.last) else none := by
    cases hblock : o.isBlock with
    | false => simp [Outline.place, hblock]
    | true =>
      simp only [Outline.place, hblock, if_true, Option.map_some, Option.some.injEq]
      refine spanText_passages v
        (o.lead ++ o.header ++ o.name ++ o.gap ++ [x] ++ o.params ++ [close] ++ o.clause) o.last after hall ?_ rfl
      simp only [Passage.shown_append, List.length_append, hone hshown, hone hshown']
  rw [Declaration.method, hname, hheader, hparams, hbody, Outline.method]

/-- **In each version the methods are the declarations found in the passages, written in it.** -/
theorem methods_text (v : Version) (xs : List Passage) :
    methods (Passage.text v xs) = (outlines xs).map (Outline.method v) := by
  have hscan : declarationsFrom [] 0 (shown v xs) = (outlines xs).map (Outline.place v) :=
    declarationsFrom_shown v [] 0 xs
  have hbytes : encode (Passage.text v xs) = Passage.bytes v xs := encode_textOf _
  have hfound : declarations (Passage.bytes v xs) = (outlines xs).map (Outline.place v) := by
    rw [declarations, Passage.bytes, mask_bytesOf]
    exact hscan
  rw [methods, hbytes, hfound, List.map_map]
  refine List.map_congr_left fun o ho => ?_
  obtain ⟨front, x, rest, hfits, hopen, heq⟩ := fits_of_mem ho
  rw [List.reverse_nil, List.nil_append] at heq
  rw [← heq]
  exact hfits.method_place hopen v

end CodeSurvey.Source
