/-
What the scan for declarations does with each part of a class.

The scan passes text without an opening parenthesis, and annotations with theirs, since no type stands before the
name of an annotation. At the parameters of a method it takes the method, whatever its body holds: `declarationAt_eq`
says what has to be found, `closing_block`, `ending_lastPart` and `headerLength_parts` find it. All are about masked
bytes, so literals play no part in them.
-/
import CodeSurvey.Proofs.Source.ClassText

namespace CodeSurvey.Source

open Text

/-! ## Bytes of the classes -/

def isParenByte (b : UInt8) : Bool := b == parenOpen || b == parenClose

def isStopByte (b : UInt8) : Bool := b == semicolon || b == braceOpen || b == braceClose

theorem classes_ascii : ∀ n < 128,
    isIdentByte (UInt8.ofNat n) = isIdentChar (Char.ofNat n) ∧
      fitsThrows (UInt8.ofNat n) = isClauseChar (Char.ofNat n) ∧
      endsType (UInt8.ofNat n) = isTypeEnd (Char.ofNat n) ∧ isParenByte (UInt8.ofNat n) = isParen (Char.ofNat n) ∧
      isStopByte (UInt8.ofNat n) = isStop (Char.ofNat n) ∧
      isAsciiDigitByte (UInt8.ofNat n) = isAsciiDigit (Char.ofNat n) := by
  decide +kernel

theorem classes_beyond : ∀ n < 256, 128 ≤ n →
    isIdentByte (UInt8.ofNat n) = true ∧ fitsThrows (UInt8.ofNat n) = true ∧ endsType (UInt8.ofNat n) = true ∧
      isParenByte (UInt8.ofNat n) = false ∧ isStopByte (UInt8.ofNat n) = false ∧
      isAsciiDigitByte (UInt8.ofNat n) = false := by
  decide +kernel

theorem agrees_ident : Agrees isIdentByte isIdentChar :=
  agrees_of true (fun n hn => (classes_ascii n hn).1) (fun n hn h => (classes_beyond n hn h).1) fun c hc => by
    simp [isIdentChar, isAscii, hc]

theorem agrees_clause : Agrees fitsThrows isClauseChar :=
  agrees_of true (fun n hn => (classes_ascii n hn).2.1) (fun n hn h => (classes_beyond n hn h).2.1) fun c hc => by
    simp [isClauseChar, isAscii, hc]

theorem agrees_typeEnd : Agrees endsType isTypeEnd :=
  agrees_of true (fun n hn => (classes_ascii n hn).2.2.1) (fun n hn h => (classes_beyond n hn h).2.2.1) fun c hc => by
    simp [isTypeEnd, isAscii, hc]

theorem agrees_paren : Agrees isParenByte isParen := by
  refine agrees_of false (fun n hn => (classes_ascii n hn).2.2.2.1) (fun n hn h => (classes_beyond n hn h).2.2.2.1) ?_
  intro c hc
  simp only [isParen, Bool.or_eq_false_iff, beq_eq_false_iff_ne]
  refine ⟨?_, ?_⟩ <;> rintro rfl <;> exact absurd hc (by decide)

theorem agrees_stop : Agrees isStopByte isStop := by
  refine agrees_of false (fun n hn => (classes_ascii n hn).2.2.2.2.1)
    (fun n hn h => (classes_beyond n hn h).2.2.2.2.1) ?_
  intro c hc
  simp only [isStop, Bool.or_eq_false_iff, beq_eq_false_iff_ne]
  refine ⟨⟨?_, ?_⟩, ?_⟩ <;> rintro rfl <;> exact absurd hc (by decide)

theorem agrees_digit : Agrees isAsciiDigitByte isAsciiDigit := by
  refine agrees_of false (fun n hn => (classes_ascii n hn).2.2.2.2.2)
    (fun n hn h => (classes_beyond n hn h).2.2.2.2.2) ?_
  intro c hc
  simp only [isAsciiDigit, Char.le_def, UInt32.le_iff_toNat_le, Bool.and_eq_false_iff, decide_eq_false_iff_not]
  exact .inr (Nat.not_le.2 (Nat.lt_of_lt_of_le (by decide) hc))

theorem shows_ident : Shows isIdentByte isIdentChar := ⟨agrees_ident, rfl, fun k => by cases k <;> rfl⟩

theorem shows_typeEnd : Shows endsType isTypeEnd := ⟨agrees_typeEnd, rfl, fun k => by cases k <;> rfl⟩

theorem shows_paren : Shows isParenByte isParen := ⟨agrees_paren, rfl, fun k => by cases k <;> rfl⟩

theorem shows_digit : Shows isAsciiDigitByte isAsciiDigit := ⟨agrees_digit, rfl, fun k => by cases k <;> rfl⟩

theorem agrees_plain : Agrees (fun b => !isParenByte b && !isStopByte b) fun c => !isParen c && !isStop c := by
  intro c b hb
  dsimp only
  rw [agrees_paren c b hb, agrees_stop c b hb]

theorem agrees_dotted : Agrees (fun b => isIdentByte b || b == 0x2E) isDottedChar := by
  have hdot := shows_delimiter (d := '.') (by decide) (by decide) fun k => by cases k <;> decide
  intro c b hb
  exact congrArg₂ or (agrees_ident c b hb) (hdot.agrees c b hb)

/-- what passes a test that no blank passes is no blank -/
theorem isBlankByte_eq_false {test : UInt8 → Bool}
    (hblanks : ([0x20, 0x09, 0x0A, 0x0C, 0x0D] : List UInt8).any test = false) {b : UInt8} (h : test b = true) :
    isBlankByte b = false := by
  rw [Bool.eq_false_iff]
  intro hblank
  simp only [isBlankByte, Bool.or_eq_true, decide_eq_true_eq] at hblank
  have hmem : b ∈ ([0x20, 0x09, 0x0A, 0x0C, 0x0D] : List UInt8) := by
    simpa only [List.mem_cons, List.not_mem_nil, or_false, or_assoc] using hblank
  exact List.any_eq_false.mp hblanks b hmem h

theorem isBlankByte_of_ident {b : UInt8} (h : isIdentByte b = true) : isBlankByte b = false :=
  isBlankByte_eq_false rfl h

theorem isBlankByte_of_typeEnd {b : UInt8} (h : endsType b = true) : isBlankByte b = false :=
  isBlankByte_eq_false rfl h

theorem plain_of_dotted {b : UInt8} (h : (isIdentByte b || b == 0x2E) = true) :
    isParenByte b = false ∧ isStopByte b = false := by
  rw [Bool.eq_false_iff, Bool.eq_false_iff]
  constructor
  · intro hparen
    simp only [isParenByte, Bool.or_eq_true, beq_iff_eq] at hparen
    rcases hparen with rfl | rfl <;> exact absurd h (by decide)
  · intro hstop
    simp only [isStopByte, Bool.or_eq_true, beq_iff_eq] at hstop
    rcases hstop with (rfl | rfl) | rfl <;> exact absurd h (by decide)

/-! ## Passing -/

theorem declarationsFrom_pass {bs : Bytes} (h : ∀ b ∈ bs, b ≠ parenOpen) (before rest : Bytes) :
    declarationsFrom before 0 (bs ++ rest) = declarationsFrom (bs.reverse ++ before) 0 rest := by
  induction bs generalizing before with
  | nil => rfl
  | cons b bs ih =>
    rw [List.cons_append, declarationsFrom, if_neg (h b List.mem_cons_self),
      ih fun b' hb' => h b' (List.mem_cons_of_mem b hb'), List.reverse_cons, List.append_assoc, List.singleton_append]

/-- the bytes of the last declaration are passed whatever they are -/
theorem declarationsFrom_skip (bs before rest : Bytes) :
    declarationsFrom before bs.length (bs ++ rest) = declarationsFrom (bs.reverse ++ before) 0 rest := by
  induction bs generalizing before with
  | nil => rfl
  | cons b bs ih =>
    rw [List.cons_append, List.length_cons, declarationsFrom, ih, List.reverse_cons, List.append_assoc,
      List.singleton_append]

theorem declarationsFrom_none {before rest : Bytes} (h : declarationAt before rest = none) :
    declarationsFrom before 0 (parenOpen :: rest) = declarationsFrom (parenOpen :: before) 0 rest := by
  rw [declarationsFrom, if_pos rfl, h]

theorem declarationsFrom_some {before rest : Bytes} {d : Declaration} (h : declarationAt before rest = some d) :
    declarationsFrom before 0 (parenOpen :: rest) =
      d :: declarationsFrom (parenOpen :: before) (d.last - before.length) rest := by
  rw [declarationsFrom, if_pos rfl, h]

/-- an identifier, and what stands before it -/
theorem dropWhile_blank {run : Bytes} (hrun : ∀ b ∈ run, isIdentByte b = true) {b : UInt8}
    (hb : isBlankByte b = false) (before : Bytes) :
    (run ++ b :: before).dropWhile isBlankByte = run ++ b :: before := by
  cases run with
  | nil => rw [List.nil_append, List.dropWhile_cons_of_neg (by simp [hb])]
  | cons x run =>
    have hx := isBlankByte_of_ident (hrun x List.mem_cons_self)
    rw [List.cons_append, List.dropWhile_cons_of_neg (by simp [hx])]

/-- behind a byte that ends no type there is no name of a method -/
theorem declarationAt_none {run : Bytes} (hrun : ∀ b ∈ run, isIdentByte b = true) {b : UInt8}
    (hident : isIdentByte b = false) (hblank : isBlankByte b = false) (htype : endsType b = false)
    (before rest : Bytes) : declarationAt (run ++ b :: before) rest = none := by
  have hdrop : (run ++ b :: before).dropWhile isIdentByte = b :: before := by
    rw [List.dropWhile_append_of_pos hrun, List.dropWhile_cons_of_neg (by simp [hident])]
  have hfollows : followsType (b :: before) = false := by
    unfold followsType
    rw [List.dropWhile_cons_of_neg (by simp [hblank])]
    simp only [List.head?_cons, htype, Bool.false_and]
  unfold declarationAt
  simp only [dropWhile_blank hrun hblank, hdrop, hfollows]
  cases nameAtEnd (run ++ b :: before) <;> simp

/-- the name of an annotation stands behind its mark or a dot -/
theorem declarationAt_annotated {name : Bytes} (h : ∀ b ∈ name, (isIdentByte b || b == 0x2E) = true)
    (before rest : Bytes) : declarationAt (name.reverse ++ atSign :: before) rest = none := by
  -- the scan takes the part behind the last dot for a name; before it stands that dot or the mark
  have hrun : ∀ b ∈ name.reverse.takeWhile isIdentByte, isIdentByte b = true := fun b hb => List.mem_takeWhile_imp hb
  rw [← List.takeWhile_append_dropWhile (p := isIdentByte) (l := name.reverse), List.append_assoc]
  cases hrest : name.reverse.dropWhile isIdentByte with
  | nil => exact declarationAt_none hrun rfl rfl rfl before rest
  | cons b bs =>
    have hident : isIdentByte b = false := by
      have := List.head?_dropWhile_not isIdentByte name.reverse
      rw [hrest] at this
      simpa using this
    have hmem : b ∈ name := List.mem_reverse.1 ((List.dropWhile_sublist _).mem (hrest ▸ List.mem_cons_self))
    have hdot : b = 0x2E := by simpa [hident] using h b hmem
    subst hdot
    exact declarationAt_none hrun rfl rfl rfl _ rest

theorem ne_parenOpen {b : UInt8} (h : isParenByte b = false) : b ≠ parenOpen := by
  rintro rfl
  exact Bool.false_ne_true h.symm

theorem plain_shown {l : Lexeme} (code : l.Is (fun c => !isParen c && !isStop c) = true) :
    ∀ b ∈ l.shown, isParenByte b = false ∧ isStopByte b = false := by
  intro b hb
  simpa using agrees_plain.mem_shown code hb

theorem shownOf_annotated {name args : List Lexeme} {named flat} :
    shownOf (Part.annotated name args named flat).lexemes =
      atSign :: shownOf name ++ parenOpen :: shownOf args ++ [parenClose] := by
  simp only [Part.lexemes, shownOf_append, shownOf_cons, shownOf_nil]
  rfl

theorem declarationsFrom_part (p : Part) (before rest : Bytes) :
    declarationsFrom before 0 (shownOf p.lexemes ++ rest) =
      declarationsFrom ((shownOf p.lexemes).reverse ++ before) 0 rest := by
  cases p with
  | plain l code =>
    refine declarationsFrom_pass (fun b hb => ?_) before rest
    obtain ⟨l', hl', hb⟩ := mem_shownOf.1 hb
    exact ne_parenOpen (plain_shown code b (List.mem_singleton.1 hl' ▸ hb)).1
  | annotated name args named flat =>
    have hnamed := agrees_dotted.all_shownOf named
    have hname : ∀ b ∈ atSign :: shownOf name, b ≠ parenOpen := by
      intro b hb
      rcases List.mem_cons.1 hb with rfl | hb
      · decide
      · exact ne_parenOpen (plain_of_dotted (hnamed b hb)).1
    have hargs : ∀ b ∈ shownOf args ++ [parenClose], b ≠ parenOpen := by
      intro b hb
      rcases List.mem_append.1 hb with hb | hb
      · exact ne_parenOpen (shows_paren.none_shownOf flat b hb)
      · rw [List.mem_singleton.1 hb]
        decide
    have hnone := declarationAt_annotated hnamed before (shownOf args ++ [parenClose] ++ rest)
    rw [shownOf_annotated, List.append_assoc, List.append_assoc, declarationsFrom_pass hname, List.reverse_cons,
      List.append_assoc, List.singleton_append, List.cons_append, ← List.append_assoc, declarationsFrom_none hnone,
      declarationsFrom_pass hargs]
    simp only [List.reverse_append, List.reverse_cons, List.append_assoc, List.cons_append, List.nil_append,
      List.reverse_nil]

theorem declarationsFrom_parts (ps : List Part) (before rest : Bytes) :
    declarationsFrom before 0 (shownOf (partsOf ps) ++ rest) =
      declarationsFrom ((shownOf (partsOf ps)).reverse ++ before) 0 rest := by
  induction ps generalizing before with
  | nil => rfl
  | cons p ps ih =>
    rw [partsOf, List.flatMap_cons, ← partsOf, shownOf_append, List.append_assoc, declarationsFrom_part, ih,
      List.reverse_append, List.append_assoc]

/-! ## The end of a declaration -/

theorem not_end_of_clause {b : UInt8} (h : fitsThrows b = true) : b ≠ braceOpen ∧ b ≠ semicolon := by
  refine ⟨?_, ?_⟩ <;> rintro rfl <;> exact absurd h (by decide)

theorem ending_clause {bs : Bytes} (h : ∀ b ∈ bs, fitsThrows b = true) (rest : Bytes) :
    ending (bs ++ rest) = (ending rest).map fun (n, body) => (n + bs.length, body) := by
  induction bs with
  | nil => simp
  | cons b bs ih =>
    have hb := h b List.mem_cons_self
    have hend := not_end_of_clause hb
    rw [List.cons_append, ending, if_neg hend.1, if_neg hend.2, if_pos hb,
      ih fun b' hb' => h b' (List.mem_cons_of_mem b hb'), Option.map_map]
    rfl

/-- The end of a method is its body or its semicolon. -/
theorem ending_lastPart (m : MethodText) (rest : Bytes) :
    ending (shownOf m.clause ++ (shownOf m.lastPart ++ rest)) =
      some ((shownOf m.clause).length, m.body.map fun inner => (shownOf (blockOf inner)).length) := by
  rw [ending_clause (agrees_clause.all_shownOf m.clause_fits)]
  have hbody := m.body_balanced
  unfold MethodText.lastPart
  cases hm : m.body with
  | none =>
    have hstop : ending (semicolon :: rest) = some (0, none) := by
      rw [ending, if_neg (by decide), if_pos rfl]
    show (ending (semicolon :: rest)).map _ = _
    rw [hstop]
    simp
  | some inner =>
    have hblock : shownOf (blockOf inner) = braceOpen :: shownOf inner ++ [braceClose] := by
      simp only [blockOf, shownOf_append, shownOf_cons, shownOf_nil]
      rfl
    have hclosing := closing_block braces (hbody inner hm) rest
    show (ending (shownOf (blockOf inner) ++ rest)).map _ = _
    rw [hblock, List.append_assoc, List.singleton_append, List.cons_append, ending, if_pos rfl, ← List.cons_append,
      hclosing]
    simp [hblock]

/-! ## The header -/

theorem headerLength_over {bs : Bytes} {depth : Nat}
    (h : ∀ b ∈ bs, isParenByte b = false ∧ (isStopByte b = true → depth ≠ 0)) (before : Bytes) :
    headerLength depth (bs ++ before) = headerLength depth before + bs.length := by
  induction bs with
  | nil => rfl
  | cons b bs ih =>
    obtain ⟨hparen, hstop⟩ := h b List.mem_cons_self
    simp only [isParenByte, Bool.or_eq_false_iff, beq_eq_false_iff_ne] at hparen
    have hgoes : ¬ ((b = semicolon || b = braceOpen || b = braceClose) && depth = 0) = true := by
      simpa [isStopByte] using hstop
    rw [List.cons_append, headerLength, if_neg hparen.2, if_neg hparen.1, if_neg hgoes,
      ih fun b' hb' => h b' (List.mem_cons_of_mem b hb')]
    rfl

theorem headerLength_pass {bs : Bytes} (h : ∀ b ∈ bs, isParenByte b = false ∧ isStopByte b = false) (depth : Nat)
    (before : Bytes) : headerLength depth (bs ++ before) = headerLength depth before + bs.length :=
  headerLength_over (fun b hb => ⟨(h b hb).1, fun hstop => absurd hstop (by simp [(h b hb).2])⟩) before

/-- between parentheses nothing ends a header -/
theorem headerLength_inside {bs : Bytes} (h : ∀ b ∈ bs, isParenByte b = false) (depth : Nat) (before : Bytes) :
    headerLength (depth + 1) (bs ++ before) = headerLength (depth + 1) before + bs.length :=
  headerLength_over (fun b hb => ⟨h b hb, fun _ => Nat.succ_ne_zero depth⟩) before

theorem headerLength_part (p : Part) (before : Bytes) :
    headerLength 0 ((shownOf p.lexemes).reverse ++ before) = headerLength 0 before + (shownOf p.lexemes).length := by
  cases p with
  | plain l code =>
    have hplain : ∀ b ∈ (shownOf (Part.plain l code).lexemes).reverse,
        isParenByte b = false ∧ isStopByte b = false := by
      intro b hb
      obtain ⟨l', hl', hb⟩ := mem_shownOf.1 (List.mem_reverse.1 hb)
      exact plain_shown code b (List.mem_singleton.1 hl' ▸ hb)
    rw [headerLength_pass hplain, List.length_reverse]
  | annotated name args named flat =>
    have hargs : ∀ b ∈ (shownOf args).reverse, isParenByte b = false := fun b hb =>
      shows_paren.none_shownOf flat b (List.mem_reverse.1 hb)
    have hname : ∀ b ∈ (atSign :: shownOf name).reverse, isParenByte b = false ∧ isStopByte b = false := by
      intro b hb
      rcases List.mem_cons.1 (List.mem_reverse.1 hb) with rfl | hb
      · decide
      · exact plain_of_dotted (agrees_dotted.all_shownOf named b hb)
    have hclose : ∀ bs, headerLength 0 (parenClose :: bs) = headerLength 1 bs + 1 := fun bs => rfl
    have hopen : ∀ bs, headerLength 1 (parenOpen :: bs) = headerLength 0 bs + 1 := fun bs => rfl
    have hreverse : (shownOf (Part.annotated name args named flat).lexemes).reverse ++ before =
        parenClose :: ((shownOf args).reverse ++ parenOpen :: ((atSign :: shownOf name).reverse ++ before)) := by
      rw [shownOf_annotated]
      simp only [List.reverse_append, List.reverse_cons, List.append_assoc, List.cons_append, List.nil_append,
        List.reverse_nil]
    rw [hreverse, hclose, headerLength_inside hargs, hopen, headerLength_pass hname, shownOf_annotated]
    simp only [List.length_append, List.length_cons, List.length_reverse, List.length_nil]
    omega

theorem headerLength_parts (ps : List Part) (before : Bytes) :
    headerLength 0 ((shownOf (partsOf ps)).reverse ++ before) =
      headerLength 0 before + (shownOf (partsOf ps)).length := by
  induction ps generalizing before with
  | nil => rfl
  | cons p ps ih =>
    rw [partsOf, List.flatMap_cons, ← partsOf, shownOf_append, List.reverse_append, List.append_assoc, ih,
      headerLength_part, List.length_append, Nat.add_assoc]

/-! ## A declaration -/

theorem takeWhile_append_of_head {α : Type} {p : α → Bool} {bs : List α} (h : ∀ b ∈ bs.head?, p b = false)
    (before : List α) : (before ++ bs).takeWhile p = before.takeWhile p := by
  induction before with
  | nil =>
    cases bs with
    | nil => rfl
    | cons b bs => rw [List.nil_append, List.takeWhile_cons_of_neg (by simp [h b rfl]), List.takeWhile_nil]
  | cons a before ih =>
    rw [List.cons_append, List.takeWhile_cons, List.takeWhile_cons, ih]

/-- The last identifier of a header is not the word that creates an object. -/
theorem followsType_header {ps : List Part} (htyped : ∃ l, (partsOf ps).getLast? = some l ∧ l.Is isTypeEnd = true)
    (hnew : lastWord (partsOf ps) ≠ "new") {before : Bytes} (hbefore : ∀ b ∈ before.head?, isIdentByte b = false) :
    followsType (space :: ((shownOf (partsOf ps)).reverse ++ before)) = true := by
  obtain ⟨l, hlast, htype⟩ := htyped
  obtain ⟨ls, hls⟩ := List.getLast?_eq_some_iff.1 hlast
  obtain ⟨b, bs, hl⟩ : ∃ b bs, l.shown.reverse = b :: bs := by
    cases hrev : l.shown.reverse with
    | nil => exact absurd (List.reverse_eq_nil_iff.1 hrev) (shown_ne_nil l)
    | cons b bs => exact ⟨b, bs, rfl⟩
  have hb : endsType b = true := by
    rw [shows_typeEnd.mem_shown (List.mem_reverse.1 (hl ▸ List.mem_cons_self)), htype]
  have hhead : (shownOf (partsOf ps)).reverse ++ before = b :: (bs ++ ((shownOf ls).reverse ++ before)) := by
    rw [hls, shownOf_append, List.reverse_append, shownOf_cons, shownOf_nil, List.append_nil, hl]
    simp only [List.append_assoc, List.cons_append]
  have hhead' : ((shownOf (partsOf ps)).reverse ++ before).head? = some b := by rw [hhead, List.head?_cons]
  have hdrop : (space :: ((shownOf (partsOf ps)).reverse ++ before)).dropWhile isBlankByte =
      (shownOf (partsOf ps)).reverse ++ before := by
    rw [List.dropWhile_cons_of_pos rfl, hhead, List.dropWhile_cons_of_neg (by simp [isBlankByte_of_typeEnd hb])]
  have hword : (((shownOf (partsOf ps)).reverse ++ before).takeWhile isIdentByte).reverse =
      encode (lastWord (partsOf ps)) := by
    rw [takeWhile_append_of_head hbefore, shows_ident.takeWhile_reverse, List.reverse_reverse, lastWord, encode_textOf]
    exact shownOf_eq_bytesOf fun l hl => List.mem_rtakeWhile_imp (p := (Lexeme.Is · isIdentChar)) hl
  have hne : encode (lastWord (partsOf ps)) ≠ encode "new" := fun h => hnew (encode_injective h)
  unfold followsType
  simp only [hdrop, hhead', hword, hb, Bool.true_and, bne_iff_ne]
  exact hne

/-- where the parts of a declaration are: its header, its name and its parameters start at the given places, so far
apart, and its end at `stop` -/
def placed (header start paren close stop : Nat) (body : Option Nat) : Declaration where
  name := ⟨start, paren⟩
  header := ⟨header, start⟩
  params := ⟨paren + 1, close⟩
  body := body.map fun length => ⟨stop, stop + length⟩
  last := match body with
    | some length => stop + length - 1
    | none => stop

/-- **What is found around an opening parenthesis makes a declaration.** -/
theorem declarationAt_eq {name before rest : Bytes} {n gap : Nat} {body : Option Nat}
    (hname : ∀ b ∈ name, isIdentByte b = true) (hstarts : ∃ b, name.head? = some b ∧ isAsciiDigitByte b = false)
    (hdeclares : name ∉ notMethodNames.map encode) (htype : followsType (space :: before) = true)
    (hclosing : closing parenOpen parenClose 0 (parenOpen :: rest) = some n)
    (hending : ending (rest.drop n) = some (gap, body)) {start paren : Nat} (hstart : start = before.length + 1)
    (hparen : paren = start + name.length) :
    declarationAt (name.reverse ++ space :: before) rest =
      some (placed (start - headerLength 0 (space :: before)) start paren (paren + n) (paren + n + 1 + gap) body) := by
  obtain ⟨first, hfirst, hdigit⟩ := hstarts
  have hreverse : ∀ b ∈ name.reverse, isIdentByte b = true := fun b hb => hname b (List.mem_reverse.1 hb)
  have hblank : (name.reverse ++ space :: before).dropWhile isBlankByte = name.reverse ++ space :: before := by
    cases hrev : name.reverse with
    | nil => rw [List.reverse_eq_nil_iff.1 hrev] at hfirst; exact nomatch hfirst
    | cons b bs =>
      have hb := isBlankByte_of_ident (hreverse b (hrev ▸ List.mem_cons_self))
      rw [List.cons_append, List.dropWhile_cons_of_neg (by simp [hb])]
  have hdrop : (name.reverse ++ space :: before).dropWhile isIdentByte = space :: before := by
    rw [List.dropWhile_append_of_pos hreverse, List.dropWhile_cons_of_neg (by decide)]
  have htake : ((name.reverse ++ space :: before).takeWhile isIdentByte).reverse = name := by
    rw [List.takeWhile_append_of_pos hreverse, List.takeWhile_cons_of_neg (by decide), List.append_nil,
      List.reverse_reverse]
  have hat : nameAtEnd (name.reverse ++ space :: before) = some name := by
    unfold nameAtEnd
    simp only [htake, hdrop, hfirst, hdigit, Bool.false_or, List.head?_cons]
    rw [if_neg (by decide)]
  have hcontains : (notMethodNames.map encode).contains name = false := by
    rw [Bool.eq_false_iff, Ne, List.contains_iff_mem]
    exact hdeclares
  have hlength : (name.reverse ++ space :: before).length = paren := by
    rw [List.length_append, List.length_reverse, List.length_cons, hparen, hstart, Nat.add_comm]
  have hbefore : (space :: before).length = start := hstart.symm
  unfold declarationAt
  simp only [hblank, hdrop, hat, hcontains, htype, hclosing, hending, Option.bind_some, Option.map_some, hlength,
    hbefore]
  rw [if_neg (by decide)]
  rfl

end CodeSurvey.Source
