/-
The comment reader, turn by turn.

`readFrom` is `scan` with a record of its moves (`scan_eq`): each with the mode and the byte that it is made at. What a
move keeps comes from code, from within a literal, or delimits one (`Origin`), and the modes before and after the move
tell which.

`Takes` says once what a turn can do, in characters: which of them it takes from the front of the text, what it keeps of
them and in which mode it leaves the reader. `goes_of_takes` ties each rule to the bytes, where a character beyond ASCII
is passed byte by byte, and `exists_takes` shows that some rule fits wherever text is left. `Reads` is any number of
turns: every text is read to its end (`exists_reads`), and `stripComments_of_reads` says what is left of it.
-/
import CodeSurvey.Proofs.Source.Lexeme

namespace CodeSurvey.Source

open Text

/-! ## Turns -/

/-- within a string, a character or a text block -/
def Mode.isLiteral : Mode → Bool
  | .inString | .inChar | .textBlock => true
  | _ => false

/-- where something that is kept comes from -/
inductive Origin where
  /-- outside literals; so does the space that a comment leaves -/
  | code
  /-- it opens or closes a literal -/
  | delimiter
  /-- within a literal; so does an escape with its backslash -/
  | inside
  deriving DecidableEq, Repr

/-- the origin of what a move keeps, by the modes before and after it -/
def Origin.of (before after : Mode) : Origin :=
  if before.isLiteral && after.isLiteral then .inside
  else if before.isLiteral || after.isLiteral then .delimiter
  else .code

/-- a move: the mode and the byte that it is made at, what it keeps, and the mode after it -/
structure Turn where
  mode : Mode
  byte : UInt8
  kept : Bytes
  next : Mode
  deriving DecidableEq, Repr

/-- what the turn keeps, with its origin -/
def Turn.marked (t : Turn) : List (UInt8 × Origin) := t.kept.map fun b => (b, Origin.of t.mode t.next)

/-- a quote within a text block that neither ends it nor stands behind a backslash -/
def Turn.LooseQuote (t : Turn) : Prop := t.mode = .textBlock ∧ t.byte = quote ∧ t.next = .textBlock

/-- the turns of a scan, and the state at the end -/
def readFrom : State → Bytes → List Turn × State
  | st, [] => ([], st)
  | ⟨mode, n + 1⟩, _ :: rest => readFrom ⟨mode, n⟩ rest
  | ⟨mode, 0⟩, b :: rest =>
    let m := move mode b rest
    let (turns, last) := readFrom ⟨m.mode, m.more⟩ rest
    (⟨mode, b, m.kept, m.mode⟩ :: turns, last)

/-- A scan keeps what its turns keep. -/
theorem scan_eq (st : State) (bs : Bytes) :
    scan st bs = ((readFrom st bs).1.flatMap Turn.kept, (readFrom st bs).2) := by
  induction bs generalizing st with
  | nil => rfl
  | cons b rest ih =>
    obtain ⟨mode, n⟩ := st
    cases n with
    | zero =>
      rw [scan, readFrom, ih]
      rfl
    | succ n =>
      rw [scan, readFrom]
      exact ih _

/-- the turns of the text that is read in a mode -/
def turns (mode : Mode) (text : List Char) : List Turn := (readFrom ⟨mode, 0⟩ (encodeChars text)).1

/-- the mode at the end of the text -/
def lastMode (mode : Mode) (text : List Char) : Mode := (readFrom ⟨mode, 0⟩ (encodeChars text)).2.mode

/-- the characters, all of one origin -/
def marked (o : Origin) (cs : List Char) : List (Char × Origin) := cs.map fun c => (c, o)

theorem map_fst_marked (o : Origin) (cs : List Char) : (marked o cs).map Prod.fst = cs := by
  simp [marked, Function.comp_def]

/-- the marks of characters, for each of their bytes -/
def encodeMarked (cs : List (Char × Origin)) : List (UInt8 × Origin) :=
  cs.flatMap fun c => (String.utf8EncodeChar c.1).map fun b => (b, c.2)

@[simp]
theorem encodeMarked_nil : encodeMarked [] = [] := rfl

theorem encodeMarked_cons (c : Char × Origin) (cs : List (Char × Origin)) :
    encodeMarked (c :: cs) = ((String.utf8EncodeChar c.1).map fun b => (b, c.2)) ++ encodeMarked cs :=
  List.flatMap_cons

theorem encodeMarked_append (cs ds : List (Char × Origin)) :
    encodeMarked (cs ++ ds) = encodeMarked cs ++ encodeMarked ds :=
  List.flatMap_append

/-- without the marks it is the plain form -/
theorem map_fst_encodeMarked (cs : List (Char × Origin)) :
    (encodeMarked cs).map Prod.fst = encodeChars (cs.map Prod.fst) := by
  induction cs with
  | nil => rfl
  | cons c cs ih =>
    rw [encodeMarked_cons, List.map_append, ih, List.map_cons, encodeChars_cons, List.map_map]
    simp [Function.comp_def]

/-! ## The rules -/

/-- the mode within a literal -/
def Literal.mode : Literal → Mode
  | .string => .inString
  | .char => .inChar

/-- three quotes, which open and close a text block -/
def tripleQuote : List Char := ['"', '"', '"']

/-- one turn, in characters: the mode and the text before it, what it keeps, the mode and the text after it -/
inductive Takes : Mode → List Char → List (Char × Origin) → Mode → List Char → Prop
  | lineStart (rest) : Takes .code ('/' :: '/' :: rest) [(' ', .code)] .lineComment rest
  | blockStart (rest) : Takes .code ('/' :: '*' :: rest) [(' ', .code)] .blockComment rest
  | textBlockStart (rest) :
      Takes .code (tripleQuote ++ rest) (marked .delimiter tripleQuote) .textBlock rest
  | literalStart (k : Literal) (rest) (h : k = .string → ¬ ['"', '"'] <+: rest) :
      Takes .code (k.mark :: rest) [(k.mark, .delimiter)] k.mode rest
  | code (c rest) (h : c ≠ '"' ∧ c ≠ '\'') (hs : c = '/' → rest.head? ≠ some '/' ∧ rest.head? ≠ some '*') :
      Takes .code (c :: rest) [(c, .code)] .code rest
  | escape (mode) (h : mode.isLiteral = true) (c rest) :
      Takes mode ('\\' :: c :: rest) [('\\', .inside), (c, .inside)] mode rest
  | loneBackslash (mode) (h : mode.isLiteral = true) : Takes mode ['\\'] [('\\', .inside)] mode []
  | textBlockEnd (rest) :
      Takes .textBlock (tripleQuote ++ rest) (marked .delimiter tripleQuote) .code rest
  | inTextBlock (c rest) (h : c ≠ '\\') (hq : c = '"' → ¬ ['"', '"'] <+: rest) :
      Takes .textBlock (c :: rest) [(c, .inside)] .textBlock rest
  | literalEnd (k : Literal) (rest) : Takes k.mode (k.mark :: rest) [(k.mark, .delimiter)] .code rest
  /-- a line feed ends a literal that is still open -/
  | cutOff (k : Literal) (rest) : Takes k.mode ('\n' :: rest) [('\n', .delimiter)] .code rest
  | inLiteral (k : Literal) (c rest) (h : c ≠ k.mark ∧ c ≠ '\\' ∧ c ≠ '\n') :
      Takes k.mode (c :: rest) [(c, .inside)] k.mode rest
  | lineEnd (rest) : Takes .lineComment ('\n' :: rest) [('\n', .code)] .code rest
  | inLineComment (c rest) (h : c ≠ '\n') : Takes .lineComment (c :: rest) [] .lineComment rest
  | blockEnd (rest) : Takes .blockComment ('*' :: '/' :: rest) [] .code rest
  | inBlockComment (c rest) (h : c = '*' → rest.head? ≠ some '/') :
      Takes .blockComment (c :: rest) [] .blockComment rest

theorem head?_encodeChars {d : Char} (hd : d.toNat < 128) {cs : List Char}
    (h : (encodeChars cs).head? = some (UInt8.ofNat d.toNat)) : cs.head? = some d := by
  cases cs with
  | nil => exact nomatch h
  | cons c cs =>
    obtain ⟨b, bs, hform, -⟩ := utf8EncodeChar_cons c
    rw [encodeChars_cons, hform] at h
    have hb : UInt8.ofNat d.toNat ∈ String.utf8EncodeChar c := by
      rw [hform, ← Option.some.inj h]
      exact List.mem_cons_self
    rw [List.head?_cons, (mem_utf8EncodeChar_iff hd).1 hb]

theorem quotesFollow_encodeChars {cs : List Char} (h : quotesFollow (encodeChars cs) = true) : ['"', '"'] <+: cs := by
  have hfirst : cs.head? = some '"' := by
    refine head?_encodeChars (by decide) ?_
    unfold quotesFollow at h
    cases hcs : encodeChars cs with
    | nil => rw [hcs] at h; exact nomatch h
    | cons b bs =>
      rw [hcs] at h
      simp only [List.take_succ_cons, beq_iff_eq, List.cons.injEq] at h
      rw [h.1]
      rfl
  obtain ⟨rest, rfl⟩ := List.head?_eq_some_iff.1 hfirst
  have hsecond : rest.head? = some '"' := by
    refine head?_encodeChars (by decide) ?_
    have hquote : encodeChars ('"' :: rest) = quote :: encodeChars rest := rfl
    rw [hquote] at h
    unfold quotesFollow at h
    cases hcs : encodeChars rest with
    | nil => rw [hcs] at h; exact nomatch h
    | cons b bs =>
      rw [hcs] at h
      simp only [List.take_succ_cons, List.take_zero, beq_iff_eq, List.cons.injEq] at h
      rw [h.2.1]
      rfl
  obtain ⟨rest, rfl⟩ := List.head?_eq_some_iff.1 hsecond
  exact ⟨rest, rfl⟩

/-! ## The rules in bytes -/

/-- what the turns of one rule amount to -/
structure Amounts (ts : List Turn) (kept : List (Char × Origin)) (loose : Prop) : Prop where
  marked : ts.flatMap Turn.marked = encodeMarked kept
  loose : (∃ t ∈ ts, t.LooseQuote) ↔ loose

theorem readFrom_cons (mode : Mode) (b : UInt8) (rest : Bytes) :
    readFrom ⟨mode, 0⟩ (b :: rest) =
      (⟨mode, b, (move mode b rest).kept, (move mode b rest).mode⟩ ::
          (readFrom ⟨(move mode b rest).mode, (move mode b rest).more⟩ rest).1,
        (readFrom ⟨(move mode b rest).mode, (move mode b rest).more⟩ rest).2) :=
  rfl

/-- bytes at which the reader stays in its mode -/
theorem readFrom_pass {mode : Mode} {kept : UInt8 → Bytes} {bs : Bytes}
    (h : ∀ b ∈ bs, ∀ rest, move mode b rest = ⟨kept b, mode, 0⟩) (rest : Bytes) :
    readFrom ⟨mode, 0⟩ (bs ++ rest) =
      (bs.map (fun b => ⟨mode, b, kept b, mode⟩) ++ (readFrom ⟨mode, 0⟩ rest).1, (readFrom ⟨mode, 0⟩ rest).2) := by
  induction bs with
  | nil => rfl
  | cons b bs ih =>
    rw [List.cons_append, readFrom_cons, h b List.mem_cons_self, ih fun b' hb' => h b' (List.mem_cons_of_mem b hb')]
    rfl

/-- a character at whose bytes the reader stays in its mode; what follows is known where it is one byte -/
theorem readFrom_char {mode : Mode} {c : Char} {rest : List Char} {kept : UInt8 → Bytes}
    (h : ∀ b ∈ String.utf8EncodeChar c, ∀ tail, (c.toNat < 128 → tail = encodeChars rest) →
      move mode b tail = ⟨kept b, mode, 0⟩) :
    readFrom ⟨mode, 0⟩ (encodeChars (c :: rest)) =
      ((String.utf8EncodeChar c).map (fun b => ⟨mode, b, kept b, mode⟩) ++ (readFrom ⟨mode, 0⟩ (encodeChars rest)).1,
        (readFrom ⟨mode, 0⟩ (encodeChars rest)).2) := by
  rw [encodeChars_cons]
  by_cases hc : c.toNat < 128
  · rw [utf8EncodeChar_ascii hc] at h ⊢
    rw [List.singleton_append, readFrom_cons, h _ List.mem_cons_self _ fun _ => rfl]
    rfl
  · exact readFrom_pass (fun b hb tail => h b hb tail fun hlow => absurd hlow hc) _

theorem ne_of_mem_utf8EncodeChar {c d : Char} (hd : d.toNat < 128) (h : c ≠ d) {b : UInt8}
    (hb : b ∈ String.utf8EncodeChar c) : b ≠ UInt8.ofNat d.toNat := by
  rintro rfl
  exact h ((mem_utf8EncodeChar_iff hd).1 hb)

/-- the turns at the bytes of a character that is kept -/
theorem amounts_kept (mode : Mode) (c : Char) :
    Amounts ((String.utf8EncodeChar c).map fun b => ⟨mode, b, [b], mode⟩) [(c, Origin.of mode mode)]
      (mode = .textBlock ∧ c = '"') where
  marked := by
    rw [List.flatMap_map, encodeMarked_cons, encodeMarked_nil, List.append_nil, List.map_eq_flatMap]
    rfl
  loose := by
    simp only [List.mem_map, Turn.LooseQuote]
    constructor
    · rintro ⟨t, ⟨b, hb, rfl⟩, hmode, hquote, -⟩
      rw [show b = UInt8.ofNat '"'.toNat from hquote] at hb
      exact ⟨hmode, (mem_utf8EncodeChar_iff (by decide)).1 hb⟩
    · rintro ⟨rfl, rfl⟩
      exact ⟨_, ⟨quote, by decide, rfl⟩, rfl, rfl, rfl⟩

/-- the turns at the bytes of a character that is dropped -/
theorem amounts_dropped {mode : Mode} (h : mode.isLiteral = false) (bs : Bytes) :
    Amounts (bs.map fun b => ⟨mode, b, [], mode⟩) [] False where
  marked := by simp [List.flatMap_map, Turn.marked]
  loose := by
    simp only [List.mem_map, Turn.LooseQuote, iff_false]
    rintro ⟨t, ⟨b, -, rfl⟩, hmode, -⟩
    rw [show mode = .textBlock from hmode] at h
    exact nomatch h

/-- one turn, of which not both ends are in a text block -/
theorem amounts_one {t : Turn} {kept : List (Char × Origin)} {p : Prop} (hmarked : t.marked = encodeMarked kept)
    (h : t.mode ≠ .textBlock ∨ t.next ≠ .textBlock) (hp : ¬ p) : Amounts [t] kept p where
  marked := by rw [List.flatMap_singleton, hmarked]
  loose := by
    simp only [List.mem_singleton, exists_eq_left, iff_false, hp]
    rintro ⟨hmode, -, hnext⟩
    rcases h with h | h
    · exact h hmode
    · exact h hnext

theorem Amounts.congr {ts : List Turn} {kept : List (Char × Origin)} {p q : Prop} (h : Amounts ts kept p)
    (hpq : p ↔ q) : Amounts ts kept q :=
  ⟨h.marked, h.loose.trans hpq⟩

theorem amounts_escape {mode : Mode} (h : mode.isLiteral = true) {c : Char} {b : UInt8} {bs : Bytes}
    (hform : String.utf8EncodeChar c = b :: bs) (hbs : ∀ b' ∈ bs, 128 ≤ b'.toNat) :
    Amounts (⟨mode, backslash, [backslash, b], mode⟩ :: bs.map fun b => ⟨mode, b, [b], mode⟩)
      [('\\', .inside), (c, .inside)] False where
  marked := by
    have hinside : Origin.of mode mode = .inside := by rw [Origin.of, h]; rfl
    have hback : String.utf8EncodeChar '\\' = [backslash] := by decide
    simp only [List.flatMap_cons, List.flatMap_map, Turn.marked, hinside, encodeMarked_cons, encodeMarked_nil, hback,
      hform, List.map_cons, List.map_nil, List.append_nil, List.cons_append, List.nil_append]
    rw [List.map_eq_flatMap]
  loose := by
    simp only [List.mem_cons, List.mem_map, Turn.LooseQuote, iff_false]
    rintro ⟨t, rfl | ⟨b', hb', rfl⟩, -, hquote, -⟩
    · exact absurd (show backslash = quote from hquote) (by decide)
    · rw [show b' = quote from hquote] at hb'
      exact absurd (hbs _ hb') (by decide)

/-! ### Moves at a byte -/

theorem move_code {b : UInt8} {rest : Bytes} (hq : b ≠ quote) (ha : b ≠ apostrophe)
    (hs : b = slash → rest.head? ≠ some slash ∧ rest.head? ≠ some star) : move .code b rest = ⟨[b], .code, 0⟩ := by
  by_cases hb : b = slash
  · obtain ⟨hslash, hstar⟩ := hs hb
    simp [move, hslash, hstar, hq, ha]
  · simp [move, hb, hq, ha]

theorem move_textBlock {b : UInt8} {rest : Bytes} (hb : b ≠ backslash) (hq : b = quote → quotesFollow rest = false) :
    move .textBlock b rest = ⟨[b], .textBlock, 0⟩ := by
  by_cases h : b = quote
  · simp [move, hb, hq h, afterLiteralByte]
  · simp [move, hb, h, afterLiteralByte]

theorem move_literal {k : Literal} {b : UInt8} (hq : b ≠ k.quote) (hb : b ≠ backslash) (hn : b ≠ newline)
    (rest : Bytes) : move k.mode b rest = ⟨[b], k.mode, 0⟩ := by
  cases k with
  | string =>
    have hquote : b ≠ quote := hq
    simp [Literal.mode, move, hb, afterLiteralByte, hquote, hn]
  | char =>
    have hquote : b ≠ apostrophe := hq
    simp [Literal.mode, move, hb, afterLiteralByte, hquote, hn]

theorem move_lineComment {b : UInt8} (h : b ≠ newline) (rest : Bytes) :
    move .lineComment b rest = ⟨[], .lineComment, 0⟩ := by
  simp [move, h]

theorem move_blockComment {b : UInt8} {rest : Bytes} (h : b = star → rest.head? ≠ some slash) :
    move .blockComment b rest = ⟨[], .blockComment, 0⟩ := by
  by_cases hb : b = star
  · simp [move, h hb]
  · simp [move, hb]

/-- the literal modes -/
theorem literal_cases {mode : Mode} (h : mode.isLiteral = true) : mode = .textBlock ∨ ∃ k : Literal, mode = k.mode := by
  cases mode with
  | inString => exact .inr ⟨.string, rfl⟩
  | inChar => exact .inr ⟨.char, rfl⟩
  | textBlock => exact .inl rfl
  | code => exact nomatch h
  | lineComment => exact nomatch h
  | blockComment => exact nomatch h

theorem move_escape {mode : Mode} (h : mode.isLiteral = true) (rest : Bytes) :
    move mode backslash rest = ⟨backslash :: rest.take 1, mode, 1⟩ := by
  obtain rfl | ⟨k, rfl⟩ := literal_cases h
  · rfl
  · cases k <;> rfl

/-- a byte beyond ASCII ends no literal -/
theorem move_beyond {mode : Mode} (h : mode.isLiteral = true) {b : UInt8} (hb : 128 ≤ b.toNat) (rest : Bytes) :
    move mode b rest = ⟨[b], mode, 0⟩ := by
  have hne : ∀ d : UInt8, d.toNat < 128 → b ≠ d := by
    rintro d hd rfl
    omega
  obtain rfl | ⟨k, rfl⟩ := literal_cases h
  · exact move_textBlock (hne _ (by decide)) fun hq => absurd hq (hne _ (by decide))
  · exact move_literal (hne _ (by cases k <;> decide)) (hne _ (by decide)) (hne _ (by decide)) rest

/-! ### From the rules to the turns -/

/-- the turns lead from one mode and text to another -/
def Goes (ts : List Turn) (mode : Mode) (text : List Char) (next : Mode) (rest : List Char) : Prop :=
  turns mode text = ts ++ turns next rest ∧ lastMode mode text = lastMode next rest

theorem goes_of {ts : List Turn} {mode next : Mode} {text rest : List Char}
    (h : readFrom ⟨mode, 0⟩ (encodeChars text) =
      (ts ++ (readFrom ⟨next, 0⟩ (encodeChars rest)).1, (readFrom ⟨next, 0⟩ (encodeChars rest)).2)) :
    Goes ts mode text next rest :=
  ⟨congrArg Prod.fst h, congrArg (fun r => r.2.mode) h⟩

/-- **Each rule is what the reader does at the bytes of its characters.** -/
theorem goes_of_takes {mode next : Mode} {text rest : List Char} {kept : List (Char × Origin)}
    (h : Takes mode text kept next rest) :
    ∃ ts, Goes ts mode text next rest ∧
      Amounts ts kept (mode = .textBlock ∧ next = .textBlock ∧ text.head? = some '"') := by
  cases h with
  | lineStart => exact ⟨[⟨.code, slash, [space], .lineComment⟩], goes_of rfl, amounts_one rfl (by decide) (by simp)⟩
  | blockStart => exact ⟨[⟨.code, slash, [space], .blockComment⟩], goes_of rfl, amounts_one rfl (by decide) (by simp)⟩
  | textBlockStart =>
    exact ⟨[⟨.code, quote, [quote, quote, quote], .textBlock⟩], goes_of rfl, amounts_one rfl (by decide) (by simp)⟩
  | textBlockEnd =>
    exact ⟨[⟨.textBlock, quote, [quote, quote, quote], .code⟩], goes_of rfl, amounts_one rfl (by decide) (by simp)⟩
  | literalStart k _ h =>
    cases k with
    | string =>
      have hfollow : quotesFollow (encodeChars rest) = false := by
        rw [← Bool.not_eq_true]
        exact mt quotesFollow_encodeChars (h rfl)
      have hmove : move .code quote (encodeChars rest) = ⟨[quote], .inString, 0⟩ := by
        simp [move, hfollow, show quote ≠ slash by decide]
      have hread := readFrom_cons .code quote (encodeChars rest)
      rw [hmove] at hread
      exact ⟨[⟨.code, quote, [quote], .inString⟩], goes_of hread, amounts_one rfl (by decide) (by simp)⟩
    | char =>
      exact ⟨[⟨.code, apostrophe, [apostrophe], .inChar⟩], goes_of rfl, amounts_one rfl (by decide) (by simp)⟩
  | literalEnd k =>
    cases k with
    | string => exact ⟨[⟨.inString, quote, [quote], .code⟩], goes_of rfl, amounts_one rfl (by decide) (by simp)⟩
    | char => exact ⟨[⟨.inChar, apostrophe, [apostrophe], .code⟩], goes_of rfl, amounts_one rfl (by decide) (by simp)⟩
  | cutOff k =>
    cases k with
    | string => exact ⟨[⟨.inString, newline, [newline], .code⟩], goes_of rfl, amounts_one rfl (by decide) (by simp)⟩
    | char => exact ⟨[⟨.inChar, newline, [newline], .code⟩], goes_of rfl, amounts_one rfl (by decide) (by simp)⟩
  | lineEnd => exact ⟨[⟨.lineComment, newline, [newline], .code⟩], goes_of rfl, amounts_one rfl (by decide) (by simp)⟩
  | blockEnd => exact ⟨[⟨.blockComment, star, [], .code⟩], goes_of rfl, amounts_one rfl (by decide) (by simp)⟩
  | loneBackslash _ h =>
    have hread := readFrom_cons mode backslash []
    rw [move_escape h] at hread
    have hinside : Origin.of mode mode = .inside := by rw [Origin.of, h]; rfl
    -- no byte is left for the second half of the escape, so the reader ends between the two
    refine ⟨[⟨mode, backslash, [backslash], mode⟩],
      ⟨congrArg Prod.fst hread, congrArg (fun r => r.2.mode) hread⟩, ?_, ?_⟩
    · simp only [List.flatMap_singleton, Turn.marked, hinside]
      rfl
    · simp [Turn.LooseQuote, show backslash ≠ quote by decide]
  | escape _ h c =>
    obtain ⟨b, bs, hform, hbs⟩ := utf8EncodeChar_cons c
    have hread := readFrom_cons mode backslash (encodeChars (c :: rest))
    rw [move_escape h, encodeChars_cons, hform, List.cons_append, readFrom] at hread
    have hpass := readFrom_pass (fun b' hb' => move_beyond h (hbs b' hb')) (encodeChars rest)
    rw [hpass] at hread
    refine ⟨_, goes_of ?_, (amounts_escape h hform hbs).congr (by simp)⟩
    rw [encodeChars_cons, encodeChars_cons, hform]
    exact hread
  | code c _ h hs =>
    refine ⟨_, goes_of (readFrom_char fun b hb tail htail => ?_), (amounts_kept .code c).congr (by simp)⟩
    refine move_code (ne_of_mem_utf8EncodeChar (by decide) h.1 hb) (ne_of_mem_utf8EncodeChar (by decide) h.2 hb) ?_
    rintro rfl
    have hc : c = '/' := (mem_utf8EncodeChar_iff (d := '/') (by decide)).1 hb
    rw [htail (by rw [hc]; decide)]
    exact ⟨fun h => (hs hc).1 (head?_encodeChars (by decide) h), fun h => (hs hc).2 (head?_encodeChars (by decide) h)⟩
  | inTextBlock c _ h hq =>
    refine ⟨_, goes_of (readFrom_char fun b hb tail htail => ?_), (amounts_kept .textBlock c).congr (by simp)⟩
    refine move_textBlock (ne_of_mem_utf8EncodeChar (by decide) h hb) ?_
    rintro rfl
    have hc : c = '"' := (mem_utf8EncodeChar_iff (d := '"') (by decide)).1 hb
    rw [htail (by rw [hc]; decide), ← Bool.not_eq_true]
    exact mt quotesFollow_encodeChars (hq hc)
  | inLiteral k c _ h =>
    have hinside : Origin.of k.mode k.mode = .inside := by cases k <;> rfl
    have hamounts := amounts_kept k.mode c
    rw [hinside] at hamounts
    refine ⟨_, goes_of (readFrom_char fun b hb tail _ => ?_), hamounts.congr (by cases k <;> simp [Literal.mode])⟩
    have hquote : b ≠ k.quote := quote_eq k ▸ ne_of_mem_utf8EncodeChar (mark_ascii k) h.1 hb
    exact move_literal hquote (ne_of_mem_utf8EncodeChar (by decide) h.2.1 hb)
      (ne_of_mem_utf8EncodeChar (by decide) h.2.2 hb) tail
  | inLineComment c _ h =>
    refine ⟨_, goes_of (readFrom_char fun b hb tail _ => ?_), (amounts_dropped rfl _).congr (by simp)⟩
    exact move_lineComment (ne_of_mem_utf8EncodeChar (by decide) h hb) tail
  | inBlockComment c _ h =>
    refine ⟨_, goes_of (readFrom_char fun b hb tail htail => ?_), (amounts_dropped rfl _).congr (by simp)⟩
    refine move_blockComment ?_
    rintro rfl
    have hc : c = '*' := (mem_utf8EncodeChar_iff (d := '*') (by decide)).1 hb
    rw [htail (by rw [hc]; decide)]
    exact fun hslash => h hc (head?_encodeChars (by decide) hslash)

/-- some rule fits in code -/
theorem exists_takes_code (c : Char) (cs : List Char) :
    ∃ kept next rest, Takes .code (c :: cs) kept next rest ∧ rest.length ≤ cs.length := by
  by_cases hquote : c = '"'
  · subst hquote
    by_cases hblock : ['"', '"'] <+: cs
    · obtain ⟨rest, rfl⟩ := hblock
      exact ⟨_, _, rest, .textBlockStart rest, by simp; omega⟩
    · exact ⟨_, _, cs, .literalStart .string cs fun _ => hblock, le_rfl⟩
  by_cases hapostrophe : c = '\''
  · subst hapostrophe
    exact ⟨_, _, cs, .literalStart .char cs nofun, le_rfl⟩
  by_cases hslash : c = '/'
  · subst hslash
    by_cases hline : cs.head? = some '/'
    · obtain ⟨rest, rfl⟩ := List.head?_eq_some_iff.1 hline
      exact ⟨_, _, rest, .lineStart rest, Nat.le_succ _⟩
    by_cases hblock : cs.head? = some '*'
    · obtain ⟨rest, rfl⟩ := List.head?_eq_some_iff.1 hblock
      exact ⟨_, _, rest, .blockStart rest, Nat.le_succ _⟩
    exact ⟨_, _, cs, .code '/' cs ⟨hquote, hapostrophe⟩ fun _ => ⟨hline, hblock⟩, le_rfl⟩
  · exact ⟨_, _, cs, .code c cs ⟨hquote, hapostrophe⟩ fun h => absurd h hslash, le_rfl⟩

/-- some rule fits within a literal -/
theorem exists_takes_literal {mode : Mode} (h : mode.isLiteral = true) (c : Char) (cs : List Char) :
    ∃ kept next rest, Takes mode (c :: cs) kept next rest ∧ rest.length ≤ cs.length := by
  by_cases hback : c = '\\'
  · subst hback
    cases cs with
    | nil => exact ⟨_, _, [], .loneBackslash mode h, le_rfl⟩
    | cons d rest => exact ⟨_, _, rest, .escape mode h d rest, Nat.le_succ _⟩
  obtain rfl | ⟨k, rfl⟩ := literal_cases h
  · by_cases hquote : c = '"' ∧ ['"', '"'] <+: cs
    · obtain ⟨rfl, rest, rfl⟩ := hquote
      exact ⟨_, _, rest, .textBlockEnd rest, by simp; omega⟩
    · exact ⟨_, _, cs, .inTextBlock c cs hback fun hc hblock => hquote ⟨hc, hblock⟩, le_rfl⟩
  · by_cases hmark : c = k.mark
    · subst hmark
      exact ⟨_, _, cs, .literalEnd k cs, le_rfl⟩
    by_cases hline : c = '\n'
    · subst hline
      exact ⟨_, _, cs, .cutOff k cs, le_rfl⟩
    · exact ⟨_, _, cs, .inLiteral k c cs ⟨hmark, hback, hline⟩, le_rfl⟩

/-- **Some rule fits wherever text is left**, and it takes some of it. -/
theorem exists_takes (mode : Mode) (c : Char) (cs : List Char) :
    ∃ kept next rest, Takes mode (c :: cs) kept next rest ∧ rest.length ≤ cs.length := by
  cases mode with
  | code => exact exists_takes_code c cs
  | inString => exact exists_takes_literal rfl c cs
  | inChar => exact exists_takes_literal rfl c cs
  | textBlock => exact exists_takes_literal rfl c cs
  | lineComment =>
    by_cases h : c = '\n'
    · subst h
      exact ⟨_, _, cs, .lineEnd cs, le_rfl⟩
    · exact ⟨_, _, cs, .inLineComment c cs h, le_rfl⟩
  | blockComment =>
    by_cases h : c = '*' ∧ cs.head? = some '/'
    · obtain ⟨rfl, hslash⟩ := h
      obtain ⟨rest, rfl⟩ := List.head?_eq_some_iff.1 hslash
      exact ⟨_, _, rest, .blockEnd rest, Nat.le_succ _⟩
    · exact ⟨_, _, cs, .inBlockComment c cs fun hc hslash => h ⟨hc, hslash⟩, le_rfl⟩

/-! ## Any number of turns -/

/-- the reader goes through the first part of the text, turn by turn -/
inductive Reads : Mode → List Char → List (Char × Origin) → Mode → List Char → Prop
  | refl (mode text) : Reads mode text [] mode text
  | step {mode text kept next rest kept' last tail} (first : Takes mode text kept next rest)
      (others : Reads next rest kept' last tail) : Reads mode text (kept ++ kept') last tail

theorem Reads.trans {mode next last : Mode} {text rest tail : List Char} {kept kept' : List (Char × Origin)}
    (h : Reads mode text kept next rest) (h' : Reads next rest kept' last tail) :
    Reads mode text (kept ++ kept') last tail := by
  induction h with
  | refl => exact h'
  | step first _ ih =>
    rw [List.append_assoc]
    exact .step first (ih h')

theorem Takes.reads {mode next : Mode} {text rest : List Char} {kept : List (Char × Origin)}
    (h : Takes mode text kept next rest) : Reads mode text kept next rest := by
  simpa using Reads.step h (.refl next rest)

/-- **Every text is read to its end.** -/
theorem exists_reads (mode : Mode) (text : List Char) : ∃ kept last, Reads mode text kept last [] := by
  -- on the length of the text, since a turn takes up to three characters
  induction hn : text.length using Nat.strong_induction_on generalizing mode text with
  | _ n ih =>
    cases text with
    | nil => exact ⟨[], mode, .refl mode []⟩
    | cons c cs =>
      obtain ⟨kept, next, rest, first, hshort⟩ := exists_takes mode c cs
      have hlt : rest.length < n := by rw [← hn, List.length_cons]; omega
      obtain ⟨kept', last, others⟩ := ih _ hlt next rest rfl
      exact ⟨kept ++ kept', last, .step first others⟩

/-- what is kept of a text that is read to its end, and the mode there -/
theorem Reads.turns_eq {mode last : Mode} {text : List Char} {kept : List (Char × Origin)}
    (h : Reads mode text kept last []) :
    (turns mode text).flatMap Turn.marked = encodeMarked kept ∧ lastMode mode text = last := by
  generalize hrest : ([] : List Char) = tail at h
  induction h with
  | refl =>
    subst hrest
    exact ⟨rfl, rfl⟩
  | step first _ ih =>
    obtain ⟨hturns, hlast⟩ := ih hrest
    obtain ⟨ts, ⟨hgoes, hmode⟩, hamounts⟩ := goes_of_takes first
    rw [hgoes, List.flatMap_append, hamounts.marked, hturns, encodeMarked_append, hmode]
    exact ⟨rfl, hlast⟩

/-- without the origins it is what the scan keeps -/
theorem map_fst_turns (text : List Char) :
    ((turns .code text).flatMap Turn.marked).map Prod.fst = stripBytes (encodeChars text) := by
  rw [stripBytes, scan_eq, ← turns]
  simp [List.map_flatMap, Turn.marked, Function.comp_def]

/-- **The text without comments is what the turns keep.** -/
theorem stripComments_of_reads {text : List Char} {kept : List (Char × Origin)} {last : Mode}
    (h : Reads .code text kept last []) : stripComments (String.ofList text) = String.ofList (kept.map Prod.fst) := by
  rw [stripComments, encode, String.toList_ofList, ← map_fst_turns, h.turns_eq.1, map_fst_encodeMarked,
    decodeLossy_encodeChars]

/-- every text is read to its end, and what is kept on the way is the text without comments -/
theorem exists_reads_text (text : String) :
    ∃ kept last, Reads .code text.toList kept last [] ∧ stripComments text = String.ofList (kept.map Prod.fst) := by
  obtain ⟨kept, last, hread⟩ := exists_reads .code text.toList
  refine ⟨kept, last, hread, ?_⟩
  rw [← stripComments_of_reads hread, String.ofList_toList]

end CodeSurvey.Source
