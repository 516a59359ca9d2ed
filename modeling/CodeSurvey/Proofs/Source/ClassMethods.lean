/-
The methods found in a class are the ones written there.

`methods_classText`: for every class text, the scan finds the methods of its members in order, with their names,
headers, parameters and bodies. The induction is over the members. It is carried by where the scan stands: behind a
member, a brace or a semicolon is the last byte passed, so that the next header reaches back to it and no further
(`AtStop`), and nothing of a member is left to skip.
-/
import CodeSurvey.Proofs.Source.Scan

namespace CodeSurvey.Source

open Text

/-! ## Places and texts -/

/-- the text between two lists of lexemes is the one with their places -/
theorem spanText_between (before ms after : List Lexeme) {ls : List Lexeme} (hls : ls = before ++ ms ++ after)
    {s : Span} (hstart : s.start = (shownOf before).length) (hstop : s.stop = s.start + (shownOf ms).length) :
    spanText (bytesOf ls) s = textOf ms := by
  have hlength : s.stop - s.start = (bytesOf ms).length := by rw [hstop, Nat.add_sub_cancel_left, length_shownOf]
  unfold spanText Span.of
  rw [hls, hlength, hstart, length_shownOf, bytesOf_append, bytesOf_append, List.append_assoc, List.drop_left,
    List.take_left, decodeLossy_bytesOf]

theorem shownOf_spaces (n : Nat) : shownOf (spaces n) = List.replicate n space := by
  induction n with
  | zero => rfl
  | succ n ih =>
    rw [spaces, List.replicate_succ, shownOf_cons, ← spaces, ih]
    rfl

theorem trim_spaces (n : Nat) (cs : List Char) : trim (List.replicate n ' ' ++ cs ++ [' ']) = trim cs := by
  have hfront : trimStart (List.replicate n ' ' ++ cs ++ [' ']) = trimStart (cs ++ [' ']) := by
    rw [trimStart, List.append_assoc, List.dropWhile_append_of_pos, trimStart]
    intro c hc
    rw [List.eq_of_mem_replicate hc]
    rfl
  have hback : ∀ ds, trimEnd (ds ++ [' ']) = trimEnd ds := by
    intro ds
    rw [trimEnd, List.reverse_append, List.reverse_singleton, List.singleton_append,
      List.dropWhile_cons_of_pos (by rfl), trimEnd]
  unfold trim
  rw [hfront]
  -- of blanks alone nothing is left at the front, and the last space goes with them
  by_cases hcs : (cs.dropWhile isBlank).isEmpty
  · rw [List.isEmpty_iff] at hcs
    rw [trimStart, List.dropWhile_append, hcs, trimStart, hcs]
    rfl
  · rw [trimStart, List.dropWhile_append, if_neg hcs, hback, trimStart]

theorem trimmed_header (n : Nat) (ls : List Lexeme) :
    trimmed (textOf (spaces n ++ ls ++ [.blank])) = trimmed (textOf ls) := by
  have hspaces : (spaces n).flatMap Lexeme.chars = List.replicate n ' ' := by
    induction n with
    | zero => rfl
    | succ n ih =>
      rw [spaces, List.replicate_succ, List.flatMap_cons, ← spaces, ih]
      rfl
  rw [trimmed, textOf, String.toList_ofList, List.flatMap_append, List.flatMap_append, hspaces, trimmed, textOf,
    String.toList_ofList]
  exact congrArg String.ofList (trim_spaces n _)

/-! ## A method -/

/-- the last byte passed ends a member or opens a body -/
def AtStop (before : Bytes) : Prop := ∃ b ∈ before.head?, isStopByte b = true

theorem headerLength_atStop {before : Bytes} (h : AtStop before) : headerLength 0 before = 0 := by
  obtain ⟨b, hb, hstop⟩ := h
  cases before with
  | nil => exact nomatch hb
  | cons x before =>
    obtain rfl : x = b := Option.some.inj hb
    simp only [isStopByte, Bool.or_eq_true, beq_iff_eq] at hstop
    rcases hstop with (rfl | rfl) | rfl <;> rfl

theorem not_ident_of_atStop {before : Bytes} (h : AtStop before) : ∀ b ∈ before.head?, isIdentByte b = false := by
  obtain ⟨b, hb, hstop⟩ := h
  intro x hx
  obtain rfl : b = x := Option.some.inj (hb.symm.trans hx)
  simp only [isStopByte, Bool.or_eq_true, beq_iff_eq] at hstop
  rcases hstop with (rfl | rfl) | rfl <;> rfl

/-- the declaration of a method whose spaces start at the place -/
def MethodText.place (m : MethodText) (header n : Nat) : Declaration :=
  let start := header + n + (shownOf (partsOf m.header)).length + 1
  let paren := start + (shownOf m.name).length
  let close := paren + ((shownOf m.params).length + 1)
  placed header start paren close (close + 1 + (shownOf m.clause).length)
    (m.body.map fun inner => (shownOf (blockOf inner)).length)

theorem shownOf_method (m : MethodText) : shownOf m.lexemes =
    shownOf (partsOf m.header) ++ (space :: shownOf m.name ++ parenOpen ::
      (shownOf m.params ++ parenClose :: (shownOf m.clause ++ shownOf m.lastPart))) := by
  simp only [MethodText.lexemes, shownOf_append, shownOf_cons, List.append_assoc, List.cons_append]
  rfl

theorem headerLength_method (m : MethodText) (n : Nat) {before : Bytes} (hstop : AtStop before) :
    headerLength 0 (space :: ((shownOf (partsOf m.header)).reverse ++ (List.replicate n space ++ before))) =
      n + (shownOf (partsOf m.header)).length + 1 := by
  have hspaces : ∀ b ∈ List.replicate n space, isParenByte b = false ∧ isStopByte b = false := by
    intro b hb
    rw [List.eq_of_mem_replicate hb]
    decide
  have hblank : ∀ bs, headerLength 0 (space :: bs) = headerLength 0 bs + 1 := fun bs => rfl
  rw [hblank, headerLength_parts, headerLength_pass hspaces, headerLength_atStop hstop, List.length_replicate,
    Nat.zero_add]

/-- The declaration at the parameters of a method is the method. -/
theorem declarationAt_method (m : MethodText) (n : Nat) {before : Bytes} (hstop : AtStop before) (rest : Bytes) :
    declarationAt ((shownOf m.name).reverse ++ space :: ((shownOf (partsOf m.header)).reverse ++
        (List.replicate n space ++ before)))
      (shownOf m.params ++ parenClose :: (shownOf m.clause ++ (shownOf m.lastPart ++ rest))) =
      some (m.place before.length n) := by
  have hstarts : ∃ b, (shownOf m.name).head? = some b ∧ isAsciiDigitByte b = false := by
    obtain ⟨l, hl, hdigit⟩ := m.name_starts
    obtain ⟨ls, hls⟩ := List.head?_eq_some_iff.1 hl
    cases hshown : l.shown with
    | nil => exact absurd hshown (shown_ne_nil l)
    | cons b bs =>
      refine ⟨b, by rw [hls, shownOf_cons, hshown]; rfl, ?_⟩
      rw [shows_digit.mem_shown (hshown ▸ List.mem_cons_self), hdigit]
  have hdeclares : shownOf m.name ∉ notMethodNames.map encode := by
    rw [shownOf_eq_bytesOf m.name_ident, ← encode_textOf]
    intro hmem
    obtain ⟨s, hs, heq⟩ := List.mem_map.1 hmem
    exact m.name_declares (encode_injective heq ▸ hs)
  have houtside : ∀ b ∈ (List.replicate n space ++ before).head?, isIdentByte b = false := by
    cases n with
    | zero => exact not_ident_of_atStop hstop
    | succ n =>
      rintro b hb
      rw [← Option.some.inj hb]
      rfl
  have hclosing : closing parenOpen parenClose 0 (parenOpen :: (shownOf m.params ++
      parenClose :: (shownOf m.clause ++ (shownOf m.lastPart ++ rest)))) = some ((shownOf m.params).length + 1) :=
    closing_block parens m.params_balanced _
  have hending : ending ((shownOf m.params ++ parenClose :: (shownOf m.clause ++ (shownOf m.lastPart ++ rest))).drop
      ((shownOf m.params).length + 1)) =
        some ((shownOf m.clause).length, m.body.map fun inner => (shownOf (blockOf inner)).length) := by
    rw [← List.drop_drop, List.drop_left, List.drop_one, List.tail_cons, ending_lastPart]
  have hstart : before.length + n + (shownOf (partsOf m.header)).length + 1 =
      ((shownOf (partsOf m.header)).reverse ++ (List.replicate n space ++ before)).length + 1 := by
    simp only [List.length_append, List.length_reverse, List.length_replicate]
    omega
  have hheader : before.length + n + (shownOf (partsOf m.header)).length + 1 -
      (n + (shownOf (partsOf m.header)).length + 1) = before.length := by omega
  rw [declarationAt_eq (agrees_ident.all_shownOf m.name_ident) hstarts hdeclares
    (followsType_header m.typed m.not_creation houtside) hclosing hending hstart rfl, headerLength_method m n hstop,
    hheader]
  rfl

theorem last_place (m : MethodText) (header n : Nat) :
    (m.place header n).last = header + n + (shownOf (partsOf m.header)).length + 1 + (shownOf m.name).length +
      (shownOf m.params).length + 1 + (shownOf m.clause).length + (shownOf m.lastPart).length := by
  unfold MethodText.place placed MethodText.lastPart
  cases m.body with
  | none =>
    show _ = _ + 1
    dsimp only [Option.map_none]
    omega
  | some inner =>
    have hblock : (shownOf (blockOf inner)).length = (shownOf inner).length + 2 := by
      simp only [blockOf, shownOf_append, shownOf_cons, shownOf_nil, List.length_append, List.length_nil]
      show 1 + _ + (1 + 0) = _
      omega
    dsimp only [Option.map_some]
    omega

/-- The scan takes a method behind spaces and goes on behind it. -/
theorem declarationsFrom_method (m : MethodText) (n : Nat) {before : Bytes} (hstop : AtStop before) (rest : Bytes) :
    declarationsFrom before 0 (shownOf (spaces n ++ m.lexemes) ++ rest) =
      m.place before.length n ::
        declarationsFrom ((shownOf (spaces n ++ m.lexemes)).reverse ++ before) 0 rest := by
  have hspaces : ∀ b ∈ List.replicate n space, b ≠ parenOpen := by
    intro b hb
    rw [List.eq_of_mem_replicate hb]
    decide
  have hname : ∀ b ∈ space :: shownOf m.name, b ≠ parenOpen := by
    intro b hb
    rcases List.mem_cons.1 hb with rfl | hb
    · decide
    · rintro rfl
      exact absurd (agrees_ident.all_shownOf m.name_ident _ hb) (by decide)
  let inside := shownOf m.params ++ parenClose :: (shownOf m.clause ++ shownOf m.lastPart)
  have hinside : shownOf m.params ++ parenClose :: (shownOf m.clause ++ (shownOf m.lastPart ++ rest)) =
      inside ++ rest := by
    simp only [inside, List.append_assoc, List.cons_append]
  have hlast : (m.place before.length n).last - ((shownOf m.name).reverse ++ space ::
      ((shownOf (partsOf m.header)).reverse ++ (List.replicate n space ++ before))).length = inside.length := by
    rw [last_place]
    simp only [inside, List.length_append, List.length_reverse, List.length_cons, List.length_replicate]
    omega
  have hat := declarationAt_method m n hstop rest
  rw [hinside] at hat
  rw [shownOf_append, shownOf_spaces, shownOf_method]
  rw [List.append_assoc, declarationsFrom_pass hspaces, List.reverse_replicate, List.append_assoc,
    declarationsFrom_parts, List.append_assoc, declarationsFrom_pass hname, List.reverse_cons, List.append_assoc,
    List.singleton_append, List.cons_append, declarationsFrom_some hat, hlast, declarationsFrom_skip]
  simp only [inside, List.reverse_append, List.reverse_cons, List.reverse_replicate, List.append_assoc,
    List.cons_append, List.nil_append]

theorem length_shownOf_spaces (n : Nat) : (shownOf (spaces n)).length = n := by
  rw [shownOf_spaces, List.length_replicate]

theorem length_shownOf_code {c : Char} {h : c ≠ '"' ∧ c ≠ '\''} (hc : c.toNat < 128) :
    (shownOf [.code c h]).length = 1 := by
  rw [shownOf_cons, shownOf_nil, List.append_nil, Lexeme.shown, utf8EncodeChar_ascii hc, List.length_singleton]

/-! ## The parts of a method in its places -/

section

variable (m : MethodText) (n : Nat) (before after : List Lexeme)

/-- what stands before the name -/
def leadOf : List Lexeme := spaces n ++ partsOf m.header ++ [.blank]

theorem length_leadOf : (shownOf (leadOf m n)).length = n + (shownOf (partsOf m.header)).length + 1 := by
  have hblank : (shownOf [.blank]).length = 1 := length_shownOf_code (by decide)
  rw [leadOf, shownOf_append, shownOf_append, List.length_append, List.length_append, length_shownOf_spaces, hblank]

/-- the text up to the parameters -/
def upToParams : List Lexeme := before ++ leadOf m n ++ m.name ++ [.parenOpen]

theorem length_upToParams : (shownOf (upToParams m n before)).length =
    (shownOf before).length + n + (shownOf (partsOf m.header)).length + 1 + (shownOf m.name).length + 1 := by
  have hopen : (shownOf [.parenOpen]).length = 1 := length_shownOf_code (by decide)
  simp only [upToParams, shownOf_append, List.length_append, length_leadOf, hopen]
  omega

/-- the text around a method, in the order of its places -/
theorem within_eq : before ++ (spaces n ++ m.lexemes) ++ after =
    upToParams m n before ++ m.params ++ [.parenClose] ++ m.clause ++ m.lastPart ++ after := by
  simp only [upToParams, leadOf, MethodText.lexemes, List.append_assoc, List.cons_append, List.nil_append]

theorem header_place : spanText (bytesOf (before ++ (spaces n ++ m.lexemes) ++ after))
    (m.place (shownOf before).length n).header = textOf (leadOf m n) := by
  refine spanText_between before (leadOf m n)
    (m.name ++ [.parenOpen] ++ m.params ++ [.parenClose] ++ m.clause ++ m.lastPart ++ after) ?_ rfl ?_
  · rw [within_eq]
    simp only [upToParams, List.append_assoc]
  · rw [length_leadOf]
    simp only [MethodText.place, placed]
    omega

theorem name_place : spanText (bytesOf (before ++ (spaces n ++ m.lexemes) ++ after))
    (m.place (shownOf before).length n).name = textOf m.name := by
  refine spanText_between (before ++ leadOf m n) m.name
    ([.parenOpen] ++ m.params ++ [.parenClose] ++ m.clause ++ m.lastPart ++ after) ?_ ?_ rfl
  · rw [within_eq]
    simp only [upToParams, List.append_assoc]
  · rw [shownOf_append, List.length_append, length_leadOf]
    simp only [MethodText.place, placed]
    omega

theorem params_place : spanText (bytesOf (before ++ (spaces n ++ m.lexemes) ++ after))
    (m.place (shownOf before).length n).params = textOf m.params := by
  refine spanText_between (upToParams m n before) m.params ([.parenClose] ++ m.clause ++ m.lastPart ++ after) ?_ ?_ ?_
  · rw [within_eq]
    simp only [List.append_assoc]
  · rw [length_upToParams]
    rfl
  · simp only [MethodText.place, placed]
    omega

theorem body_place : (m.place (shownOf before).length n).body.map
    (spanText (bytesOf (before ++ (spaces n ++ m.lexemes) ++ after))) =
      m.body.map fun inner => textOf (blockOf inner) := by
  have hclose : (shownOf [.parenClose]).length = 1 := length_shownOf_code (by decide)
  cases hm : m.body with
  | none => simp only [MethodText.place, placed, hm, Option.map_none]
  | some inner =>
    have hlast : m.lastPart = blockOf inner := by rw [MethodText.lastPart, hm]
    simp only [MethodText.place, placed, hm, Option.map_some, Option.some.injEq]
    refine spanText_between (upToParams m n before ++ m.params ++ [.parenClose] ++ m.clause) (blockOf inner) after ?_ ?_
      rfl
    · rw [within_eq, hlast]
    · simp only [shownOf_append, List.length_append, length_upToParams, hclose]
      omega

/-- The places of a method hold its parts. -/
theorem method_place :
    (m.place (shownOf before).length n).method (bytesOf (before ++ (spaces n ++ m.lexemes) ++ after)) = m.method := by
  unfold Declaration.method
  rw [header_place, name_place, params_place, body_place, leadOf, trimmed_header]
  rfl

end

/-! ## Members -/

/-- The scan finds nothing in a field. -/
theorem declarationsFrom_field (f : FieldText) (n : Nat) (before rest : Bytes) :
    declarationsFrom before 0 (shownOf (spaces n ++ f.lexemes) ++ rest) =
      declarationsFrom ((shownOf (spaces n ++ f.lexemes)).reverse ++ before) 0 rest := by
  have hspaces : ∀ b ∈ shownOf (spaces n), b ≠ parenOpen := by
    intro b hb
    rw [shownOf_spaces] at hb
    rw [List.eq_of_mem_replicate hb]
    decide
  have hrest : ∀ b ∈ shownOf (f.rest ++ [.semicolon]), b ≠ parenOpen := by
    intro b hb
    rw [shownOf_append, List.mem_append] at hb
    rcases hb with hb | hb
    · exact ne_parenOpen (shows_paren.none_shownOf f.flat b hb)
    · rw [List.mem_singleton.1 hb]
      decide
  rw [FieldText.lexemes, List.append_assoc, shownOf_append, shownOf_append, List.append_assoc,
    declarationsFrom_pass hspaces, List.append_assoc, declarationsFrom_parts, declarationsFrom_pass hrest]
  simp only [List.reverse_append, List.append_assoc]

theorem ends_member (m : Member) : ∃ ls, m.lexemes = ls ++ [.semicolon] ∨ m.lexemes = ls ++ [.braceClose] := by
  cases m with
  | field f => exact ⟨partsOf f.header ++ f.rest, .inl rfl⟩
  | method m =>
    cases hm : m.body with
    | none =>
      have hlast : m.lastPart = [.semicolon] := by rw [MethodText.lastPart, hm]
      exact ⟨_, .inl (by rw [Member.lexemes, MethodText.lexemes, hlast])⟩
    | some inner =>
      have hlast : m.lastPart = (.braceOpen :: inner) ++ [.braceClose] := by
        simp only [MethodText.lastPart, hm, blockOf]
      exact ⟨_, .inr (by rw [Member.lexemes, MethodText.lexemes, hlast, ← List.append_assoc])⟩

/-- behind a member the scan stands at a stop -/
theorem atStop_member (m : Member) (n : Nat) (before : Bytes) :
    AtStop ((shownOf (spaces n ++ m.lexemes)).reverse ++ before) := by
  obtain ⟨ls, hls | hls⟩ := ends_member m
  · rw [hls, ← List.append_assoc, shownOf_append, List.reverse_append]
    exact ⟨semicolon, rfl, rfl⟩
  · rw [hls, ← List.append_assoc, shownOf_append, List.reverse_append]
    exact ⟨braceClose, rfl, rfl⟩

/-- Members are found in order, whatever stands before them; what stands behind them has no parenthesis. -/
theorem declarationsFrom_members (ms : List (Nat × Member)) {before : List Lexeme}
    (hstop : AtStop (shownOf before).reverse) {after : List Lexeme} (hafter : ∀ l ∈ after, l.Is isParen = false) :
    (declarationsFrom (shownOf before).reverse 0 (shownOf (membersOf ms ++ after))).map
        (Declaration.method (bytesOf (before ++ membersOf ms ++ after))) = ms.filterMap (·.2.method?) := by
  induction ms generalizing before with
  | nil =>
    have hpass := declarationsFrom_pass (fun b hb => ne_parenOpen (shows_paren.none_shownOf hafter b hb))
      (shownOf before).reverse []
    rw [List.append_nil] at hpass
    rw [membersOf, List.flatMap_nil, List.nil_append, hpass]
    rfl
  | cons nm ms ih =>
    obtain ⟨n, m⟩ := nm
    have hmembers : membersOf ((n, m) :: ms) = spaces n ++ m.lexemes ++ membersOf ms := List.flatMap_cons
    -- the member joins the text before, and the scan stands at a stop again
    have hnext : AtStop (shownOf (before ++ (spaces n ++ m.lexemes))).reverse := by
      rw [shownOf_append, List.reverse_append]
      exact atStop_member m n _
    have hrest := ih hnext
    rw [shownOf_append before, List.reverse_append] at hrest
    have htext : before ++ membersOf ((n, m) :: ms) ++ after =
        before ++ (spaces n ++ m.lexemes) ++ membersOf ms ++ after := by
      rw [hmembers, ← List.append_assoc before]
    have hshown : shownOf (membersOf ((n, m) :: ms) ++ after) =
        shownOf (spaces n ++ m.lexemes) ++ shownOf (membersOf ms ++ after) := by
      rw [hmembers, List.append_assoc, shownOf_append]
    rw [htext, hshown]
    cases m with
    | field f =>
      have hfield := declarationsFrom_field f n (shownOf before).reverse (shownOf (membersOf ms ++ after))
      exact (congrArg (List.map _) hfield).trans hrest
    | method m =>
      have hmethod := declarationsFrom_method m n hstop (shownOf (membersOf ms ++ after))
      have hplace := method_place m n before (membersOf ms ++ after)
      rw [List.length_reverse] at hmethod
      rw [← List.append_assoc] at hplace
      refine (congrArg (List.map _) hmethod).trans ?_
      exact congrArg₂ List.cons hplace hrest

/-- **The methods found in a class are its methods**, in order, with their names, headers, parameters and bodies. -/
theorem methods_classText (t : ClassText) : methods (textOf t.lexemes) = t.members.filterMap (·.2.method?) := by
  let before := partsOf t.heading ++ [.braceOpen]
  let after := spaces t.gap ++ [.braceClose]
  have hls : t.lexemes = before ++ membersOf t.members ++ after := by
    simp only [ClassText.lexemes, before, after, List.append_assoc, List.cons_append, List.nil_append]
  have hstop : AtStop (shownOf before).reverse := by
    rw [shownOf_append, List.reverse_append]
    exact ⟨braceOpen, rfl, rfl⟩
  have hafter : ∀ l ∈ after, l.Is isParen = false := by
    intro l hl
    rcases List.mem_append.1 hl with hl | hl
    · rw [List.eq_of_mem_replicate hl]
      rfl
    · rw [List.mem_singleton.1 hl]
      rfl
  have hbrace : ∀ b ∈ shownOf [.braceOpen], b ≠ parenOpen := by
    intro b hb
    rw [List.mem_singleton.1 hb]
    decide
  have hstart : declarationsFrom [] 0 (shownOf t.lexemes) =
      declarationsFrom (shownOf before).reverse 0 (shownOf (membersOf t.members ++ after)) := by
    rw [hls, List.append_assoc, shownOf_append, shownOf_append, List.append_assoc, declarationsFrom_parts,
      declarationsFrom_pass hbrace, shownOf_append, List.reverse_append, List.append_nil]
  unfold methods declarations
  simp only [encode_textOf, mask_bytesOf, hstart]
  rw [hls]
  exact declarationsFrom_members t.members hstop hafter

end CodeSurvey.Source
