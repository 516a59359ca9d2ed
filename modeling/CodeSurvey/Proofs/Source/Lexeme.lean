/-
Source text as code characters and closed literals.

A `Lexeme` is a character of code or a whole literal: a quote, characters and escapes, and the quote again. A list of
lexemes is a text whose literals are all closed. `mask_bytesOf` says what the masked copy of such a text is: each
lexeme as it is shown, in as many bytes as it has in the text.

`Shows` ties a class of characters to a class of bytes: in the masked copy the bytes of a code character are all in or
all out, and those of a literal are out. A delimiter is such a class (`shows_delimiter`), and so is every class that
holds all or nothing beyond ASCII (`agrees_of`).
-/
import Mathlib.Data.List.DropRight
import CodeSurvey.Proofs.Text.Utf8
import CodeSurvey.Source.Methods

namespace CodeSurvey.Source

open Text

/-! ## Lexemes -/

/-- the character that opens and closes the literal -/
def Literal.mark : Literal → Char
  | .string => '"'
  | .char => '\''

/-- something between the quotes of a literal -/
inductive Inner (k : Literal) where
  | plain (c : Char) (h : c ≠ k.mark ∧ c ≠ '\\')
  /-- a backslash and the character behind it -/
  | escape (c : Char)

def Inner.chars {k : Literal} : Inner k → List Char
  | plain c _ => [c]
  | escape c => ['\\', c]

/-- a character of code or a closed literal -/
inductive Lexeme where
  | code (c : Char) (h : c ≠ '"' ∧ c ≠ '\'')
  | literal (k : Literal) (content : List (Inner k))

namespace Lexeme

def chars : Lexeme → List Char
  | code c _ => [c]
  | literal k content => k.mark :: content.flatMap Inner.chars ++ [k.mark]

/-- the bytes of the lexeme in the masked copy -/
def shown : Lexeme → Bytes
  | code c _ => String.utf8EncodeChar c
  | literal k content =>
    k.quote :: List.replicate (encodeChars (content.flatMap Inner.chars)).length space ++ [k.quote]

/-- the lexeme is a code character of the class -/
def Is (l : Lexeme) (p : Char → Bool) : Bool :=
  match l with
  | code c _ => p c
  | literal _ _ => false

end Lexeme

/-- the text that lexemes write -/
def textOf (ls : List Lexeme) : String := String.ofList (ls.flatMap Lexeme.chars)

def bytesOf (ls : List Lexeme) : Bytes := encodeChars (ls.flatMap Lexeme.chars)

def shownOf (ls : List Lexeme) : Bytes := ls.flatMap Lexeme.shown

theorem encode_textOf (ls : List Lexeme) : encode (textOf ls) = bytesOf ls := by
  rw [encode, textOf, String.toList_ofList, bytesOf]

theorem decodeLossy_bytesOf (ls : List Lexeme) : decodeLossy (bytesOf ls) = textOf ls :=
  decodeLossy_encodeChars _

@[simp]
theorem bytesOf_append (ls ms : List Lexeme) : bytesOf (ls ++ ms) = bytesOf ls ++ bytesOf ms := by
  rw [bytesOf, List.flatMap_append, encodeChars_append, bytesOf, bytesOf]

theorem bytesOf_cons (l : Lexeme) (ls : List Lexeme) : bytesOf (l :: ls) = encodeChars l.chars ++ bytesOf ls := by
  rw [bytesOf, List.flatMap_cons, encodeChars_append, bytesOf]

@[simp]
theorem shownOf_append (ls ms : List Lexeme) : shownOf (ls ++ ms) = shownOf ls ++ shownOf ms :=
  List.flatMap_append

@[simp]
theorem shownOf_cons (l : Lexeme) (ls : List Lexeme) : shownOf (l :: ls) = l.shown ++ shownOf ls :=
  List.flatMap_cons

@[simp]
theorem shownOf_nil : shownOf [] = [] := rfl

theorem mem_shownOf {b : UInt8} {ls : List Lexeme} : b ∈ shownOf ls ↔ ∃ l ∈ ls, b ∈ l.shown :=
  List.mem_flatMap

/-! ## The masked copy -/

theorem encodeChars_singleton (c : Char) : encodeChars [c] = String.utf8EncodeChar c := by
  rw [encodeChars_cons, encodeChars, List.flatMap_nil, List.append_nil]

theorem length_shown (l : Lexeme) : l.shown.length = (encodeChars l.chars).length := by
  cases l with
  | code c h => rw [Lexeme.shown, Lexeme.chars, encodeChars_singleton]
  | literal k content =>
    have hquote : (encodeChars [k.mark]).length = 1 := by cases k <;> rfl
    rw [encodeChars_singleton] at hquote
    rw [Lexeme.shown, Lexeme.chars, encodeChars_append, encodeChars_cons, encodeChars_singleton]
    simp only [List.length_append, List.length_cons, List.length_nil, List.length_replicate, hquote]
    omega

theorem length_shownOf (ls : List Lexeme) : (shownOf ls).length = (bytesOf ls).length := by
  induction ls with
  | nil => rfl
  | cons l ls ih => rw [shownOf_cons, bytesOf_cons, List.length_append, List.length_append, length_shown, ih]

/-- an ASCII character has its own byte, and no other character has it -/
theorem mem_utf8EncodeChar_iff {c d : Char} (hd : d.toNat < 128) :
    UInt8.ofNat d.toNat ∈ String.utf8EncodeChar c ↔ c = d := by
  constructor
  · intro h
    by_cases hc : c.toNat < 128
    · rw [utf8EncodeChar_ascii hc, List.mem_singleton, ← UInt8.toNat_inj, toNat_byte (by omega),
        toNat_byte (by omega)] at h
      rw [← Char.ofNat_toNat c, ← h, Char.ofNat_toNat]
    · have := beyond_of_mem_utf8EncodeChar (Nat.not_lt.1 hc) h
      rw [toNat_byte (by omega)] at this
      omega
  · rintro rfl
    rw [utf8EncodeChar_ascii hd]
    exact List.mem_singleton_self _

theorem quote_eq (k : Literal) : k.quote = UInt8.ofNat k.mark.toNat := by
  cases k <;> rfl

theorem mark_ascii (k : Literal) : k.mark.toNat < 128 := by
  cases k <;> decide

theorem quote_mem_utf8EncodeChar {k : Literal} {c : Char} : k.quote ∈ String.utf8EncodeChar c ↔ c = k.mark := by
  rw [quote_eq, mem_utf8EncodeChar_iff (mark_ascii k)]

theorem backslash_mem_utf8EncodeChar {c : Char} : backslash ∈ String.utf8EncodeChar c ↔ c = '\\' :=
  mem_utf8EncodeChar_iff (d := '\\') (by decide)

/-- code without quotes is shown as it is -/
theorem maskFrom_code {bs : Bytes} (h : ∀ k : Literal, k.quote ∉ bs) (rest : Bytes) :
    maskFrom .code (bs ++ rest) = bs ++ maskFrom .code rest := by
  induction bs with
  | nil => rfl
  | cons b bs ih =>
    have hquote : b ≠ quote := fun hb => h .string (List.mem_cons.2 (.inl hb.symm))
    have hmark : b ≠ apostrophe := fun hb => h .char (List.mem_cons.2 (.inl hb.symm))
    rw [List.cons_append, maskFrom, MaskMode.shown, MaskMode.next, if_neg hquote, if_neg hmark,
      ih fun k hk => h k (List.mem_cons_of_mem b hk), List.cons_append]

/-- inside a literal everything but its quote and the backslash is blank -/
theorem maskFrom_inside {k : Literal} {bs : Bytes} (hquote : k.quote ∉ bs) (hback : backslash ∉ bs) (rest : Bytes) :
    maskFrom (.inside k) (bs ++ rest) = List.replicate bs.length space ++ maskFrom (.inside k) rest := by
  induction bs with
  | nil => rfl
  | cons b bs ih =>
    simp only [List.mem_cons, not_or] at hquote hback
    rw [List.cons_append, maskFrom, MaskMode.shown, MaskMode.next, if_neg (Ne.symm hquote.1), if_neg (Ne.symm hback.1),
      if_neg (Ne.symm hquote.1), ih hquote.2 hback.2, List.length_cons, List.replicate_succ, List.cons_append]

theorem maskFrom_inner {k : Literal} (x : Inner k) (rest : Bytes) :
    maskFrom (.inside k) (encodeChars x.chars ++ rest) =
      List.replicate (encodeChars x.chars).length space ++ maskFrom (.inside k) rest := by
  cases x with
  | plain c h =>
    rw [Inner.chars, encodeChars_singleton]
    exact maskFrom_inside (mt quote_mem_utf8EncodeChar.1 h.1) (mt backslash_mem_utf8EncodeChar.1 h.2) rest
  | escape c =>
    -- the backslash hides the first byte of the character, and no byte behind that one is a quote
    have hback : backslash ≠ k.quote := by cases k <;> decide
    have hslash : encodeChars ['\\', c] = backslash :: String.utf8EncodeChar c := by
      rw [encodeChars_cons, encodeChars_singleton]
      rfl
    obtain ⟨b, bs, hc, hbs⟩ := utf8EncodeChar_cons c
    have hclosed : k.quote ∉ bs := fun h => by
      have := hbs _ h
      rw [quote_eq, toNat_byte (by have := mark_ascii k; omega)] at this
      exact absurd (mark_ascii k) (Nat.not_lt.2 this)
    have hplain : backslash ∉ bs := fun h => absurd (hbs _ h) (by decide)
    rw [Inner.chars, hslash, hc, List.cons_append, List.cons_append, maskFrom, MaskMode.shown, MaskMode.next,
      if_neg hback, if_pos rfl, maskFrom, MaskMode.shown, MaskMode.next, maskFrom_inside hclosed hplain]
    rfl

theorem maskFrom_content {k : Literal} (content : List (Inner k)) (rest : Bytes) :
    maskFrom (.inside k) (encodeChars (content.flatMap Inner.chars) ++ rest) =
      List.replicate (encodeChars (content.flatMap Inner.chars)).length space ++ maskFrom (.inside k) rest := by
  induction content with
  | nil => rfl
  | cons x content ih =>
    rw [List.flatMap_cons, encodeChars_append, List.append_assoc, maskFrom_inner, ih, List.length_append,
      ← List.replicate_append_replicate, List.append_assoc]

/-- The masked copy of a lexeme does not depend on what follows. -/
theorem maskFrom_lexeme (l : Lexeme) (rest : Bytes) :
    maskFrom .code (encodeChars l.chars ++ rest) = l.shown ++ maskFrom .code rest := by
  cases l with
  | code c h =>
    have hclosed : ∀ k : Literal, k.quote ∉ String.utf8EncodeChar c := by
      intro k hk
      cases k with
      | string => exact h.1 (quote_mem_utf8EncodeChar.1 hk)
      | char => exact h.2 (quote_mem_utf8EncodeChar.1 hk)
    rw [Lexeme.chars, encodeChars_singleton, maskFrom_code hclosed, Lexeme.shown]
  | literal k content =>
    have hmark : encodeChars [k.mark] = [k.quote] := by cases k <;> rfl
    have hopen : ∀ bs, maskFrom .code (k.quote :: bs) = k.quote :: maskFrom (.inside k) bs := by
      cases k <;> exact fun bs => rfl
    have hclose : ∀ bs, maskFrom (.inside k) (k.quote :: bs) = k.quote :: maskFrom .code bs := by
      cases k <;> exact fun bs => rfl
    rw [Lexeme.chars, List.cons_append, ← List.singleton_append, encodeChars_append, encodeChars_append, hmark,
      List.singleton_append, List.cons_append, hopen, List.append_assoc, maskFrom_content, List.singleton_append,
      hclose, Lexeme.shown]
    simp only [List.cons_append, List.append_assoc, List.nil_append]

/-- **The masked copy of closed text shows each lexeme in its place.** -/
theorem mask_bytesOf (ls : List Lexeme) : mask (bytesOf ls) = shownOf ls := by
  unfold mask
  induction ls with
  | nil => rfl
  | cons l ls ih => rw [bytesOf_cons, maskFrom_lexeme, ih, shownOf_cons]

/-! ## Classes of characters -/

/-- every byte of a character is in the class of bytes when the character is in the class of characters -/
def Agrees (p : UInt8 → Bool) (q : Char → Bool) : Prop := ∀ c, ∀ b ∈ String.utf8EncodeChar c, p b = q c

/-- the class of bytes shows the class of characters in the masked copy, where literals are in neither -/
structure Shows (p : UInt8 → Bool) (q : Char → Bool) : Prop where
  agrees : Agrees p q
  space : p space = false
  quote : ∀ k : Literal, p k.quote = false

/-- a class that holds all or nothing beyond ASCII is decided by its ASCII characters -/
theorem agrees_of {p : UInt8 → Bool} {q : Char → Bool} (beyond : Bool)
    (hlow : ∀ n < 128, p (UInt8.ofNat n) = q (Char.ofNat n)) (hbytes : ∀ n < 256, 128 ≤ n → p (UInt8.ofNat n) = beyond)
    (hchars : ∀ c : Char, 128 ≤ c.toNat → q c = beyond) : Agrees p q := by
  intro c b hb
  by_cases hc : c.toNat < 128
  · rw [utf8EncodeChar_ascii hc, List.mem_singleton] at hb
    rw [hb, hlow _ hc, Char.ofNat_toNat]
  · have hc := Nat.not_lt.1 hc
    rw [← UInt8.ofNat_toNat (x := b), hbytes _ b.toNat_lt (beyond_of_mem_utf8EncodeChar hc hb), hchars c hc]

theorem Shows.mem_shown {p : UInt8 → Bool} {q : Char → Bool} (h : Shows p q) {l : Lexeme} {b : UInt8}
    (hb : b ∈ l.shown) : p b = l.Is q := by
  cases l with
  | code c hc => exact h.agrees c b hb
  | literal k content =>
    simp only [Lexeme.shown, List.cons_append, List.mem_cons, List.mem_append, List.mem_replicate,
      List.not_mem_nil, or_false] at hb
    rcases hb with rfl | ⟨-, rfl⟩ | rfl
    · exact h.quote k
    · exact h.space
    · exact h.quote k

theorem Agrees.mem_shown {p : UInt8 → Bool} {q : Char → Bool} (h : Agrees p q) {l : Lexeme} (hl : l.Is q = true)
    {b : UInt8} (hb : b ∈ l.shown) : p b = true := by
  cases l with
  | code c hc => exact (h c b hb).trans hl
  | literal k content => exact absurd hl Bool.false_ne_true

/-- lexemes of the class are shown in bytes of the class -/
theorem Agrees.all_shownOf {p : UInt8 → Bool} {q : Char → Bool} (h : Agrees p q) {ls : List Lexeme}
    (hls : ∀ l ∈ ls, l.Is q = true) : ∀ b ∈ shownOf ls, p b = true := by
  intro b hb
  obtain ⟨l, hl, hb⟩ := mem_shownOf.1 hb
  exact h.mem_shown (hls l hl) hb

theorem Shows.none_shownOf {p : UInt8 → Bool} {q : Char → Bool} (h : Shows p q) {ls : List Lexeme}
    (hls : ∀ l ∈ ls, l.Is q = false) : ∀ b ∈ shownOf ls, p b = false := by
  intro b hb
  obtain ⟨l, hl, hb⟩ := mem_shownOf.1 hb
  rw [h.mem_shown hb, hls l hl]

/-- code is shown as it is -/
theorem shownOf_eq_bytesOf {q : Char → Bool} {ls : List Lexeme} (h : ∀ l ∈ ls, l.Is q = true) :
    shownOf ls = bytesOf ls := by
  induction ls with
  | nil => rfl
  | cons l ls ih =>
    rw [shownOf_cons, bytesOf_cons, ih fun l' hl' => h l' (List.mem_cons_of_mem l hl')]
    cases l with
    | code c hc => rw [Lexeme.shown, Lexeme.chars, encodeChars_singleton]
    | literal k content => exact absurd (h _ List.mem_cons_self) Bool.false_ne_true

theorem shown_ne_nil (l : Lexeme) : l.shown ≠ [] := by
  cases l with
  | code c h =>
    obtain ⟨b, bs, hc, -⟩ := utf8EncodeChar_cons c
    simp [Lexeme.shown, hc]
  | literal k content => simp [Lexeme.shown]

/-- The last bytes of the class are those of the last lexemes of the class. -/
theorem Shows.takeWhile_reverse {p : UInt8 → Bool} {q : Char → Bool} (h : Shows p q) (ls : List Lexeme) :
    (shownOf ls).reverse.takeWhile p = (shownOf (ls.rtakeWhile (Lexeme.Is · q))).reverse := by
  induction ls using List.reverseRecOn with
  | nil => rfl
  | append_singleton ls l ih =>
    have hlast : shownOf (ls ++ [l]) = shownOf ls ++ l.shown := by simp
    rw [hlast, List.reverse_append, List.rtakeWhile_concat]
    cases hl : l.Is q with
    | true =>
      have hall : ∀ b ∈ l.shown.reverse, p b = true := fun b hb => by rw [h.mem_shown (List.mem_reverse.1 hb), hl]
      rw [List.takeWhile_append_of_pos hall, ih, if_pos rfl, shownOf_append, List.reverse_append]
      simp
    | false =>
      rw [if_neg Bool.false_ne_true]
      cases hrev : l.shown.reverse with
      | nil => exact absurd (List.reverse_eq_nil_iff.1 hrev) (shown_ne_nil l)
      | cons b bs =>
        have hb : p b = false := by
          rw [h.mem_shown (List.mem_reverse.1 (hrev ▸ List.mem_cons_self)), hl]
        rw [List.cons_append, List.takeWhile_cons_of_neg (by simp [hb])]
        rfl

theorem shown_of_is {l : Lexeme} {d : Char} (h : l.Is (· == d) = true) {bs : Bytes}
    (hd : String.utf8EncodeChar d = bs) : l.shown = bs := by
  cases l with
  | code c hc =>
    have hcd : c = d := eq_of_beq h
    rw [Lexeme.shown, hcd, hd]
  | literal k content => exact absurd h Bool.false_ne_true

/-- the byte of a delimiter shows the delimiter -/
theorem shows_delimiter {d : Char} (hd : d.toNat < 128) (hspace : d ≠ ' ') (hquote : ∀ k : Literal, d ≠ k.mark) :
    Shows (· == UInt8.ofNat d.toNat) (· == d) := by
  have hbyte : ∀ e : Char, e.toNat < 128 → d ≠ e → (UInt8.ofNat e.toNat == UInt8.ofNat d.toNat) = false := by
    intro e he hne
    rw [beq_eq_false_iff_ne, Ne, ← UInt8.toNat_inj, toNat_byte (by omega), toNat_byte (by omega)]
    intro heq
    exact hne (by rw [← Char.ofNat_toNat d, ← heq, Char.ofNat_toNat])
  refine ⟨fun c b hb => ?_, hbyte ' ' (by decide) hspace, fun k => ?_⟩
  · by_cases hc : c = d
    · subst hc
      rw [utf8EncodeChar_ascii hd, List.mem_singleton] at hb
      rw [hb, beq_self_eq_true, beq_self_eq_true]
    · have hne : b ≠ UInt8.ofNat d.toNat := fun h => hc ((mem_utf8EncodeChar_iff hd).1 (h ▸ hb))
      rw [beq_false_of_ne hne, beq_false_of_ne hc]
  · rw [quote_eq]
    exact hbyte k.mark (mark_ascii k) (hquote k)

end CodeSurvey.Source
