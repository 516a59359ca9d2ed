/-
Reading back what UTF-8 writes.

- `pieces_encodeChars`: the pieces of an encoded text are its characters, none broken.
- `decodeLossy_encode`: so a text survives encoding and lossy reading, and two texts with one encoding are equal.
- `decode_encode`: strict reading gives the text too.
The proof is one case for each length of a character's form (`firstPiece_encode`). Each form is read in numbers, where
the tests of `firstPiece` are inequalities between quotients and remainders of the code point.
-/
import CodeSurvey.Text.Utf8

namespace CodeSurvey.Text

theorem toNat_byte {n : Nat} (h : n < 256) : (UInt8.ofNat n).toNat = n :=
  UInt8.toNat_ofNat_of_lt' h

/-- the byte lies between two others -/
theorem between_iff (low high b : UInt8) :
    (decide (low ≤ b) && decide (b ≤ high)) = true ↔ low.toNat ≤ b.toNat ∧ b.toNat ≤ high.toNat := by
  simp only [Bool.and_eq_true, decide_eq_true_eq, UInt8.le_iff_toNat_le]

theorem isContinuation_of {b : UInt8} {n : Nat} (h : b.toNat = n % 64 + 128) : isContinuation b = true :=
  (between_iff _ _ b).2 (by simp only [UInt8.reduceToNat]; omega)

theorem fitsThree_of {b0 b1 : UInt8} (h : isContinuation b1 = true) (hlow : b0.toNat = 224 → 160 ≤ b1.toNat)
    (hhigh : b0.toNat = 237 → b1.toNat ≤ 159) : fitsThree b0 b1 = true := by
  simp only [fitsThree, h, Bool.true_and, Bool.and_eq_true, Bool.or_eq_true, bne_iff_ne, decide_eq_true_eq, ne_eq,
    UInt8.le_iff_toNat_le, ← UInt8.toNat_inj]
  exact ⟨Decidable.not_or_of_imp hlow, Decidable.not_or_of_imp hhigh⟩

theorem fitsFour_of {b0 b1 : UInt8} (h : isContinuation b1 = true) (hlow : b0.toNat = 240 → 144 ≤ b1.toNat)
    (hhigh : b0.toNat = 244 → b1.toNat ≤ 143) : fitsFour b0 b1 = true := by
  simp only [fitsFour, h, Bool.true_and, Bool.and_eq_true, Bool.or_eq_true, bne_iff_ne, decide_eq_true_eq, ne_eq,
    UInt8.le_iff_toNat_le, ← UInt8.toNat_inj]
  exact ⟨Decidable.not_or_of_imp hlow, Decidable.not_or_of_imp hhigh⟩

/-! ## One case for each length -/

theorem firstPiece_one {v : Nat} (h : v ≤ 0x7f) (rest : Bytes) :
    firstPiece (UInt8.ofNat v) rest = (some (Char.ofNat v), 0) := by
  have b0 : (UInt8.ofNat v).toNat = v := toNat_byte (by omega)
  have hascii : UInt8.ofNat v < 0x80 := by
    rw [UInt8.lt_iff_toNat_lt, b0]
    exact Nat.lt_succ_of_le h
  unfold firstPiece
  rw [if_pos hascii, b0]

theorem firstPiece_two {v : Nat} (h : 0x7f < v) (h' : v ≤ 0x7ff) (rest : Bytes) :
    firstPiece (UInt8.ofNat (v / 64 % 32 + 0xc0)) (UInt8.ofNat (v % 64 + 0x80) :: rest) = (some (Char.ofNat v), 1) := by
  have b0 : (UInt8.ofNat (v / 64 % 32 + 0xc0)).toNat = v / 64 + 192 := by rw [toNat_byte] <;> omega
  have b1 : (UInt8.ofNat (v % 64 + 0x80)).toNat = v % 64 + 128 := toNat_byte (by omega)
  generalize UInt8.ofNat (v / 64 % 32 + 0xc0) = x0 at b0
  generalize UInt8.ofNat (v % 64 + 0x80) = x1 at b1
  have hascii : ¬ x0 < 0x80 := by rw [UInt8.lt_iff_toNat_lt]; simp only [UInt8.reduceToNat]; omega
  have htwo := (between_iff 0xC2 0xDF x0).2 (by simp only [UInt8.reduceToNat]; omega)
  have hvalue : x0.toNat % 32 * 64 + low6 x1 = v := by unfold low6; omega
  dsimp only [firstPiece]
  rw [if_neg hascii, if_pos htwo, if_pos (isContinuation_of b1), hvalue]

theorem firstPiece_three {v : Nat} (h : 0x7ff < v) (h' : v ≤ 0xffff) (hs : v < 0xD800 ∨ 0xDFFF < v) (rest : Bytes) :
    firstPiece (UInt8.ofNat (v / 4096 % 16 + 0xe0))
      (UInt8.ofNat (v / 64 % 64 + 0x80) :: UInt8.ofNat (v % 64 + 0x80) :: rest) = (some (Char.ofNat v), 2) := by
  have b0 : (UInt8.ofNat (v / 4096 % 16 + 0xe0)).toNat = v / 4096 + 224 := by rw [toNat_byte] <;> omega
  have b1 : (UInt8.ofNat (v / 64 % 64 + 0x80)).toNat = v / 64 % 64 + 128 := toNat_byte (by omega)
  have b2 : (UInt8.ofNat (v % 64 + 0x80)).toNat = v % 64 + 128 := toNat_byte (by omega)
  generalize UInt8.ofNat (v / 4096 % 16 + 0xe0) = x0 at b0
  generalize UInt8.ofNat (v / 64 % 64 + 0x80) = x1 at b1
  generalize UInt8.ofNat (v % 64 + 0x80) = x2 at b2
  have hascii : ¬ x0 < 0x80 := by rw [UInt8.lt_iff_toNat_lt]; simp only [UInt8.reduceToNat]; omega
  have htwo := mt (between_iff 0xC2 0xDF x0).1 (by simp only [UInt8.reduceToNat]; omega)
  have hthree := (between_iff 0xE0 0xEF x0).2 (by simp only [UInt8.reduceToNat]; omega)
  have hfits : fitsThree x0 x1 = true := fitsThree_of (isContinuation_of b1) (by omega) (by omega)
  have hvalue : x0.toNat % 16 * 4096 + low6 x1 * 64 + low6 x2 = v := by unfold low6; omega
  dsimp only [firstPiece]
  rw [if_neg hascii, if_neg htwo, if_pos hthree, if_pos hfits, if_pos (isContinuation_of b2), hvalue]

theorem firstPiece_four {v : Nat} (h : 0xffff < v) (h' : v < 0x110000) (rest : Bytes) :
    firstPiece (UInt8.ofNat (v / 262144 % 8 + 0xf0))
      (UInt8.ofNat (v / 4096 % 64 + 0x80) :: UInt8.ofNat (v / 64 % 64 + 0x80) :: UInt8.ofNat (v % 64 + 0x80) :: rest) =
      (some (Char.ofNat v), 3) := by
  have b0 : (UInt8.ofNat (v / 262144 % 8 + 0xf0)).toNat = v / 262144 + 240 := by rw [toNat_byte] <;> omega
  have b1 : (UInt8.ofNat (v / 4096 % 64 + 0x80)).toNat = v / 4096 % 64 + 128 := toNat_byte (by omega)
  have b2 : (UInt8.ofNat (v / 64 % 64 + 0x80)).toNat = v / 64 % 64 + 128 := toNat_byte (by omega)
  have b3 : (UInt8.ofNat (v % 64 + 0x80)).toNat = v % 64 + 128 := toNat_byte (by omega)
  generalize UInt8.ofNat (v / 262144 % 8 + 0xf0) = x0 at b0
  generalize UInt8.ofNat (v / 4096 % 64 + 0x80) = x1 at b1
  generalize UInt8.ofNat (v / 64 % 64 + 0x80) = x2 at b2
  generalize UInt8.ofNat (v % 64 + 0x80) = x3 at b3
  have hascii : ¬ x0 < 0x80 := by rw [UInt8.lt_iff_toNat_lt]; simp only [UInt8.reduceToNat]; omega
  have htwo := mt (between_iff 0xC2 0xDF x0).1 (by simp only [UInt8.reduceToNat]; omega)
  have hthree := mt (between_iff 0xE0 0xEF x0).1 (by simp only [UInt8.reduceToNat]; omega)
  have hfour := (between_iff 0xF0 0xF4 x0).2 (by simp only [UInt8.reduceToNat]; omega)
  have hfits : fitsFour x0 x1 = true := fitsFour_of (isContinuation_of b1) (by omega) (by omega)
  have hvalue : x0.toNat % 8 * 262144 + low6 x1 * 4096 + low6 x2 * 64 + low6 x3 = v := by unfold low6; omega
  dsimp only [firstPiece]
  rw [if_neg hascii, if_neg htwo, if_neg hthree, if_pos hfour, if_pos hfits, if_pos (isContinuation_of b2),
    if_pos (isContinuation_of b3), hvalue]

/-- The first piece of an encoded character is the character, whatever follows. -/
theorem firstPiece_encode (c : Char) :
    ∃ b bs, String.utf8EncodeChar c = b :: bs ∧ ∀ rest, firstPiece b (bs ++ rest) = (some c, bs.length) := by
  have hvalid : c.toNat < 0xD800 ∨ (0xDFFF < c.toNat ∧ c.toNat < 0x110000) := c.valid
  have hc : Char.ofNat c.val.toNat = c := Char.ofNat_toNat c
  unfold String.utf8EncodeChar
  change c.val.toNat < 0xD800 ∨ (0xDFFF < c.val.toNat ∧ c.val.toNat < 0x110000) at hvalid
  generalize c.val.toNat = v at hvalid hc
  by_cases h1 : v ≤ 0x7f
  · exact ⟨_, _, if_pos h1, fun rest => hc ▸ firstPiece_one h1 rest⟩
  by_cases h2 : v ≤ 0x7ff
  · exact ⟨_, _, (if_neg h1).trans (if_pos h2), fun rest => hc ▸ firstPiece_two (by omega) h2 rest⟩
  by_cases h3 : v ≤ 0xffff
  · exact ⟨_, _, (if_neg h1).trans ((if_neg h2).trans (if_pos h3)),
      fun rest => hc ▸ firstPiece_three (by omega) h3 (by omega) rest⟩
  · exact ⟨_, _, (if_neg h1).trans ((if_neg h2).trans (if_neg h3)),
      fun rest => hc ▸ firstPiece_four (by omega) (by omega) rest⟩

/-! ## The bytes of a character -/

theorem utf8EncodeChar_ascii {c : Char} (h : c.toNat < 128) : String.utf8EncodeChar c = [UInt8.ofNat c.toNat] :=
  if_pos (Nat.le_of_lt_succ h)

/-- a character beyond ASCII has no ASCII byte -/
theorem beyond_of_mem_utf8EncodeChar {c : Char} (h : 128 ≤ c.toNat) {b : UInt8} (hb : b ∈ String.utf8EncodeChar c) :
    128 ≤ b.toNat := by
  have hlarge : 128 ≤ c.val.toNat := h
  unfold String.utf8EncodeChar at hb
  generalize c.val.toNat = v at hb hlarge
  dsimp only at hb
  rw [if_neg (by omega)] at hb
  split at hb
  · simp only [List.mem_cons, List.not_mem_nil, or_false] at hb
    rcases hb with rfl | rfl <;> rw [toNat_byte] <;> omega
  split at hb
  · simp only [List.mem_cons, List.not_mem_nil, or_false] at hb
    rcases hb with rfl | rfl | rfl <;> rw [toNat_byte] <;> omega
  · simp only [List.mem_cons, List.not_mem_nil, or_false] at hb
    rcases hb with rfl | rfl | rfl | rfl <;> rw [toNat_byte] <;> omega

/-- behind the first byte of a character stand none of ASCII -/
theorem utf8EncodeChar_cons (c : Char) :
    ∃ b bs, String.utf8EncodeChar c = b :: bs ∧ ∀ b' ∈ bs, 128 ≤ b'.toNat := by
  obtain ⟨b, bs, hform, -⟩ := firstPiece_encode c
  refine ⟨b, bs, hform, fun b' hb' => ?_⟩
  by_cases h : c.toNat < 128
  · rw [utf8EncodeChar_ascii h] at hform
    obtain ⟨-, rfl⟩ := List.cons.inj hform
    exact absurd hb' List.not_mem_nil
  · exact beyond_of_mem_utf8EncodeChar (Nat.not_lt.1 h) (hform ▸ List.mem_cons_of_mem b hb')

/-! ## Reading back -/

theorem piecesFrom_append (skipped rest : Bytes) : piecesFrom skipped.length (skipped ++ rest) = piecesFrom 0 rest := by
  induction skipped with
  | nil => rfl
  | cons b bs ih => exact ih

theorem encodeChars_cons (c : Char) (cs : List Char) :
    encodeChars (c :: cs) = String.utf8EncodeChar c ++ encodeChars cs :=
  List.flatMap_cons

theorem encodeChars_append (cs ds : List Char) : encodeChars (cs ++ ds) = encodeChars cs ++ encodeChars ds :=
  List.flatMap_append

/-- **Reading undoes writing**, and what follows the text is read as if it stood alone. -/
theorem pieces_encodeChars_append (cs : List Char) (rest : Bytes) :
    pieces (encodeChars cs ++ rest) = cs.map some ++ pieces rest := by
  unfold pieces
  induction cs with
  | nil => rfl
  | cons c cs ih =>
    obtain ⟨b, bs, hform, hpiece⟩ := firstPiece_encode c
    rw [encodeChars_cons, hform, List.append_assoc, List.cons_append, piecesFrom, hpiece, List.map_cons,
      List.cons_append, piecesFrom_append, ih]

theorem pieces_encodeChars (cs : List Char) : pieces (encodeChars cs) = cs.map some := by
  simpa [pieces, piecesFrom] using pieces_encodeChars_append cs []

theorem decodeLossy_encodeChars (cs : List Char) : decodeLossy (encodeChars cs) = String.ofList cs := by
  simp [decodeLossy, pieces_encodeChars, Function.comp_def]

/-- **A text survives encoding and lossy reading.** -/
theorem decodeLossy_encode (s : String) : decodeLossy (encode s) = s := by
  rw [encode, decodeLossy_encodeChars, String.ofList_toList]

/-- **Strict reading refuses no text.** -/
theorem decode_encode (s : String) : decode? (encode s) = some s := by
  have hall : ∀ cs : List Char, (cs.map some).mapM id = some cs := by
    intro cs
    induction cs with
    | nil => rfl
    | cons c cs ih => rw [List.map_cons, List.mapM_cons, ih]; rfl
  rw [decode?, encode, pieces_encodeChars, hall, Option.map_some, String.ofList_toList]

theorem encode_injective {s t : String} (h : encode s = encode t) : s = t := by
  rw [← decodeLossy_encode s, h, decodeLossy_encode]

end CodeSurvey.Text
