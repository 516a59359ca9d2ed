/-
Texts of scripts.

A script knows no letters, only bytes: it counts, cuts and compares them one by one. So each byte of a script's text is
one character here, and what the system knows by letters, such as names of files, is turned into bytes first.
-/
import CodeSurvey.FileTree

namespace CodeSurvey.Shell

open Text

/-- the text whose characters are the bytes -/
def textOf (bytes : Bytes) : String := decodeLatin1 bytes

/-- the bytes that the characters of a text are -/
def bytesOf (s : String) : Bytes := s.toList.map fun c => UInt8.ofNat c.toNat

/-- a text of letters as a text of bytes -/
def ofLetters (s : String) : String := textOf (encode s)

/-- a text of bytes as a text of letters -/
def toLetters (s : String) : String := decodeLossy (bytesOf s)

/-- the path that a text names -/
def path (s : String) : FilePath := .ofText (toLetters s)

/-- a place as a path of letters -/
def placeText (place : Place) : String := "/" ++ joined "/" place

/-- a place as a path -/
def shownPlace (place : Place) : String := ofLetters (placeText place)

/-- space, or what ends or moves a line -/
def isSpace (c : Char) : Bool := c == ' ' || (9 ≤ c.toNat && c.toNat ≤ 13)

theorem toNat_ofNat_byte {n : Nat} (h : n < 256) : (Char.ofNat n).toNat = n := by
  have hvalid : n.isValidChar := .inl (by omega)
  rw [Char.ofNat, dif_pos hvalid]
  rfl

/-- No byte is lost when bytes are read as a text. -/
theorem bytesOf_textOf (bytes : Bytes) : bytesOf (textOf bytes) = bytes := by
  have h : ∀ b : UInt8, UInt8.ofNat (Char.ofNat b.toNat).toNat = b := fun b => by
    rw [toNat_ofNat_byte b.toNat_lt]
    simp
  simp [bytesOf, textOf, decodeLatin1, h, Function.comp_def]

end CodeSurvey.Shell
