/-
Bytes and text.

A file is a list of bytes; a text is a list of characters. `encode` writes a text as UTF-8. `pieces` reads bytes back,
one entry per character, with `none` for each longest run of bytes that begins a character and then breaks off. Strict
reading (`decode?`) refuses such a run, lossy reading (`decodeLossy`) puts the replacement character in its place, and
`decodeLatin1` takes every byte for one character.
-/

namespace CodeSurvey.Text

/-- the content of a file -/
abbrev Bytes := List UInt8

/-- the UTF-8 form of a text -/
def encodeChars (cs : List Char) : Bytes := cs.flatMap String.utf8EncodeChar

/-- the UTF-8 form of a string -/
def encode (s : String) : Bytes := encodeChars s.toList

/-- a byte that continues a character -/
def isContinuation (b : UInt8) : Bool := 0x80 ≤ b && b ≤ 0xBF

/-- the byte may follow the first byte of a three-byte character -/
def fitsThree (b0 b1 : UInt8) : Bool :=
  isContinuation b1 && (b0 != 0xE0 || 0xA0 ≤ b1) && (b0 != 0xED || b1 ≤ 0x9F)

/-- the byte may follow the first byte of a four-byte character -/
def fitsFour (b0 b1 : UInt8) : Bool :=
  isContinuation b1 && (b0 != 0xF0 || 0x90 ≤ b1) && (b0 != 0xF4 || b1 ≤ 0x8F)

/-- the six low bits of a continuation byte -/
def low6 (b : UInt8) : Nat := b.toNat % 64

/-- the character that starts with `b0`, if the bytes after it complete one, and how many of them belong to it -/
def firstPiece (b0 : UInt8) (rest : Bytes) : Option Char × Nat :=
  if b0 < 0x80 then (some (Char.ofNat b0.toNat), 0)
  else if 0xC2 ≤ b0 && b0 ≤ 0xDF then
    match rest with
    | b1 :: _ =>
      if isContinuation b1 then (some (Char.ofNat ((b0.toNat % 32) * 64 + low6 b1)), 1) else (none, 0)
    | [] => (none, 0)
  else if 0xE0 ≤ b0 && b0 ≤ 0xEF then
    match rest with
    | b1 :: more =>
      if fitsThree b0 b1 then
        match more with
        | b2 :: _ =>
          if isContinuation b2 then
            (some (Char.ofNat ((b0.toNat % 16) * 4096 + low6 b1 * 64 + low6 b2)), 2)
          else (none, 1)
        | [] => (none, 1)
      else (none, 0)
    | [] => (none, 0)
  else if 0xF0 ≤ b0 && b0 ≤ 0xF4 then
    match rest with
    | b1 :: more =>
      if fitsFour b0 b1 then
        match more with
        | b2 :: b3 :: _ =>
          if isContinuation b2 then
            if isContinuation b3 then
              (some (Char.ofNat ((b0.toNat % 8) * 262144 + low6 b1 * 4096 + low6 b2 * 64 + low6 b3)), 3)
            else (none, 2)
          else (none, 1)
        | [b2] => (none, if isContinuation b2 then 2 else 1)
        | [] => (none, 1)
      else (none, 0)
    | [] => (none, 0)
  else (none, 0)

/-- the characters of the bytes after the next `skip` of them, `none` for each ill-formed part -/
def piecesFrom (skip : Nat) : Bytes → List (Option Char)
  | [] => []
  | b :: rest =>
    match skip with
    | n + 1 => piecesFrom n rest
    | 0 => (firstPiece b rest).1 :: piecesFrom (firstPiece b rest).2 rest

/-- the characters of the bytes in order -/
def pieces (bs : Bytes) : List (Option Char) := piecesFrom 0 bs

/-- the text of well-formed bytes -/
def decode? (bs : Bytes) : Option String :=
  ((pieces bs).mapM id).map String.ofList

/-- stands for bytes that are no character -/
def replacement : Char := Char.ofNat 0xFFFD

/-- the text of any bytes, ill-formed parts replaced -/
def decodeLossy (bs : Bytes) : String :=
  String.ofList ((pieces bs).map (·.getD replacement))

/-- one character per byte -/
def decodeLatin1 (bs : Bytes) : String :=
  String.ofList (bs.map fun b => Char.ofNat b.toNat)

end CodeSurvey.Text
