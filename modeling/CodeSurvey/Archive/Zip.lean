/-
Zip archives.

An archive ends with a record that says where its directory starts; the directory lists the entries, and each entry
says where its data lie. Numbers that need more room than they have stand elsewhere: those of the record in a wider
record before it, those of an entry in a further field. `listing?` gives the entries in directory order, `stored?` the
data of an entry as they lie there, and `unpack?` what they stand for; what was unpacked must have the entry's checksum.
-/
import CodeSurvey.Archive.Bzip2
import CodeSurvey.Archive.Inflate
import CodeSurvey.Archive.Zstandard.Frame
import CodeSurvey.Text.Letter

namespace CodeSurvey.Zip

open Text Record

/-- how data are stored -/
inductive Method where
  | plain
  | deflated
  | blockSorted
  | framed
  | unknown
  deriving DecidableEq, Repr

/-- an entry of the directory -/
structure Entry where
  name : String
  method : Method
  encrypted : Bool
  checksum : Nat
  /-- how many bytes are stored -/
  size : Nat
  /-- how many bytes they stand for -/
  unpackedSize : Nat
  /-- where the entry's own header starts -/
  start : Nat
  deriving DecidableEq, Repr

/-- the mark of the record that ends an archive -/
def endMark : Bytes := [0x50, 0x4B, 5, 6]

/-- the mark of an entry in the directory -/
def entryMark : Bytes := [0x50, 0x4B, 1, 2]

/-- the mark of an entry's own header -/
def headerMark : Bytes := [0x50, 0x4B, 3, 4]

/-- the places of the mark, in order -/
def marksFrom (mark : Bytes) (place : Nat) : Bytes → List Nat
  | [] => []
  | b :: rest =>
    if mark.isPrefixOf (b :: rest) then place :: marksFrom mark (place + 1) rest else marksFrom mark (place + 1) rest

/-- the place of the last record that can end the archive: a remark of at most 65535 bytes may follow it -/
def endRecord? (bytes : Bytes) : Option Nat :=
  ((marksFrom endMark 0 bytes).filter fun place =>
    place + 22 ≤ bytes.length && bytes.length ≤ place + 22 + 65535).getLast?

/-- the upper half of the byte characters of archives that do not use UTF-8 -/
def upperHalf : List Char :=
  ("ÇüéâäàåçêëèïîìÄÅÉæÆôöòûùÿÖÜ¢£¥₧ƒáíóúñÑªº¿⌐¬½¼¡«»░▒▓│┤╡╢╖╕╣║╗╝╜╛┐└┴┬├─┼╞╟╚╔╩╦╠═╬╧╨╤╥╙╘╒╓╫╪┘┌█▄▌▐▀"
    ++ "αßΓπΣσµτΦΘΩδ∞φε∩≡±≥≤⌠⌡÷≈°∙·√ⁿ²■\u00a0").toList

/-- one character per byte -/
def decodeName (bytes : Bytes) : String :=
  String.ofList <| bytes.map fun b =>
    if b < 128 then Char.ofNat b.toNat else (upperHalf[b.toNat - 128]?).getD replacement

/-! ## Entries -/

def methodOf (n : Nat) : Method :=
  match n with
  | 0 => .plain
  | 8 => .deflated
  | 12 => .blockSorted
  | 93 => .framed
  | _ => .unknown

/-- a number that stands in a further field if its own is full, and the field behind it -/
def wide? (own : Nat) (field : Bytes) : Option (Nat × Bytes) :=
  if own = 0xFFFFFFFF then number? 8 field else some (own, field)

/-- the entry with the numbers that a further field holds, and the bytes behind them; a field that ends too early gives
the numbers it has and ends all fields -/
def Entry.widen (e : Entry) (field : Bytes) : Entry × Option Bytes :=
  match wide? e.unpackedSize field with
  | none => (e, none)
  | some (unpackedSize, field) =>
    let e := { e with unpackedSize := unpackedSize }
    match wide? e.size field with
    | none => (e, none)
    | some (size, field) =>
      let e := { e with size := size }
      match wide? e.start field with
      | none => (e, none)
      | some (start, field) => ({ e with start := start }, some field)

/-- the kind of encryption that a further field tells: a version, a vendor, a strength and the method underneath -/
def isKnownCipher (field : Bytes) : Bool :=
  [1, 2].contains (numberAt field 0 2) && numberAt field 2 2 = 0x4541 && [1, 2, 3].contains (numberAt field 4 1)

/-- the entry with what its further fields tell; none where they tell of an encryption that is not known -/
def Entry.extend? (fuel : Nat) (e : Entry) (fields : Bytes) : Option Entry :=
  match fuel, number? 2 fields with
  | fuel + 1, some (kind, rest) =>
    match number? 2 rest with
    | none => some e
    | some (length, rest) =>
      if kind = 1 then
        match e.widen rest with
        | (e, none) => some e
        | (e, some behind) => extend? fuel e (rest.drop (max length (rest.length - behind.length)))
      else if kind = 0x9901 then
        if length ≠ 7 then none
        else if rest.length < 7 then some e
        else if isKnownCipher rest then
          extend? fuel { e with encrypted := true, method := methodOf (numberAt rest 5 2) } (rest.drop (7 + length))
        else none
      else extend? fuel e (rest.drop length)
  | _, _ => some e

/-- the method of entries whose further field tells what is encrypted -/
def cipherMethod : Nat := 99

/-- the entry at the front of the directory and the directory behind it; the archive starts `shift` bytes late -/
def entry? (shift : Nat) (directory : Bytes) : Option (Entry × Bytes) := do
  let (header, rest) ← take? 46 directory
  let (name, rest) ← take? (numberAt header 28 2) rest
  let (fields, rest) ← take? (numberAt header 30 2) rest
  let (_, rest) ← take? (numberAt header 32 2) rest
  let flags := numberAt header 8 2
  let plain : Entry := {
    name := if flags.testBit 11 then decodeLossy name else decodeName name
    method := methodOf (numberAt header 10 2)
    encrypted := false
    checksum := numberAt header 16 4
    size := numberAt header 20 4
    unpackedSize := numberAt header 24 4
    start := numberAt header 42 4 }
  let e ← plain.extend? (fields.length + 1) fields
  if !entryMark.isPrefixOf header || (numberAt header 10 2 = cipherMethod && !e.encrypted) then none
  return ({ e with encrypted := e.encrypted || flags.testBit 0, start := e.start + shift }, rest)

/-- the first `n` entries of the directory -/
def entries? (shift : Nat) : Nat → Bytes → Option (List Entry)
  | 0, _ => some []
  | n + 1, directory =>
    match entry? shift directory with
    | some (e, rest) => (entries? shift n rest).map (e :: ·)
    | none => none

/-! ## Directories -/

/-- where a directory lies -/
structure Directory where
  /-- how many bytes stand before the archive -/
  shift : Nat
  start : Nat
  count : Nat
  deriving DecidableEq, Repr

/-- a number of the end record is full, so that the true one stands elsewhere -/
def isFull (record : Bytes) : Bool :=
  [4, 6, 8, 10].any (fun place => numberAt record place 2 = 0xFFFF)
    || [12, 16].any fun place => numberAt record place 4 = 0xFFFFFFFF

/-- the mark of the wider end record -/
def wideMark : Bytes := [0x50, 0x4B, 6, 6]

/-- the mark of the record that tells where the wider end record is -/
def locatorMark : Bytes := [0x50, 0x4B, 6, 7]

/-- the record that tells where the wider end record is; a remark of so many bytes stands behind the end record -/
def locator? (bytes : Bytes) (remark : Nat) : Option Bytes :=
  let place := bytes.length - (42 + remark)
  if 42 + remark ≤ bytes.length && locatorMark.isPrefixOf (bytes.drop place) then some (bytes.drop place) else none

/-- the directory that the wider end record tells; it is looked for from where it should be, up to the end record -/
def wideDirectory? (bytes : Bytes) (told place : Nat) : Option Directory := do
  let found ← (marksFrom wideMark 0 bytes).find? fun found => told ≤ found && found + 60 ≤ place
  let record := bytes.drop found
  if numberAt record 16 4 ≠ numberAt record 20 4 then none
  return ⟨found - told, numberAt record 48 8 + (found - told), numberAt record 32 8⟩

/-- the directory that the end record at a place tells -/
def directory? (bytes : Bytes) (place : Nat) : Option Directory :=
  let record := bytes.drop place
  let size := numberAt record 12 4
  let start := numberAt record 16 4
  let disk := numberAt record 4 2
  if record.length < 22 + numberAt record 20 2 then none
  else if !isFull record && disk ≠ numberAt record 6 2 then none
  else
    match locator? bytes (numberAt record 20 2) with
    | some locator =>
      if !isFull record && disk ≠ numberAt locator 4 4 then none
      else wideDirectory? bytes (numberAt locator 8 8) place
    | none => if place < size + start then none else some ⟨place - size - start, place - size, numberAt record 8 2⟩

/-- the entries of an archive in directory order -/
def listing? (bytes : Bytes) : Option (List Entry) := do
  let directory ← directory? bytes (← endRecord? bytes)
  entries? directory.shift directory.count (bytes.drop directory.start)

/-! ## Data -/

/-- the stored data of an entry that can be opened -/
def stored? (bytes : Bytes) (e : Entry) : Option Bytes :=
  let header := bytes.drop e.start
  if e.encrypted || e.method = .unknown || !headerMark.isPrefixOf header || header.length < 30 then none
  else some ((header.drop (30 + numberAt header 26 2 + numberAt header 28 2)).take e.size)

/-- the checksum with one bit more worked in -/
def checksumBit (c : UInt32) : UInt32 :=
  if c &&& 1 = 1 then (c >>> 1) ^^^ 0xEDB88320 else c >>> 1

/-- the checksum with one byte more worked in -/
def checksumByte (c : UInt32) (b : UInt8) : UInt32 :=
  (List.range 8).foldl (fun c _ => checksumBit c) (c ^^^ b.toUInt32)

/-- the checksum of the bytes -/
def checksum (bytes : Bytes) : UInt32 := bytes.foldl checksumByte 0xFFFFFFFF ^^^ 0xFFFFFFFF

/-- what the stored data of an entry stand for -/
def unpack? (e : Entry) (stored : Bytes) : Option Bytes :=
  let unpacked :=
    match e.method with
    | .plain => some stored
    | .deflated => Inflate.inflate? stored
    | .blockSorted => Bzip2.decompress? stored
    | .framed => Zstandard.decompress? stored
    | .unknown => none
  unpacked.filter fun bytes => (checksum bytes).toNat = e.checksum

end CodeSurvey.Zip
