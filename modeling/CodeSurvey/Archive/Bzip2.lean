/-
Block-sorted data.

A stream holds blocks and a checksum over all of them. A block was sorted: its bytes are the last column of all
rotations of the text in order, and one number tells which rotation was the text. The column is written as places in a
list of bytes whose last used one moves to the front; runs of the front are counted in a notation of their own; and all
that in up to six prefix codes, of which a selector chooses one for fifty symbols. Before the sorting, four equal bytes
are followed by a count of further ones. `decompress?` takes these steps back, and gives none where a rule is broken, a
checksum differs or the stream ends too early.
-/
import CodeSurvey.Archive.PrefixCode

namespace CodeSurvey.Bzip2

open Text

/-! ## Checksums -/

/-- the checksum with one byte more worked in, the highest bit first -/
def checksumByte (c : UInt32) (b : UInt8) : UInt32 :=
  (List.range 8).foldl (fun c _ => if c &&& 0x80000000 = 0 then c <<< 1 else (c <<< 1) ^^^ 0x04C11DB7)
    (c ^^^ (b.toUInt32 <<< 24))

/-- the checksum of the bytes of a block -/
def checksum (bytes : Bytes) : UInt32 := bytes.foldl checksumByte 0xFFFFFFFF ^^^ 0xFFFFFFFF

/-- the checksum of blocks with one block more -/
def combined (all block : UInt32) : UInt32 := ((all <<< 1) ||| (all >>> 31)) ^^^ block

/-! ## Codes -/

/-- how many bits in front are set, up to the first that is not -/
def ones? : Bits → Option (Nat × Bits)
  | [] => none
  | true :: bits => (ones? bits).map fun (n, rest) => (n + 1, rest)
  | false :: bits => some (0, bits)

/-- the list with the element of a place moved to the front, and the element -/
def toFront? {α : Type} (list : List α) (place : Nat) : Option (α × List α) :=
  (list[place]?).map fun a => (a, a :: list.eraseIdx place)

/-- `n` selectors; each is a place in the list of codes whose last used one moves to the front -/
def selectors? (codes : List Nat) : Nat → Bits → Option (List Nat × Bits)
  | 0, bits => some ([], bits)
  | n + 1, bits => do
    let (place, bits) ← ones? bits
    let (selected, codes) ← toFront? codes place
    let (more, bits) ← selectors? codes n bits
    return (selected :: more, bits)

/-- the longest code -/
def longest : Nat := 20

/-- the length of one code: steps up and down from the length before it -/
def length? (fuel : Nat) (length : Nat) (bits : Bits) : Option (Nat × Bits) :=
  match fuel, bits with
  | fuel + 1, b :: bits =>
    if length = 0 || length > longest then none
    else if !b then some (length, bits)
    else
      match bits with
      | down :: bits => length? fuel (if down then length - 1 else length + 1) bits
      | [] => none
  | _, _ => none

/-- the lengths of `n` codes -/
def lengths? (length : Nat) : Nat → Bits → Option (List Nat × Bits)
  | 0, bits => some ([], bits)
  | n + 1, bits => do
    let (length, bits) ← length? (bits.length + 1) length bits
    let (more, bits) ← lengths? length n bits
    return (length :: more, bits)

/-- `n` codes of so many symbols -/
def codes? (symbols : Nat) : Nat → Bits → Option (List PrefixCode × Bits)
  | 0, bits => some ([], bits)
  | n + 1, bits => do
    let (start, bits) ← Bits.high? 5 bits
    let (lengths, bits) ← lengths? start symbols bits
    let (more, bits) ← codes? symbols n bits
    return (.ofLengths longest lengths :: more, bits)

/-- how many symbols one selector is for -/
def groupSize : Nat := 50

/-- the symbols before the one that ends the block; the codes stand in the order of their use, each for `left` or
`groupSize` symbols -/
def symbols? (ending : Nat) : Nat → List PrefixCode → Nat → Bits → List Nat → Option (List Nat × Bits)
  | 0, _, _, _, _ => none
  | _, [], _, _, _ => none
  | fuel + 1, _ :: codes, 0, bits, read => symbols? ending fuel codes groupSize bits read
  | fuel + 1, code :: codes, left + 1, bits, read => do
    let (symbol, bits) ← code.decode? bits
    if symbol = ending then some (read.reverse, bits)
    else symbols? ending fuel (code :: codes) left bits (symbol :: read)

/-! ## Columns -/

/-- a column that is being written -/
structure Column where
  /-- last byte first -/
  written : Bytes
  /-- the bytes in use, the last used one first -/
  recent : List UInt8
  /-- what the next digit of a run counts for -/
  weight : Nat
  /-- how long the run is that digits have told so far -/
  run : Nat
  /-- how long the column is with the run -/
  size : Nat

/-- the column with the run that was told -/
def Column.close (c : Column) : Column :=
  { c with written := List.replicate c.run (c.recent.headD 0) ++ c.written, weight := 1, run := 0 }

/-- the column with one symbol more; `limit` bounds its length -/
def Column.add? (limit : Nat) (c : Column) (symbol : Nat) : Option Column := do
  let more := if symbol < 2 then c.weight * (symbol + 1) else 1
  if c.size + more > limit then none
  else if symbol < 2 then some { c with weight := 2 * c.weight, run := c.run + more, size := c.size + more }
  else
    let c := c.close
    let (byte, recent) ← toFront? c.recent (symbol - 1)
    return { c with written := byte :: c.written, recent := recent, size := c.size + more }

/-- the bytes in order, each with its place, equal ones in the order of their places -/
def sorted (column : Array UInt8) : Array Nat :=
  ((List.range column.size).mergeSort fun a b => column.getD a 0 ≤ column.getD b 0).toArray

/-- `n` bytes of the text, from a place of its last column -/
def follow (column : Array UInt8) (next : Array Nat) (place : Nat) : Nat → Bytes
  | 0 => []
  | n + 1 => column.getD place 0 :: follow column next (next.getD place 0) n

/-- the text whose sorted rotations have the last column; it is the rotation of the given number -/
def unsorted (column : Array UInt8) (rotation : Nat) : Bytes :=
  let next := sorted column
  follow column next (next.getD rotation 0) column.size

/-- the bytes with the runs that were counted; `equal` bytes like the last one stand in front -/
def unfolded (last : Option UInt8) (equal : Nat) : Bytes → Bytes
  | [] => []
  | b :: bytes =>
    if equal = 4 then List.replicate b.toNat (last.getD 0) ++ unfolded none 0 bytes
    else b :: unfolded (some b) (if last = some b then equal + 1 else 1) bytes

/-! ## Streams -/

/-- the bytes in use: sixteen bits tell which sixteenths of all bytes have any, and sixteen more for each of those -/
def bytesInUse? (bits : Bits) : Option (List UInt8 × Bits) := do
  let (sixteenths, bits) ← Bits.take? 16 bits
  let rows := (List.range 16).filter fun i => sixteenths.getD i false
  let (marks, bits) ← Bits.take? (16 * rows.length) bits
  let all := rows.flatMap fun row => (List.range 16).map fun i => UInt8.ofNat (16 * row + i)
  return ((all.zip marks).filterMap fun (byte, used) => if used then some byte else none, bits)

/-- the bytes of a block behind its mark, and their checksum; `limit` bounds the length of its column -/
def block? (limit : Nat) (bits : Bits) : Option (Bytes × UInt32 × Bits) := do
  let (check, bits) ← Bits.high? 32 bits
  let (scrambled, bits) ← Bits.high? 1 bits
  let (rotation, bits) ← Bits.high? 24 bits
  let (recent, bits) ← bytesInUse? bits
  let (codeCount, bits) ← Bits.high? 3 bits
  let (selectorCount, bits) ← Bits.high? 15 bits
  if scrambled = 1 || recent.isEmpty || codeCount < 2 || codeCount > 6 || selectorCount = 0 then none
  let (selectors, bits) ← selectors? (List.range codeCount) selectorCount bits
  let (codes, bits) ← codes? (recent.length + 2) codeCount bits
  let inUse := selectors.filterMap fun i => codes[i]?
  let (symbols, bits) ← symbols? (recent.length + 1) (2 * bits.length + 2) inUse groupSize bits []
  let column := (← symbols.foldlM (Column.add? limit) ⟨[], recent, 1, 0, 0⟩).close
  let bytes := column.written.reverse
  if rotation ≥ bytes.length then none
  let text := unfolded none 0 (unsorted bytes.toArray rotation)
  if (checksum text).toNat = check then some (text, checksum text, bits) else none

/-- the mark in front of a block -/
def blockMark : Nat := 0x314159265359

/-- the mark behind the last block -/
def endMark : Nat := 0x177245385090

/-- the bytes of blocks up to the end of the stream, after blocks with the checksum -/
def blocks? (limit : Nat) (all : UInt32) : Nat → Bits → Option Bytes
  | 0, _ => none
  | fuel + 1, bits => do
    let (mark, bits) ← Bits.high? 48 bits
    if mark = blockMark then
      let (bytes, check, bits) ← block? limit bits
      return bytes ++ (← blocks? limit (combined all check) fuel bits)
    else if mark = endMark then
      let (check, _) ← Bits.high? 32 bits
      if check = all.toNat then some [] else none
    else none

/-- the bytes that block-sorted data stands for; a digit in front tells how long its blocks may be -/
def decompress? (data : Bytes) : Option Bytes :=
  match data with
  | 0x42 :: 0x5A :: 0x68 :: size :: rest =>
    if 0x31 ≤ size && size ≤ 0x39 then
      blocks? ((size.toNat - 0x30) * 100000) 0 (rest.length + 1) (Bits.highFirst rest)
    else none
  | _ => none

end CodeSurvey.Bzip2
