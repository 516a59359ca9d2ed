/-
Data in frames of literals and copies.

A frame holds blocks. A block has bytes as they are, one byte many times, or literals and sequences that copy. Codes,
tables and the last distances stay in force for later blocks of the frame. `decompress?` gives the bytes of all frames,
and none where a rule is broken, a checksum differs or the data end too early.
-/
import CodeSurvey.Archive.Zstandard.Checksum
import CodeSurvey.Archive.Zstandard.Sequence

namespace CodeSurvey.Zstandard

open Text Record

/-- what stays in force from block to block -/
structure Frame where
  code : Option LiteralCode
  tables : Option Tables
  recent : List Nat
  /-- what was written so far -/
  out : Array UInt8

/-- the frame before its first block -/
def Frame.start : Frame := ⟨none, none, [1, 4, 8], #[]⟩

/-- the frame with a packed block -/
def Frame.add? (f : Frame) (packed : Bytes) : Option Frame := do
  let (literals, code, bytes) ← literals? f.code packed
  let (sequences, tables) ← blockSequences? f.tables bytes
  let (out, recent) ← execute? sequences literals f.recent f.out
  return ⟨code, tables, recent, out⟩

/-- the frame after all its blocks, of at most `limit` bytes each, and the bytes behind them -/
def blocks? (limit : Nat) (f : Frame) : Nat → Bytes → Option (Frame × Bytes)
  | 0, _ => none
  | fuel + 1, bytes => do
    let (header, bytes) ← number? 3 bytes
    let size := header / 8
    let (f', bytes) ←
      match header / 2 % 4 with
      | 0 => (take? size bytes).map fun (front, rest) => ({ f with out := f.out ++ front }, rest)
      | 1 => do
        let (b, rest) ← number? 1 bytes
        if size > limit then none
        pure ({ f with out := f.out ++ List.replicate size (UInt8.ofNat b) }, rest)
      | 2 => do
        let (front, rest) ← take? size bytes
        pure (← f.add? front, rest)
      | _ => none
    if f'.out.size > f.out.size + limit || (header / 2 % 4 ≠ 1 && size > limit) then none
    else if header % 2 = 1 then some (f', bytes)
    else blocks? limit f' fuel bytes

/-- the largest window that is allowed -/
def largestWindow : Nat := Nat.pow 2 27

/-- the size of the window that a byte tells -/
def windowSize (b : Nat) : Nat :=
  let size := Nat.pow 2 (10 + b / 8)
  size + size / 8 * (b % 8)

/-- the bytes of the frame behind its mark, and the bytes behind it -/
def frame? (bytes : Bytes) : Option (Bytes × Bytes) := do
  let (head, bytes) ← number? 1 bytes
  if head.testBit 3 then none
  let single := head.testBit 5
  let (window, bytes) ←
    if single then some (0, bytes) else (number? 1 bytes).map fun (b, rest) => (windowSize b, rest)
  let (dictionary, bytes) ← number? ([0, 1, 2, 4].getD (head % 4) 0) bytes
  let width := if head / 64 = 0 then (if single then 1 else 0) else Nat.pow 2 (head / 64)
  let (told, bytes) ← number? width bytes
  let size := if head / 64 = 1 then told + 256 else told
  let window := if single then size else window
  if dictionary ≠ 0 || window > largestWindow then none
  let (f, bytes) ← blocks? (min window mostBytes) .start (bytes.length + 1) bytes
  let content := f.out.toList
  if width ≠ 0 && content.length ≠ size then none
  if head.testBit 2 then
    let (check, bytes) ← number? 4 bytes
    if check = (checksum content).toNat % Nat.pow 2 32 then some (content, bytes) else none
  else some (content, bytes)

/-- the mark of a frame -/
def frameMark : Nat := 0xFD2FB528

/-- the least of sixteen marks of frames that are passed over -/
def passedMark : Nat := 0x184D2A50

/-- the bytes of all frames -/
def frames? : Nat → Bytes → Option Bytes
  | 0, _ => none
  | fuel + 1, bytes => do
    let (mark, rest) ← number? 4 bytes
    let (content, rest) ←
      if mark = frameMark then frame? rest
      else if mark / 16 = passedMark / 16 then do
        let (size, rest) ← number? 4 rest
        (take? size rest).map fun (_, rest) => ([], rest)
      else none
    if rest.isEmpty then some content else return content ++ (← frames? fuel rest)

/-- the bytes that the data stand for -/
def decompress? (data : Bytes) : Option Bytes := frames? (data.length + 1) data

end CodeSurvey.Zstandard
