/-
Literals of blocks.

A block starts with its literals: bytes as they are, one byte many times, or bytes in a prefix code. The code is told by
weights, of which the last one follows from the others, or it is the code of the block before. Packed literals are read
from the end of their bytes.
-/
import CodeSurvey.Archive.Record
import CodeSurvey.Archive.StateTable

namespace CodeSurvey.Zstandard

open Text Record

/-- bits that are read from the end: the highest bit that is set only marks where they start -/
def backward? (bytes : Bytes) : Option Bits :=
  match (Bits.highFirst bytes.reverse).dropWhile (!·) with
  | true :: bits => if bytes.getLast? = some 0 then none else some bits
  | _ => none

/-- a code of literals: what a number of `width` bits gives, a symbol and how many of the bits are its code -/
structure LiteralCode where
  width : Nat
  entries : Array (UInt8 × Nat)
  deriving Repr

/-- the longest code of a literal -/
def longest : Nat := 12

/-- what the weights sum up to: one has a share of one, and each weight more doubles it -/
def weightsTotal (weights : List Nat) : Nat :=
  weights.foldl (fun total w => total + if w = 0 then 0 else Nat.pow 2 (w - 1)) 0

/-- the weight that makes the sum a power of two -/
def lastWeight? (weights : List Nat) : Option Nat := do
  let total := weightsTotal weights
  let gap := Nat.pow 2 (total.log2 + 1) - total
  if total = 0 || Nat.pow 2 gap.log2 ≠ gap then none else some (gap.log2 + 1)

/-- the code whose symbols have the weights: a symbol of weight one has the longest code, and each weight more makes it
one bit shorter -/
def LiteralCode.ofWeights? (told : List Nat) : Option LiteralCode := do
  let weights := told ++ [← lastWeight? told]
  let width := (weightsTotal weights).log2
  let lightest := weights.count 1
  if width > longest || lightest < 2 || lightest % 2 = 1 then none
  let entries := (List.range width).flatMap fun i =>
    weights.zipIdx.flatMap fun (w, symbol) =>
      if w = i + 1 then List.replicate (Nat.pow 2 i) (UInt8.ofNat symbol, width - i) else []
  return ⟨width, entries.toArray⟩

/-- the symbols of two states in turn, up to the one that finds too few bits -/
def alternating (t : StateTable) (fuel : Nat) (a b : CodeState) (bits : Bits) : List Nat :=
  match fuel with
  | 0 => []
  | fuel + 1 =>
    match t.next? a bits with
    | some (next, bits) => a.symbol :: alternating t fuel b next bits
    | none => [a.symbol, b.symbol]

/-- most weights that are told -/
def mostWeights : Nat := 255

/-- the code that a block brings, and the bytes behind it -/
def literalCode? (bytes : Bytes) : Option (LiteralCode × Bytes) := do
  let (size, bytes) ← number? 1 bytes
  if size ≥ 128 then
    let count := size - 127
    let (front, rest) ← take? ((count + 1) / 2) bytes
    let weights := front.flatMap fun b => [b.toNat / 16, b.toNat % 16]
    return (← LiteralCode.ofWeights? (weights.take count), rest)
  else
    let (front, rest) ← take? size bytes
    let (table, stream) ← StateTable.read? 6 mostWeights front
    let bits ← backward? stream
    let (a, bits) ← table.start? bits
    let (b, bits) ← table.start? bits
    let weights := alternating table (mostWeights + 1) a b bits
    if weights.length > mostWeights then none
    return (← LiteralCode.ofWeights? weights, rest)

/-- `n` literals, which take all the bits; bits that are not there count as zeros as long as no code needs them -/
def LiteralCode.decode? (c : LiteralCode) : Nat → Bits → Bytes → Option Bytes
  | 0, bits, read => if bits.isEmpty then some read.reverse else none
  | n + 1, bits, read => do
    let front := bits.take c.width
    let (symbol, width) ← c.entries[Bits.highValue front * Nat.pow 2 (c.width - front.length)]?
    if width > front.length then none
    decode? c n (bits.drop width) (symbol :: read)

/-- `n` literals of one stream, or of four streams with the sizes of three of them in front -/
def LiteralCode.streams? (c : LiteralCode) (single : Bool) (n : Nat) (bytes : Bytes) : Option Bytes := do
  if single then c.decode? n (← backward? bytes) []
  else
    let (size1, bytes) ← number? 2 bytes
    let (size2, bytes) ← number? 2 bytes
    let (size3, bytes) ← number? 2 bytes
    let (stream1, bytes) ← take? size1 bytes
    let (stream2, bytes) ← take? size2 bytes
    let (stream3, stream4) ← take? size3 bytes
    let share := (n + 3) / 4
    if n < 6 || 3 * share > n then none
    let first ← [stream1, stream2, stream3].mapM fun stream => do c.decode? share (← backward? stream) []
    return first.flatten ++ (← c.decode? (n - 3 * share) (← backward? stream4) [])

/-- most bytes of a block -/
def mostBytes : Nat := 128 * 1024

/-- the literals that a block starts with, the code in force behind them, and the bytes behind them -/
def literals? (code : Option LiteralCode) (bytes : Bytes) : Option (Bytes × Option LiteralCode × Bytes) := do
  let (first, _) ← number? 1 bytes
  let kind := first % 4
  let form := first / 4 % 4
  if kind < 2 then
    let (size, bytes) ←
      if form = 1 then (number? 2 bytes).map fun (n, rest) => (n / 16, rest)
      else if form = 3 then (number? 3 bytes).map fun (n, rest) => (n / 16, rest)
      else (number? 1 bytes).map fun (n, rest) => (n / 8, rest)
    if size > mostBytes then none
    else if kind = 0 then
      let (front, rest) ← take? size bytes
      return (front, code, rest)
    else
      match bytes with
      | b :: rest => some (List.replicate size b, code, rest)
      | [] => none
  else
    let width := if form < 2 then 10 else if form = 2 then 14 else 18
    let (n, bytes) ← number? (if form < 2 then 3 else if form = 2 then 4 else 5) bytes
    let size := n / 16 % Nat.pow 2 width
    let (packed, rest) ← take? (n / 16 / Nat.pow 2 width) bytes
    let (code, stream) ← if kind = 2 then literalCode? packed else code.map (·, packed)
    if size > mostBytes then none
    return (← code.streams? (form = 0) size stream, some code, rest)

end CodeSurvey.Zstandard
