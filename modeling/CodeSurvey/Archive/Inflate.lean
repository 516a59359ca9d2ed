/-
Deflated data.

Deflated data is a row of blocks of bits. A block holds bytes as they are, or symbols in a prefix code: a literal
byte, the end of the block, or a length and a distance that copy from what was written before; zeros count as written
before the first byte. `inflate?` gives the bytes, and none where the blocks break a rule or end too early.
-/
import CodeSurvey.Archive.PrefixCode

namespace CodeSurvey.Inflate

open Text

/-- for each length symbol the least length and the number of further bits -/
def lengthRows : List (Nat × Nat) :=
  [(3, 0), (4, 0), (5, 0), (6, 0), (7, 0), (8, 0), (9, 0), (10, 0), (11, 1), (13, 1), (15, 1), (17, 1), (19, 2),
    (23, 2), (27, 2), (31, 2), (35, 3), (43, 3), (51, 3), (59, 3), (67, 4), (83, 4), (99, 4), (115, 4), (131, 5),
    (163, 5), (195, 5), (227, 5), (258, 0)]

/-- for each distance symbol the least distance and the number of further bits -/
def distanceRows : List (Nat × Nat) :=
  [(1, 0), (2, 0), (3, 0), (4, 0), (5, 1), (7, 1), (9, 2), (13, 2), (17, 3), (25, 3), (33, 4), (49, 4), (65, 5),
    (97, 5), (129, 6), (193, 6), (257, 7), (385, 7), (513, 8), (769, 8), (1025, 9), (1537, 9), (2049, 10), (3073, 10),
    (4097, 11), (6145, 11), (8193, 12), (12289, 12), (16385, 13), (24577, 13)]

/-- the value of a row's symbol with its further bits -/
def rowValue? (rows : List (Nat × Nat)) (i : Nat) (bits : Bits) : Option (Nat × Bits) := do
  let (least, more) ← rows[i]?
  let (v, rest) ← Bits.low? more bits
  return (least + v, rest)

/-- what was written so far -/
abbrev Output := Array UInt8

/-- the output with `n` more bytes from a distance back -/
def copyBack (distance : Nat) : Nat → Output → Output
  | 0, out => out
  | n + 1, out => copyBack distance n (out.push (if distance ≤ out.size then out.getD (out.size - distance) 0 else 0))

/-- the symbols of a block up to its end; every symbol takes a bit, so `fuel` need not pass the number of bits -/
def symbols? (literals distances : PrefixCode) : Nat → Bits → Output → Option (Bits × Output)
  | 0, _, _ => none
  | fuel + 1, bits, out => do
    let (symbol, bits) ← literals.decode? bits
    if symbol < 256 then symbols? literals distances fuel bits (out.push (UInt8.ofNat symbol))
    else if symbol = 256 then some (bits, out)
    else
      let (length, bits) ← rowValue? lengthRows (symbol - 257) bits
      let (row, bits) ← distances.decode? bits
      let (distance, bits) ← rowValue? distanceRows row bits
      symbols? literals distances fuel bits (copyBack distance length out)

/-- the code of literals where a block brings none -/
def fixedLiterals : PrefixCode :=
  .ofLengths 15 (List.replicate 144 8 ++ List.replicate 112 9 ++ List.replicate 24 7 ++ List.replicate 8 8)

/-- the code of distances where a block brings none -/
def fixedDistances : PrefixCode := .ofLengths 15 (List.replicate 30 5)

/-- the order in which the lengths of the first code are written -/
def lengthOrder : List Nat := [16, 17, 18, 0, 8, 7, 9, 6, 10, 5, 11, 4, 12, 3, 13, 2, 14, 1, 15]

/-- `n` numbers of three bits -/
def threes? : Nat → Bits → Option (List Nat × Bits)
  | 0, bits => some ([], bits)
  | n + 1, bits => do
    let (v, bits) ← Bits.low? 3 bits
    let (vs, bits) ← threes? n bits
    return (v :: vs, bits)

/-- code lengths until there are `total`, last one first; repetitions are written in short -/
def lengths? (code : PrefixCode) (total : Nat) : Nat → Bits → List Nat → Option (List Nat × Bits)
  | 0, _, _ => none
  | fuel + 1, bits, read =>
    if read.length = total then some (read, bits)
    else if read.length > total then none
    else do
      let (symbol, bits) ← code.decode? bits
      if symbol < 16 then lengths? code total fuel bits (symbol :: read)
      else
        let (width, least) := if symbol = 16 then (2, 3) else if symbol = 17 then (3, 3) else (7, 11)
        let (v, bits) ← Bits.low? width bits
        let image ← if symbol = 16 then read.head? else some 0
        lengths? code total fuel bits (List.replicate (least + v) image ++ read)

/-- what a block may bring as a code: it leaves no value without a symbol, unless it has nothing but one code of one bit
at most -/
def isSound (c : PrefixCode) : Bool := c.isComplete || (c.used ≤ 1 && c.used = c.counts.headD 0)

/-- how many symbols literals and distances may have -/
def mostLiterals : Nat := 286

def mostDistances : Nat := 30

/-- the two codes that a block brings -/
def codes? (bits : Bits) : Option (PrefixCode × PrefixCode × Bits) := do
  let (more, bits) ← Bits.low? 5 bits
  let literals := more + 257
  let (more, bits) ← Bits.low? 5 bits
  let distances := more + 1
  let (first, bits) ← Bits.low? 4 bits
  let (written, bits) ← threes? (first + 4) bits
  let table := lengthOrder.zip written
  let code := PrefixCode.ofLengths 7 ((List.range 19).map fun i => (table.lookup i).getD 0)
  if literals > mostLiterals || distances > mostDistances || !code.isComplete then none
  let (reversed, bits) ← lengths? code (literals + distances) (bits.length + 1) bits []
  let lengths := reversed.reverse
  let codes := (PrefixCode.ofLengths 15 (lengths.take literals), PrefixCode.ofLengths 15 (lengths.drop literals))
  if isSound codes.1 && isSound codes.2 then some (codes.1, codes.2, bits) else none

/-- `n` bytes as they are -/
def plain? : Nat → Bits → Output → Option (Bits × Output)
  | 0, bits, out => some (bits, out)
  | n + 1, bits, out => do
    let (v, bits) ← Bits.low? 8 bits
    plain? n bits (out.push (UInt8.ofNat v))

/-- the block after its first three bits -/
def block? (kind : Nat) (bits : Bits) (out : Output) : Option (Bits × Output) :=
  match kind with
  | 0 => do
    let (n, bits) ← Bits.low? 16 (bits.drop (bits.length % 8))
    let (check, bits) ← Bits.low? 16 bits
    if n + check = 65535 then plain? n bits out else none
  | 1 => symbols? fixedLiterals fixedDistances (bits.length + 1) bits out
  | 2 => do
    let (literals, distances, bits) ← codes? bits
    symbols? literals distances (bits.length + 1) bits out
  | _ => none

/-- the blocks up to the last one -/
def blocks? : Nat → Bits → Output → Option Output
  | 0, _, _ => none
  | fuel + 1, bits, out => do
    let (last, bits) ← Bits.low? 1 bits
    let (kind, bits) ← Bits.low? 2 bits
    let (bits, out) ← block? kind bits out
    if last = 1 then some out else blocks? fuel bits out

/-- the bytes that deflated data stands for -/
def inflate? (data : Bytes) : Option Bytes :=
  let bits := Bits.lowFirst data
  (blocks? (bits.length + 1) bits #[]).map Array.toList

end CodeSurvey.Inflate
