/-
Sequences of blocks.

A sequence takes some literals of its block, goes back some distance in what was written and copies from there. Its
three numbers are states of three tables with further bits. Small offsets mean one of the last distances again.
-/
import CodeSurvey.Archive.Zstandard.Literal

namespace CodeSurvey.Zstandard

open Text Record

/-- what a block copies: literals first, then a match -/
structure Sequence where
  literals : Nat
  length : Nat
  /-- a distance, or which of the last distances counts again -/
  offset : Nat
  deriving DecidableEq, Repr

/-- for each symbol the least number and the number of further bits -/
def literalRows : List (Nat × Nat) :=
  (List.range 16).map (·, 0)
    ++ [(16, 1), (18, 1), (20, 1), (22, 1), (24, 2), (28, 2), (32, 3), (40, 3), (48, 4), (64, 6), (128, 7), (256, 8),
      (512, 9), (1024, 10), (2048, 11), (4096, 12), (8192, 13), (16384, 14), (32768, 15), (65536, 16)]

/-- the same for the lengths of matches -/
def copyRows : List (Nat × Nat) :=
  (List.range 32).map (fun n => (n + 3, 0))
    ++ [(35, 1), (37, 1), (39, 1), (41, 1), (43, 2), (47, 2), (51, 3), (59, 3), (67, 4), (83, 4), (99, 5), (131, 7),
      (259, 8), (515, 9), (1027, 10), (2051, 11), (4099, 12), (8195, 13), (16387, 14), (32771, 15), (65539, 16)]

/-- the same for offsets -/
def offsetRows : List (Nat × Nat) := (List.range 32).map fun n => (Nat.pow 2 n, n)

/-- how one of the three numbers of sequences is written -/
structure Field where
  rows : List (Nat × Nat)
  /-- how wide a table may be -/
  widest : Nat
  /-- the table that holds where a block tells none -/
  standard : StateTable

/-- shares of so many states, where a zero stands for the least share -/
def sharesOf (sizes : List Nat) : List Share := sizes.map fun n => if n = 0 then .least else .states n

def literalField : Field where
  rows := literalRows
  widest := 9
  standard := .ofShares 6 (sharesOf
    [4, 3, 2, 2, 2, 2, 2, 2, 2, 2, 2, 2, 2, 1, 1, 1, 2, 2, 2, 2, 2, 2, 2, 2, 2, 3, 2, 1, 1, 1, 1, 1, 0, 0, 0, 0])

def offsetField : Field where
  rows := offsetRows
  widest := 8
  standard := .ofShares 5 (sharesOf ([1, 1, 1, 1, 1, 1, 2, 2, 2] ++ List.replicate 15 1 ++ List.replicate 5 0))

def copyField : Field where
  rows := copyRows
  widest := 9
  standard := .ofShares 6 (sharesOf
    ([1, 4, 3, 2, 2, 2, 2, 2, 2] ++ List.replicate 37 1 ++ List.replicate 7 0))

/-- the table of a field in a block, and the bytes behind it -/
def table? (f : Field) (mode : Nat) (before : Option StateTable) (bytes : Bytes) : Option (StateTable × Bytes) :=
  match mode with
  | 0 => some (f.standard, bytes)
  | 1 => do
    let (symbol, rest) ← number? 1 bytes
    if symbol < f.rows.length then some (.constant symbol, rest) else none
  | 2 => StateTable.read? f.widest f.rows.length bytes
  | _ => before.map (·, bytes)

/-- the number that a state gives with its further bits -/
def value? (f : Field) (s : CodeState) (bits : Bits) : Option (Nat × Bits) := do
  let (least, width) ← f.rows[s.symbol]?
  let (n, rest) ← Bits.high? width bits
  return (least + n, rest)

/-- the tables of a frame so far: of literals, offsets and matches -/
structure Tables where
  literal : StateTable
  offset : StateTable
  copy : StateTable

/-- `n` sequences, which take all the bits, from states of the three tables -/
def sequences? (t : Tables) (literal offset copy : CodeState) : Nat → Bits → Option (List Sequence)
  | 0, bits => if bits.isEmpty then some [] else none
  | n + 1, bits => do
    let (distance, bits) ← value? offsetField offset bits
    let (length, bits) ← value? copyField copy bits
    let (literals, bits) ← value? literalField literal bits
    if n = 0 then
      if bits.isEmpty then some [⟨literals, length, distance⟩] else none
    else
      let (literal, bits) ← t.literal.next? literal bits
      let (copy, bits) ← t.copy.next? copy bits
      let (offset, bits) ← t.offset.next? offset bits
      return ⟨literals, length, distance⟩ :: (← sequences? t literal offset copy n bits)

/-- how many sequences a block has, and the bytes behind that number -/
def sequenceCount? (bytes : Bytes) : Option (Nat × Bytes) := do
  let (first, rest) ← number? 1 bytes
  if first < 128 then some (first, rest)
  else if first < 255 then (number? 1 rest).map fun (n, rest) => ((first - 128) * 256 + n, rest)
  else (number? 2 rest).map fun (n, rest) => (n + 0x7F00, rest)

/-- the sequences of a block, and the tables in force behind them -/
def blockSequences? (tables : Option Tables) (bytes : Bytes) : Option (List Sequence × Option Tables) := do
  let (count, bytes) ← sequenceCount? bytes
  if count = 0 then
    if bytes.isEmpty then some ([], tables) else none
  else
    let (modes, bytes) ← number? 1 bytes
    if modes % 4 ≠ 0 then none
    let (literal, bytes) ← table? literalField (modes / 64) (tables.map (·.literal)) bytes
    let (offset, bytes) ← table? offsetField (modes / 16 % 4) (tables.map (·.offset)) bytes
    let (copy, bytes) ← table? copyField (modes / 4 % 4) (tables.map (·.copy)) bytes
    let tables : Tables := ⟨literal, offset, copy⟩
    let bits ← backward? bytes
    let (first, bits) ← literal.start? bits
    let (second, bits) ← offset.start? bits
    let (third, bits) ← copy.start? bits
    return (← sequences? tables first second third count bits, some tables)

/-- the distance that an offset means, and the last distances behind it -/
def distance? (recent : List Nat) (literals offset : Nat) : Option (Nat × List Nat) :=
  if offset > 3 then some (offset - 3, (offset - 3) :: recent.take 2)
  else do
    let place := if literals = 0 then offset else offset - 1
    let distance ← if place = 3 then (recent.head?).map (· - 1) else recent[place]?
    if distance = 0 then none
    return (distance, distance :: (if place = 0 then recent.drop 1 else (recent.eraseIdx place).take 2))

/-- the output with `n` more bytes from a distance back -/
def copyBack? (distance : Nat) : Nat → Array UInt8 → Option (Array UInt8)
  | 0, out => some out
  | n + 1, out => if distance ≤ out.size then copyBack? distance n (out.push (out.getD (out.size - distance) 0)) else none

/-- the output with the literals and copies of sequences, and the last distances behind them; all literals are taken -/
def execute? : List Sequence → Bytes → List Nat → Array UInt8 → Option (Array UInt8 × List Nat)
  | [], literals, recent, out => some (out ++ literals, recent)
  | s :: more, literals, recent, out => do
    let (front, literals) ← take? s.literals literals
    let (distance, recent) ← distance? recent s.literals s.offset
    execute? more literals recent (← copyBack? distance s.length (out ++ front))

end CodeSurvey.Zstandard
