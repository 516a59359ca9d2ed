/-
Bits of packed data.

Packed data is read bit by bit. Within a byte the lowest bit may come first or the highest one, and a number may have
its lowest or its highest bit in front; a format says which. What is read is a value with the bits behind it, and none
where there are not enough bits.
-/
import CodeSurvey.Text.Utf8

namespace CodeSurvey

open Text

/-- bits in the order in which they are read -/
abbrev Bits := List Bool

namespace Bits

/-- the bits of a byte, the lowest first -/
def ofByte (b : UInt8) : Bits := (List.range 8).map b.toNat.testBit

/-- the bits of bytes, the lowest of each byte first -/
def lowFirst (bytes : Bytes) : Bits := bytes.flatMap ofByte

/-- the bits of bytes, the highest of each byte first -/
def highFirst (bytes : Bytes) : Bits := bytes.flatMap fun b => (ofByte b).reverse

/-- the first `n` bits and those behind them -/
def take? (n : Nat) (bits : Bits) : Option (Bits × Bits) :=
  if (bits.take n).length = n then some (bits.take n, bits.drop n) else none

/-- the number whose lowest bit comes first -/
def lowValue (bits : Bits) : Nat := bits.foldr (fun b v => b.toNat + 2 * v) 0

/-- the number whose highest bit comes first -/
def highValue (bits : Bits) : Nat := bits.foldl (fun v b => 2 * v + b.toNat) 0

/-- a number of `n` bits, the lowest first -/
def low? (n : Nat) (bits : Bits) : Option (Nat × Bits) := (take? n bits).map fun (front, rest) => (lowValue front, rest)

/-- a number of `n` bits, the highest first -/
def high? (n : Nat) (bits : Bits) : Option (Nat × Bits) :=
  (take? n bits).map fun (front, rest) => (highValue front, rest)

end Bits

end CodeSurvey
