/-
Prefix codes that are told by the lengths of their codes.

Codes of one length follow one another in the order of their symbols, and those of a greater length come behind them.
So a code is known by how many symbols have each length. `decode?` gives the symbol that stands in front of bits; it
needs no table of codes, because the codes of a length that start a value are those below a bound.
-/
import CodeSurvey.Archive.Bits

namespace CodeSurvey

/-- a prefix code -/
structure PrefixCode where
  /-- how many symbols have a code of length one, of length two and so on -/
  counts : List Nat
  /-- the symbols in the order of their codes -/
  symbols : Array Nat
  deriving Repr

namespace PrefixCode

/-- the code whose symbols have the given lengths, at most `longest`; a symbol of length zero has no code -/
def ofLengths (longest : Nat) (lengths : List Nat) : PrefixCode :=
  let sizes := (List.range longest).map (· + 1)
  let symbols := fun n => (List.range lengths.length).filter fun i => lengths[i]? == some n
  ⟨sizes.map lengths.count, (sizes.flatMap symbols).toArray⟩

/-- how many symbols have a code -/
def used (c : PrefixCode) : Nat := c.counts.foldl (· + ·) 0

/-- all values of as many bits as the longest code has are taken, each by one code -/
def isComplete (c : PrefixCode) : Bool := c.counts.foldl (fun total n => 2 * (total + n)) 0 = Nat.pow 2 (c.counts.length + 1)

/-- the place among the symbols of the code in front: `code` are the bits read, `first` is the first code of the next
length without its last bit, and `index` symbols have shorter codes -/
def place? (code first index : Nat) : List Nat → Bits → Option (Nat × Bits)
  | [], _ => none
  | _, [] => none
  | count :: counts, b :: bits =>
    let code := 2 * code + b.toNat
    let first := 2 * first
    if code < first + count then some (index + (code - first), bits)
    else place? code (first + count) (index + count) counts bits

/-- the symbol whose code stands in front -/
def decode? (c : PrefixCode) (bits : Bits) : Option (Nat × Bits) := do
  let (place, rest) ← place? 0 0 0 c.counts bits
  return (← c.symbols[place]?, rest)

end PrefixCode

end CodeSurvey
