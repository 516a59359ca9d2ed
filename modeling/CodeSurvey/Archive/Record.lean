/-
Records of bytes.

A record holds numbers of some bytes each, the lowest byte first. A reader takes them from the front, or looks at one at
a known place.
-/
import CodeSurvey.Text.Utf8

namespace CodeSurvey.Record

open Text

/-- the number that bytes write, the lowest first -/
def littleEndian (bytes : Bytes) : Nat := bytes.foldr (fun b n => b.toNat + 256 * n) 0

/-- the first `n` bytes and those behind them -/
def take? (n : Nat) (bytes : Bytes) : Option (Bytes × Bytes) :=
  if (bytes.take n).length = n then some (bytes.take n, bytes.drop n) else none

/-- a number of `n` bytes in front, and the bytes behind it -/
def number? (n : Nat) (bytes : Bytes) : Option (Nat × Bytes) :=
  (take? n bytes).map fun (front, rest) => (littleEndian front, rest)

/-- a number of `n` bytes at a place; bytes that are not there count as zero -/
def numberAt (bytes : Bytes) (place n : Nat) : Nat := littleEndian ((bytes.drop place).take n)

end CodeSurvey.Record
