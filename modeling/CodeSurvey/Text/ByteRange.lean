/-
Sets of characters as rows of byte ranges.

A row stands for the UTF-8 forms that take one byte from each of its ranges. `CharSet.byteRows` lists the rows of a set
in ascending order: a range of characters is cut where the length of the form changes and where a leading byte takes
only a part of what may follow it.
-/
import CodeSurvey.Text.CharSet

namespace CodeSurvey.Text

/-- a range of bytes -/
abbrev ByteRange := Nat × Nat

/-- the rows of the values from `a` to `b`, written as a leading byte over `lead` with `tail` continuation bytes -/
def splitRows (lead : Nat) : (tail : Nat) → (a b : Nat) → List (List ByteRange)
  | 0, a, b => [[(lead + a, lead + b)]]
  | tail + 1, a, b =>
    let unit := 64 ^ (tail + 1)
    let x := a / unit
    let y := b / unit
    let under := fun (n low high : Nat) => (splitRows 0x80 tail low high).map ((lead + n, lead + n) :: ·)
    if x = y then under x (a % unit) (b % unit)
    else
      let low := if a % unit = 0 then x else x + 1
      let high := if b % unit = unit - 1 then y + 1 else y
      (if low = x then [] else under x (a % unit) (unit - 1))
        ++ (if low < high then [(lead + low, lead + high - 1) :: List.replicate (tail + 1) (0x80, 0xBF)] else [])
        ++ (if high = y then under y 0 (b % unit) else [])

/-- the code points of each length: the first, the last, what the leading byte stands over and the bytes that follow -/
def lengthBlocks : List (Nat × Nat × Nat × Nat) :=
  [(0, 0x7F, 0, 0), (0x80, 0x7FF, 0xC0, 1), (0x800, 0xFFFF, 0xE0, 2), (0x10000, 0x10FFFF, 0xF0, 3)]

/-- the rows of a range of code points -/
def rangeRows (r : Nat × Nat) : List (List ByteRange) :=
  lengthBlocks.flatMap fun (first, last, lead, tail) =>
    if max r.1 first ≤ min r.2 last then splitRows lead tail (max r.1 first) (min r.2 last) else []

/-- the rows of a set -/
def CharSet.byteRows (s : CharSet) : List (List ByteRange) := s.ranges.flatMap rangeRows

end CodeSurvey.Text
