/-
Characters that differ in case alone.

Case folding sends a character to the representative of its case variants: its lower-case image, but for the characters
of `foldRows`. An orbit holds all characters with one representative. `CharSet.folded` adds to a set the orbits of its
members, so that a folded set holds a character if and only if it holds the character's case variants.
-/
import CodeSurvey.Text.Case

namespace CodeSurvey.Text

/-- characters whose folding is not their lower-case image -/
def foldRows : List Shift := [
  (0xB5, 0xB5, 1, 0x3BC), (0x17F, 0x17F, 1, 0x73), (0x345, 0x345, 1, 0x3B9), (0x3C2, 0x3C2, 1, 0x3C3),
  (0x3D0, 0x3D0, 1, 0x3B2), (0x3D1, 0x3D1, 1, 0x3B8), (0x3D5, 0x3D5, 1, 0x3C6), (0x3D6, 0x3D6, 1, 0x3C0),
  (0x3F0, 0x3F0, 1, 0x3BA), (0x3F1, 0x3F1, 1, 0x3C1), (0x3F5, 0x3F5, 1, 0x3B5), (0x13A0, 0x13F5, 1, 0x13A0),
  (0x13F8, 0x13FD, 1, 0x13F0), (0x1C80, 0x1C80, 1, 0x432), (0x1C81, 0x1C81, 1, 0x434),
  (0x1C82, 0x1C82, 1, 0x43E), (0x1C83, 0x1C84, 1, 0x441), (0x1C85, 0x1C85, 1, 0x442),
  (0x1C86, 0x1C86, 1, 0x44A), (0x1C87, 0x1C87, 1, 0x463), (0x1C88, 0x1C88, 1, 0xA64B),
  (0x1E9B, 0x1E9B, 1, 0x1E61), (0x1FBE, 0x1FBE, 1, 0x3B9), (0x1FD3, 0x1FD3, 1, 0x390),
  (0x1FE3, 0x1FE3, 1, 0x3B0), (0xAB70, 0xABBF, 1, 0x13A0), (0xFB05, 0xFB05, 1, 0xFB06)]

/-- the code points of a row and their images -/
def Shift.pairs (row : Shift) : List (Nat × Nat) :=
  (List.range ((row.2.1 - row.1) / row.2.2.1 + 1)).map fun k =>
    (row.1 + k * row.2.2.1, row.2.2.2 + k * row.2.2.1)

/-- the code points that folding changes, and their images -/
def foldPairs : List (Nat × Nat) :=
  let own := foldRows.flatMap Shift.pairs
  let lower := (((0x41, 0x5A, 1, 0x61) : Shift) :: lowerRows).flatMap Shift.pairs
  (own ++ lower.filter fun p => (shift foldRows p.1).isNone).filter fun p => p.1 != p.2

/-- pairs in ascending order of their images, as images with all their sources -/
def gather (pairs : List (Nat × Nat)) : List (Nat × List Nat) :=
  pairs.foldr (fun p groups =>
    match groups with
    | (image, sources) :: rest =>
      if image = p.2 then (image, p.1 :: sources) :: rest else (p.2, [p.1]) :: groups
    | [] => [(p.2, [p.1])]) []

/-- every code point that has case variants, in ascending order, with its orbit -/
def orbits : List (Nat × List Nat) :=
  let groups := gather (foldPairs.mergeSort fun p q => p.2 ≤ q.2)
  (groups.flatMap fun g => (g.1 :: g.2).map fun n => (n, g.1 :: g.2)).mergeSort fun p q => p.1 ≤ q.1

namespace CharSet

/-- the code points in the orbits of members of ascending ranges -/
def variants : List (Nat × List Nat) → List (Nat × Nat) → List Nat
  | [], _ => []
  | _ :: _, [] => []
  | o :: os, r :: rs =>
    if o.1 < r.1 then variants os (r :: rs)
    else if r.2 < o.1 then variants (o :: os) rs
    else o.2 ++ variants os (r :: rs)
termination_by os rs => os.length + rs.length

/-- the set with all case variants of its members -/
def folded (s : CharSet) : CharSet :=
  match variants orbits s.ranges with
  | [] => s
  | ns => ofRanges (s.ranges ++ ns.map fun n => (n, n))

/-- the set with the other case of its ASCII letters -/
def foldedAscii (s : CharSet) : CharSet :=
  let upper := (s.inter (span 'A' 'Z')).ranges.map fun r => (r.1 + 32, r.2 + 32)
  let lower := (s.inter (span 'a' 'z')).ranges.map fun r => (r.1 - 32, r.2 - 32)
  ofRanges (s.ranges ++ upper ++ lower)

end CharSet

end CodeSurvey.Text
