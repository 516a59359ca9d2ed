/-
Sets of characters.

A set is a list of ranges of code points, in ascending order, apart from one another and clear of surrogates, which are
no characters. `ofRanges` brings any ranges into that form, and the set operations go through it. A table of characters
is written as text: `41-5A` is a range, `41` one code point, and `100~136` every second code point of a range.
-/

namespace CodeSurvey.Text

/-- ranges of code points in ascending order, apart from one another and clear of surrogates -/
structure CharSet where
  ranges : List (Nat × Nat)
  deriving DecidableEq, Repr, Inhabited

namespace CharSet

/-- the parts of a range below and above the surrogates -/
def clip (r : Nat × Nat) : List (Nat × Nat) :=
  [(r.1, min r.2 0xD7FF), (max r.1 0xE000, min r.2 0x10FFFF)].filter fun p => p.1 ≤ p.2

/-- joins neighbours that touch or overlap, in a list that ascends by first code points -/
def fuse : List (Nat × Nat) → List (Nat × Nat)
  | [] => []
  | [r] => [r]
  | r :: s :: rest => if s.1 ≤ r.2 + 1 then fuse ((r.1, max r.2 s.2) :: rest) else r :: fuse (s :: rest)
termination_by rs => rs.length

/-- the code points of any ranges -/
def ofRanges (rs : List (Nat × Nat)) : CharSet :=
  ⟨fuse ((rs.flatMap clip).mergeSort fun r s => r.1 ≤ s.1)⟩

/-- no character -/
def none : CharSet := ⟨[]⟩

/-- one character -/
def single (c : Char) : CharSet := ofRanges [(c.toNat, c.toNat)]

/-- the characters from one to another -/
def span (a b : Char) : CharSet := ofRanges [(a.toNat, b.toNat)]

/-- the characters of a text -/
def ofText (s : String) : CharSet := ofRanges (s.toList.map fun c => (c.toNat, c.toNat))

/-- the set holds the character -/
def contains (s : CharSet) (c : Char) : Bool :=
  s.ranges.any fun r => r.1 ≤ c.toNat && c.toNat ≤ r.2

/-- in one of two sets -/
def union (s t : CharSet) : CharSet := ofRanges (s.ranges ++ t.ranges)

/-- in one of several sets -/
def unions (ss : List CharSet) : CharSet := ofRanges (ss.flatMap ranges)

/-- the code points from `start` on that lie outside ascending ranges -/
def gaps (start : Nat) : List (Nat × Nat) → List (Nat × Nat)
  | [] => [(start, 0x10FFFF)]
  | r :: rest => if start < r.1 then (start, r.1 - 1) :: gaps (r.2 + 1) rest else gaps (r.2 + 1) rest

/-- all other characters -/
def complement (s : CharSet) : CharSet := ofRanges (gaps 0 s.ranges)

/-- in both sets -/
def inter (s t : CharSet) : CharSet := (s.complement.union t.complement).complement

/-- in the first set only -/
def without (s t : CharSet) : CharSet := (s.complement.union t).complement

/-- in exactly one of two sets -/
def oneOnly (s t : CharSet) : CharSet := (s.without t).union (t.without s)

/-- every character -/
def all : CharSet := none.complement

/-- the set of no character -/
def isNone (s : CharSet) : Bool := s.ranges.isEmpty

/-- the set holds ASCII characters only -/
def isAscii (s : CharSet) : Bool := s.ranges.all fun r => r.2 < 128

/-- the character of a set of one -/
def single? (s : CharSet) : Option Char :=
  match s.ranges with
  | [r] => if r.1 = r.2 then some (Char.ofNat r.1) else Option.none
  | _ => Option.none

/-! ## Tables -/

/-- the value of a hexadecimal digit in upper case -/
def digitValue (c : Char) : Nat :=
  if c ≤ '9' then c.toNat - 48 else c.toNat - 55

/-- the ranges of one entry: its last code point, and its first one with the step where it has two -/
def entry (opened : Option (Nat × Nat)) (last : Nat) : List (Nat × Nat) :=
  match opened with
  | Option.none => [(last, last)]
  | some (first, 1) => [(first, last)]
  | some (first, step) => (List.range ((last - first) / step + 1)).map fun k => (first + k * step, first + k * step)

/-- the ranges of the entries of a line, after `opened` and the digits read so far -/
def entries (opened : Option (Nat × Nat)) (digits : Nat) : List Char → List (Nat × Nat)
  | [] => entry opened digits
  | c :: cs =>
    if c == ' ' then entry opened digits ++ entries Option.none 0 cs
    else if c == '-' then entries (some (digits, 1)) 0 cs
    else if c == '~' then entries (some (digits, 2)) 0 cs
    else entries opened (16 * digits + digitValue c) cs

/-- the set that the lines of a table write -/
def table (lines : List String) : CharSet :=
  ofRanges (lines.flatMap fun line => entries Option.none 0 line.toList)

/-! ## Membership -/

theorem contains_mk (rs : List (Nat × Nat)) (c : Char) :
    (CharSet.mk rs).contains c = rs.any fun r => r.1 ≤ c.toNat && c.toNat ≤ r.2 := rfl

theorem any_clip (n : Nat) (h : n < 0xD800 ∨ (0xE000 ≤ n ∧ n ≤ 0x10FFFF)) (r : Nat × Nat) :
    ((clip r).any fun p => p.1 ≤ n && n ≤ p.2) = (r.1 ≤ n && n ≤ r.2) := by
  rw [Bool.eq_iff_iff]
  simp only [clip, List.any_filter, List.any_cons, List.any_nil, Bool.or_false, Bool.and_eq_true, Bool.or_eq_true,
    decide_eq_true_eq]
  omega

theorem any_fuse (n : Nat) (rs : List (Nat × Nat)) (h : rs.Pairwise fun r s => r.1 ≤ s.1) :
    ((fuse rs).any fun p => p.1 ≤ n && n ≤ p.2) = rs.any fun p => p.1 ≤ n && n ≤ p.2 := by
  induction rs using fuse.induct with
  | case1 => simp [fuse]
  | case2 r => simp [fuse]
  | case3 r s rest hle ih =>
    have hr : r.1 ≤ s.1 := (List.pairwise_cons.1 h).1 s (by simp)
    have hrest : ((r.1, max r.2 s.2) :: rest).Pairwise fun r s => r.1 ≤ s.1 := by
      refine List.pairwise_cons.2 ⟨fun t ht => ?_, (List.pairwise_cons.1 (List.pairwise_cons.1 h).2).2⟩
      exact (List.pairwise_cons.1 h).1 t (by simp [ht])
    rw [fuse, if_pos hle, ih hrest]
    rw [Bool.eq_iff_iff]
    simp only [List.any_cons, Bool.or_eq_true, Bool.and_eq_true, decide_eq_true_eq]
    constructor
    · rintro (⟨h1, h2⟩ | h')
      · by_cases hn : n ≤ r.2
        · exact .inl ⟨h1, hn⟩
        · exact .inr (.inl (by omega))
      · exact .inr (.inr h')
    · rintro (⟨h1, h2⟩ | ⟨h1, h2⟩ | h')
      · exact .inl (by omega)
      · exact .inl (by omega)
      · exact .inr h'
  | case4 r s rest hle ih =>
    rw [fuse, if_neg hle, List.any_cons, ih (List.pairwise_cons.1 h).2]
    rfl

/-- Bringing ranges into order loses and adds no character. -/
theorem contains_ofRanges (rs : List (Nat × Nat)) (c : Char) :
    (ofRanges rs).contains c = rs.any fun r => r.1 ≤ c.toNat && c.toNat ≤ r.2 := by
  have hsorted : ((rs.flatMap clip).mergeSort fun r s => r.1 ≤ s.1).Pairwise fun r s => r.1 ≤ s.1 := by
    have h := @List.pairwise_mergeSort _ (fun r s : Nat × Nat => decide (r.1 ≤ s.1))
      (fun a b c hab hbc => by simp only [decide_eq_true_eq] at *; omega)
      (fun a b => by simp only [Bool.or_eq_true, decide_eq_true_eq]; omega) (rs.flatMap clip)
    exact h.imp fun h => by simpa using h
  have hc : c.toNat < 0xD800 ∨ (0xE000 ≤ c.toNat ∧ c.toNat ≤ 0x10FFFF) := by
    have h : c.toNat < 0xD800 ∨ (0xDFFF < c.toNat ∧ c.toNat < 0x110000) := c.valid
    omega
  rw [ofRanges, contains_mk, any_fuse _ _ hsorted, (List.mergeSort_perm _ _).any_eq, List.any_flatMap]
  simp only [any_clip _ hc]

/-- A union holds what either set holds. -/
theorem contains_union (s t : CharSet) (c : Char) : (s.union t).contains c = (s.contains c || t.contains c) := by
  rw [union, contains_ofRanges, List.any_append]
  rfl

end CharSet

end CodeSurvey.Text
