/-
Blanks against word characters.

Beyond ASCII both classes are tables, written as text. `entries_eq` says which ranges a line of a table writes by the
code points of its characters, a form that evaluates fast, and `Clear` compares them with given ranges: the characters
of those are then in no such table (`contains_of_clear`). Main statement: a blank is no word character
(`isWord_of_isBlank`), hence a word ends where a blank begins.
-/
import CodeSurvey.Text.Letter

namespace CodeSurvey.Text

namespace CharSet

theorem contains_unions (ss : List CharSet) (c : Char) : (unions ss).contains c = ss.any (·.contains c) := by
  rw [unions, contains_ofRanges, List.any_flatMap]
  rfl

/-- the ranges that the rest of a line of a table writes, by code points -/
def entriesOf (opened : Option (Nat × Nat)) (digits : Nat) : List Nat → List (Nat × Nat)
  | [] => entry opened digits
  | n :: ns =>
    bif n.beq 32 then entry opened digits ++ entriesOf Option.none 0 ns
    else bif n.beq 45 then entriesOf (some (digits, 1)) 0 ns
    else bif n.beq 126 then entriesOf (some (digits, 2)) 0 ns
    else entriesOf opened (16 * digits + bif n.ble 57 then n - 48 else n - 55) ns

theorem beq_eq_toNat (c d : Char) : (c == d) = c.toNat.beq d.toNat := by
  rw [Bool.eq_iff_iff, beq_iff_eq, Nat.beq_eq, ← Char.toNat_inj]

theorem digitValue_eq (c : Char) : digitValue c = bif c.toNat.ble 57 then c.toNat - 48 else c.toNat - 55 := by
  have hle : c ≤ '9' ↔ c.toNat.ble 57 = true := by
    rw [Nat.ble_eq]
    exact UInt32.le_iff_toNat_le
  rw [digitValue, cond_eq_ite]
  simp only [hle]

theorem entries_eq (opened : Option (Nat × Nat)) (digits : Nat) (cs : List Char) :
    entries opened digits cs = entriesOf opened digits (cs.map Char.toNat) := by
  induction cs generalizing opened digits with
  | nil => rfl
  | cons c cs ih =>
    rw [entries, List.map_cons, entriesOf, ih, ih, ih, ih, digitValue_eq, beq_eq_toNat, beq_eq_toNat, beq_eq_toNat]
    simp only [cond_eq_ite]
    rfl

/-- no range of the one list meets one of the other -/
def apart (rs ss : List (Nat × Nat)) : Bool := rs.all fun r => ss.all fun s => r.2.blt s.1 || s.2.blt r.1

/-- no line of a table writes a range that meets one of the given ranges -/
def Clear (rs : List (Nat × Nat)) (lines : List String) : Prop :=
  ∀ line ∈ lines, apart (entriesOf Option.none 0 (line.toList.map Char.toNat)) rs = true

theorem clear_nil (rs : List (Nat × Nat)) : Clear rs [] := fun _ h => absurd h List.not_mem_nil

theorem clear_cons {rs : List (Nat × Nat)} {cs : List Char} {lines : List String}
    (h : apart (entriesOf Option.none 0 (cs.map Char.toNat)) rs = true) (hlines : Clear rs lines) :
    Clear rs (String.ofList cs :: lines) := by
  intro line hline
  rcases List.mem_cons.1 hline with rfl | hline
  · rwa [String.toList_ofList]
  · exact hlines line hline

theorem contains_of_clear {rs : List (Nat × Nat)} {lines : List String} (h : Clear rs lines) {c : Char}
    (hc : (CharSet.mk rs).contains c = true) : (table lines).contains c = false := by
  obtain ⟨r, hr, hin⟩ := List.any_eq_true.1 hc
  rw [table, contains_ofRanges, List.any_eq_false]
  intro s hs hin'
  obtain ⟨line, hline, hs⟩ := List.mem_flatMap.1 hs
  rw [entries_eq] at hs
  have hapart := List.all_eq_true.1 (List.all_eq_true.1 (h line hline) s hs) r hr
  simp only [Bool.and_eq_true, Bool.or_eq_true, decide_eq_true_eq, Nat.blt_eq] at hin hin' hapart
  omega

end CharSet

open CharSet

/-- the ranges of blanks -/
def blankRanges : List (Nat × Nat) :=
  [(0x9, 0xD), (0x20, 0x20), (0x85, 0x85), (0xA0, 0xA0), (0x1680, 0x1680), (0x2000, 0x200A), (0x2028, 0x2029),
    (0x202F, 0x202F), (0x205F, 0x205F), (0x3000, 0x3000)]

theorem contains_blanks (c : Char) : blanks.contains c = (CharSet.mk blankRanges).contains c := by
  have hline : ∀ cs : List Char, entriesOf Option.none 0 (cs.map Char.toNat) = blankRanges →
      (table [String.ofList cs]).contains c = (CharSet.mk blankRanges).contains c := by
    intro cs h
    rw [table, contains_ofRanges, List.flatMap_singleton, String.toList_ofList, entries_eq, h, contains_mk]
  exact hline _ (by decide +kernel)

/-- the tables of word characters -/
def wordTables : List CharSet :=
  [Category.letterNumberChars, Category.uppercaseLetterChars, Category.lowercaseLetterChars,
    Category.titlecaseLetterChars, Category.modifierLetterChars, Category.otherLetterChars, otherUppercase,
    otherLowercase, otherAlphabetic, Category.decimalNumberChars, Category.connectorPunctuationChars,
    Category.nonspacingMarkChars, Category.spacingMarkChars, Category.enclosingMarkChars, joiners]

theorem contains_wordChars (c : Char) : wordChars.contains c = wordTables.any (·.contains c) := by
  simp only [wordChars, alphabetic, Category.charsOf, Category.letters, Category.marks, List.map_cons, List.map_nil,
    Category.chars, contains_unions, List.any_cons, List.any_nil, Bool.or_false, wordTables, Bool.or_assoc]

/-- no table of word characters has a blank -/
theorem contains_of_blank {c : Char} (h : (CharSet.mk blankRanges).contains c = true) :
    ∀ s ∈ wordTables, s.contains c = false := by
  simp only [wordTables, List.forall_mem_cons, List.not_mem_nil, false_implies, implies_true, and_true]
  refine ⟨?_, ?_, ?_, ?_, ?_, ?_, ?_, ?_, ?_, ?_, ?_, ?_, ?_, ?_, ?_⟩ <;>
    refine contains_of_clear ?_ h <;>
    repeat' first
      | exact clear_nil _
      | refine clear_cons (by decide +kernel) ?_

theorem isWord_of_isBlank_ascii :
    ∀ n < 128, isBlank (Char.ofNat n) = true → isWord (Char.ofNat n) = false := by
  decide +kernel

/-- **A blank is no word character.** -/
theorem isWord_of_isBlank {c : Char} (h : isBlank c = true) : isWord c = false := by
  by_cases hascii : isAscii c = true
  · have hlow : c.toNat < 128 := of_decide_eq_true hascii
    rw [← Char.ofNat_toNat c] at h ⊢
    exact isWord_of_isBlank_ascii _ hlow h
  · rw [isBlank, if_neg hascii, contains_blanks] at h
    rw [isWord, if_neg hascii, contains_wordChars, List.any_eq_false]
    intro s hs
    rw [contains_of_blank h s hs]
    exact Bool.false_ne_true

end CodeSurvey.Text
