/-
Statements of a settings document.

What is written for a value, a pair or a header is read back from the front of any text that goes on as documents do:
behind a value stand a comma, a closing bracket or a line end (`Stops`), so no number is read too far and no string is
taken for one of lines. Plain values are texts, numbers that a document can hold, and truth values; `Kept` are these and
lists of them (`readValue_kept`). A key is kept if it needs no quotes (`BareKey`).
-/
import Mathlib.Data.List.Basic
import CodeSurvey.Proofs.Toml.Strings

namespace CodeSurvey.Toml

open Text

/-! ## Digits -/

theorem isAsciiDigit_of_isDigit {c : Char} (h : c.isDigit = true) : isAsciiDigit c = true := h

theorem isAsciiDigit_of_mem_toDigits {n : Nat} {c : Char} (h : c ∈ Nat.toDigits 10 n) : isAsciiDigit c = true :=
  isAsciiDigit_of_isDigit (Nat.isDigit_of_mem_toDigits (by decide) (by decide) h)

theorem hexValue_of_digit {c : Char} (h : isAsciiDigit c = true) : hexValue? c = some (c.toNat - '0'.toNat) := by
  rw [hexValue?, if_pos h]
  rfl

theorem numberOf_toDigits (n : Nat) : numberOf 10 (Nat.toDigits 10 n) = n := by
  have hdigits : ∀ (ds : List Char) (start : Nat), (∀ c ∈ ds, isAsciiDigit c = true) →
      ds.foldl (fun n c => n * 10 + (hexValue? c).getD 0) start = Nat.ofDigitChars 10 ds start := by
    intro ds
    induction ds with
    | nil => exact fun _ _ => Nat.ofDigitChars_nil.symm
    | cons c ds ih =>
      intro start h
      obtain ⟨hc, hds⟩ := List.forall_mem_cons.1 h
      rw [List.foldl_cons, Nat.ofDigitChars_cons, hexValue_of_digit hc, Option.getD_some, ih _ hds, Nat.mul_comm]
  rw [numberOf, hdigits _ 0 fun _ => isAsciiDigit_of_mem_toDigits, Nat.ofDigitChars_ten_toDigits]

/-- a number of two or more digits does not begin with a zero -/
theorem head_toDigits {n : Nat} (h : 10 ≤ n) : (Nat.toDigits 10 n).head? ≠ some '0' := by
  induction n using Nat.strongRecOn with
  | ind n ih =>
    rw [Nat.toDigits_of_base_le (by decide) h, List.head?_append_of_ne_nil _ Nat.toDigits_ne_nil]
    by_cases hlt : n / 10 < 10
    · have hdigit : ∀ d < 10, 0 < d → [Nat.digitChar d].head? ≠ some '0' := by decide
      rw [Nat.toDigits_of_lt_base hlt]
      exact hdigit _ hlt (by omega)
    · exact ih _ (by omega) (by omega)

/-! ## What follows a value -/

/-- the text goes on as it does behind a value -/
def Stops (rest : List Char) : Prop := ∃ c more, rest = c :: more ∧ c ∈ ['\n', ',', ']']

theorem stops_end (rest : List Char) : Stops ('\n' :: rest) := ⟨'\n', rest, rfl, by decide⟩

theorem Stops.clear {rest : List Char} (h : Stops rest) : Clear rest := by
  obtain ⟨c, more, rfl, hc⟩ := h
  intro d hd
  obtain rfl := Option.some.inj hd
  constructor <;> (rintro rfl; exact absurd hc (by decide))

/-! ## Numbers -/

section

variable {ds rest : List Char} (hds : ∀ c ∈ ds, isAsciiDigit c = true) (hrest : Stops rest)

include hds hrest

theorem readDigits_append : readDigits isAsciiDigit (ds ++ rest) = (ds, rest) := by
  induction ds with
  | nil =>
    obtain ⟨c, more, rfl, hc⟩ := hrest
    simp only [List.mem_cons, List.not_mem_nil, or_false] at hc
    rcases hc with rfl | rfl | rfl <;> rfl
  | cons d ds ih =>
    obtain ⟨hd, hds⟩ := List.forall_mem_cons.1 hds
    have hunderscore : d ≠ '_' := by
      rintro rfl
      exact absurd hd (by decide)
    rw [List.cons_append, readDigits, if_pos hd, ih hds]
    exact fun _ _ heq => absurd heq hunderscore

theorem readDecimal_append (hne : ds ≠ []) (hzero : ds.head? = some '0' → ds.length = 1) (negative : Bool) :
    readDecimal negative (ds ++ rest) =
      (integer? (if negative then -(numberOf 10 ds : Int) else numberOf 10 ds)).map fun v => (v, rest) := by
  obtain ⟨d, more, rfl⟩ := List.exists_cons_of_ne_nil hne
  have hd := hds d List.mem_cons_self
  have hdigits := readDigits_append hds hrest
  have hnumber : readNumber isAsciiDigit (d :: more ++ rest) = some (d :: more, rest) := by
    rw [List.cons_append] at hdigits ⊢
    rw [readNumber, if_pos hd, hdigits]
  have hlead : ((d :: more).head? == some '0' && (d :: more).length > 1) = false := by
    rw [Bool.and_eq_false_iff, beq_eq_false_iff_ne, decide_eq_false_iff_not, Nat.not_lt]
    by_cases h : (d :: more).head? = some '0'
    · exact .inr (Nat.le_of_eq (hzero h))
    · exact .inl h
  have hnames : afterStart "inf".toList (d :: more ++ rest) = none ∧
      afterStart "nan".toList (d :: more ++ rest) = none := by
    have hletters : d ≠ 'i' ∧ d ≠ 'n' := by
      constructor <;> (rintro rfl; exact absurd hd (by decide))
    exact ⟨if_neg hletters.1.symm, if_neg hletters.2.symm⟩
  have hplain : readFraction rest = some (false, rest) ∧ readExponent rest = some (false, rest) := by
    obtain ⟨c, more, rfl, hc⟩ := hrest
    simp only [List.mem_cons, List.not_mem_nil, or_false] at hc
    rcases hc with rfl | rfl | rfl <;> exact ⟨rfl, rfl⟩
  rw [readDecimal, hnames.1, hnames.2]
  dsimp only
  rw [hnumber, Option.bind_some]
  dsimp only
  rw [hlead, hplain.1, Option.bind_some]
  dsimp only
  rw [hplain.2, Option.bind_some]
  rfl

end

/-- a written number: its digits, with a sign before them if it is negative -/
theorem toString_int (n : Int) :
    (toString n).toList = if 0 ≤ n then Nat.toDigits 10 n.toNat else '-' :: Nat.toDigits 10 (-n).toNat := by
  show (Int.repr n).toList = _
  rw [Int.repr_eq_if]
  split
  · rw [Nat.repr_eq_ofList_toDigits, String.toList_ofList]
  · rw [Nat.repr_eq_ofList_toDigits, String.toList_append]
    exact congrArg ('-' :: ·) String.toList_ofList

theorem readDecimal_toDigits (n : Nat) {rest : List Char} (hrest : Stops rest) (negative : Bool) :
    readDecimal negative (Nat.toDigits 10 n ++ rest) =
      (integer? (if negative then -(n : Int) else n)).map fun v => (v, rest) := by
  rw [readDecimal_append (fun _ => isAsciiDigit_of_mem_toDigits) hrest Nat.toDigits_ne_nil, numberOf_toDigits]
  intro hzero
  have hlt : n < 10 := Nat.not_le.1 fun hle => head_toDigits hle hzero
  rw [Nat.toDigits_of_lt_base hlt]
  rfl

/-! ## Values -/

/-- a text, a number that a document can hold, or a truth value -/
def Value.Plain : Value → Prop
  | .text _ => True
  | .integer n => inRange n = true
  | .boolean _ => True
  | _ => False

/-- a plain value or a list of them -/
def Value.Kept : Value → Prop
  | .array items => ∀ v ∈ items, v.Plain
  | v => v.Plain

@[simp] theorem Value.kept_text (s : String) : (Value.text s).Kept := trivial

@[simp] theorem Value.kept_boolean (b : Bool) : (Value.boolean b).Kept := trivial

@[simp] theorem Value.kept_integer (n : Int) : (Value.integer n).Kept ↔ inRange n = true := Iff.rfl

@[simp] theorem Value.kept_texts {α : Type} (f : α → String) (xs : List α) :
    (Value.array (xs.map fun x => .text (f x))).Kept := by
  intro v hv
  obtain ⟨x, -, rfl⟩ := List.mem_map.1 hv
  trivial

/-- what a value begins with: none of what is passed over between values, and no closing bracket -/
def startsValue (c : Char) : Bool := !([' ', '\t', '#', '\n', '\r', ']'].contains c)

theorem startsValue_of_digit {c : Char} (h : isAsciiDigit c = true) : startsValue c = true := by
  rw [startsValue, Bool.not_eq_true', ← Bool.not_eq_true, List.contains_iff_mem]
  intro hc
  simp only [List.mem_cons, List.not_mem_nil, or_false] at hc
  rcases hc with rfl | rfl | rfl | rfl | rfl | rfl <;> exact absurd h (by decide)

theorem quoted_head (s : String) : ∃ q more, (quoted s).toList = q :: more ∧ (q = '"' ∨ q = '\'') := by
  unfold quoted
  dsimp only
  cases quoting s.toList with
  | double => exact ⟨'"', _, by simp only [String.toList_append, List.append_assoc]; rfl, .inl rfl⟩
  | single => exact ⟨'\'', _, by simp only [String.toList_append, List.append_assoc]; rfl, .inr rfl⟩
  | tripleDouble => exact ⟨'"', _, by simp only [String.toList_append, List.append_assoc]; rfl, .inl rfl⟩
  | tripleSingle => exact ⟨'\'', _, by simp only [String.toList_append, List.append_assoc]; rfl, .inr rfl⟩

theorem written_head {v : Value} (h : v.Plain) : ∃ c more, v.written.toList = c :: more ∧ startsValue c = true := by
  cases v with
  | text s =>
    obtain ⟨q, more, hquoted, hq⟩ := quoted_head s
    refine ⟨q, more, hquoted, ?_⟩
    rcases hq with rfl | rfl <;> rfl
  | integer n =>
    rw [Value.written, toString_int]
    split
    · obtain ⟨d, more, hdigits⟩ := List.exists_cons_of_ne_nil (Nat.toDigits_ne_nil (n := n.toNat) (b := 10))
      exact ⟨d, more, hdigits, startsValue_of_digit (isAsciiDigit_of_mem_toDigits (hdigits ▸ List.mem_cons_self))⟩
    · exact ⟨'-', _, rfl, rfl⟩
  | boolean b =>
    cases b with
    | true => exact ⟨'t', _, rfl, rfl⟩
    | false => exact ⟨'f', _, rfl, rfl⟩
  | decimal written => exact absurd h id
  | date written => exact absurd h id
  | array items => exact absurd h id
  | table entries => exact absurd h id

/-- a value that begins with none of the marks is a truth value, a date or a number -/
theorem readValue_unmarked {c : Char} (hc : c ∉ ['"', '\'', '[', '\x7b', '+', '-']) (cs : List Char)
    (inside fuel : Nat) :
    readValue inside (fuel + 1) (c :: cs) =
      ((afterStart "true".toList (c :: cs)).map fun rest => (.boolean true, rest)).or
        (((afterStart "false".toList (c :: cs)).map fun rest => (.boolean false, rest)).or
          (if startsDate (c :: cs) then readDate (c :: cs)
          else (readBased (c :: cs)).getD (readDecimal false (c :: cs)))) := by
  rw [readValue]
  · cases afterStart "true".toList (c :: cs) with
    | some rest => rfl
    | none => cases afterStart "false".toList (c :: cs) <;> rfl
  · exact List.cons_ne_nil c cs
  all_goals
    intro _ heq
    obtain ⟨rfl, -⟩ := List.cons.inj heq
    exact hc (by decide)

section

variable {ds rest : List Char}

/-- where only digits are taken, no more are taken than there are -/
theorem le_length_of_digits (hrest : Stops rest) {n : Nat} (h : ((ds ++ rest).take n).all isAsciiDigit = true) :
    n ≤ ds.length := by
  refine Nat.not_lt.1 fun hlt => ?_
  obtain ⟨c, more, rfl, hc⟩ := hrest
  have hmem : c ∈ (ds ++ c :: more).take n := by
    obtain ⟨m, rfl⟩ := Nat.exists_eq_add_of_lt hlt
    rw [Nat.add_assoc, List.take_length_add_append]
    exact List.mem_append_right ds List.mem_cons_self
  have hdigit := List.all_eq_true.1 h c hmem
  simp only [List.mem_cons, List.not_mem_nil, or_false] at hc
  rcases hc with rfl | rfl | rfl <;> exact absurd hdigit (by decide)

variable (hds : ∀ c ∈ ds, isAsciiDigit c = true) (hrest : Stops rest)

include hds hrest

/-- behind some of the digits stands a digit or what follows a value -/
theorem head_drop_digits {n : Nat} (hn : n ≤ ds.length) :
    ∀ c ∈ ((ds ++ rest).drop n).head?, isAsciiDigit c = true ∨ c ∈ ['\n', ',', ']'] := by
  intro c hc
  rw [List.drop_append_of_le_length hn] at hc
  cases hdrop : ds.drop n with
  | nil =>
    obtain ⟨d, more, rfl, hd⟩ := hrest
    rw [hdrop] at hc
    obtain rfl := Option.some.inj hc
    exact .inr hd
  | cons d more =>
    rw [hdrop] at hc
    obtain rfl : d = c := Option.some.inj hc
    exact .inl (hds d (List.mem_of_mem_drop (hdrop ▸ List.mem_cons_self)))

theorem startsDate_digits : startsDate (ds ++ rest) = false := by
  have hmark : ∀ n, ∀ c ∈ ['-', ':'], ((ds ++ rest).take n).all isAsciiDigit = true →
      ((ds ++ rest).drop n).head? ≠ some c := by
    intro n c hc hall hhead
    rcases head_drop_digits hds hrest (le_length_of_digits hrest hall) c hhead with hdigit | hstop
    · simp only [List.mem_cons, List.not_mem_nil, or_false] at hc
      rcases hc with rfl | rfl <;> exact absurd hdigit (by decide)
    · simp only [List.mem_cons, List.not_mem_nil, or_false] at hc
      rcases hc with rfl | rfl <;> exact absurd hstop (by decide)
  rw [startsDate, Bool.or_eq_false_iff]
  constructor
  · cases hall : ((ds ++ rest).take 4).all isAsciiDigit with
    | false => rfl
    | true => rw [beq_eq_false_iff_ne.2 (hmark 4 '-' (by decide) hall)]; rfl
  · cases hall : ((ds ++ rest).take 2).all isAsciiDigit with
    | false => rfl
    | true => rw [beq_eq_false_iff_ne.2 (hmark 2 ':' (by decide) hall)]; rfl

theorem readBased_digits (hne : ds ≠ []) : readBased (ds ++ rest) = none := by
  obtain ⟨d, more, rfl⟩ := List.exists_cons_of_ne_nil hne
  have hsecond := head_drop_digits hds hrest (n := 1) (Nat.succ_le_succ (Nat.zero_le _))
  have hmark : ∀ c ∈ ['x', 'o', 'b'], ¬ (isAsciiDigit c = true ∨ c ∈ ['\n', ',', ']']) := by
    simp [isAsciiDigit]
  rw [readBased.eq_def]
  dsimp only
  split
  · rename_i back heq
    rw [heq] at hsecond
    exact absurd (hsecond 'x' rfl) (hmark 'x' (by decide))
  · rename_i back heq
    rw [heq] at hsecond
    exact absurd (hsecond 'o' rfl) (hmark 'o' (by decide))
  · rename_i back heq
    rw [heq] at hsecond
    exact absurd (hsecond 'b' rfl) (hmark 'b' (by decide))
  · rfl

/-- digits are read as a number, and not as a date or a number of another base -/
theorem readValue_digits (hne : ds ≠ []) (inside fuel : Nat) :
    readValue inside (fuel + 1) (ds ++ rest) = readDecimal false (ds ++ rest) := by
  have hdate := startsDate_digits hds hrest
  have hbased := readBased_digits hds hrest hne
  obtain ⟨d, more, rfl⟩ := List.exists_cons_of_ne_nil hne
  have hd := hds d List.mem_cons_self
  have hother : ∀ c ∈ ['"', '\'', '[', '\x7b', '+', '-', 't', 'f'], d ≠ c := by
    rintro c hc rfl
    simp only [List.mem_cons, List.not_mem_nil, or_false] at hc
    rcases hc with rfl | rfl | rfl | rfl | rfl | rfl | rfl | rfl <;> exact absurd hd (by decide)
  have htrue : afterStart "true".toList (d :: (more ++ rest)) = none := if_neg (hother 't' (by decide)).symm
  have hfalse : afterStart "false".toList (d :: (more ++ rest)) = none := if_neg (hother 'f' (by decide)).symm
  rw [List.cons_append] at hdate hbased ⊢
  rw [readValue_unmarked fun hmem => hother d (List.mem_append_left ['t', 'f'] hmem) rfl, htrue, hfalse,
    Option.map_none, Option.none_or, Option.map_none, Option.none_or, hdate, if_neg Bool.false_ne_true, hbased,
    Option.getD_none]

end

/-- **A written plain value is read back.** -/
theorem readValue_plain {v : Value} (hv : v.Plain) {rest : List Char} (hrest : Stops rest) (inside fuel : Nat) :
    readValue inside (fuel + 1) (v.written.toList ++ rest) = some (v, rest) := by
  cases v with
  | text s =>
    have hread := readText_quoted hrest.clear s
    obtain ⟨q, more, hquoted, hq⟩ := quoted_head s
    rw [Value.written]
    rw [hquoted, List.cons_append] at hread ⊢
    rcases hq with rfl | rfl <;>
    · rw [readValue, hread, Option.map_some]
      exact congrArg (fun t => some (Value.text t, rest)) String.ofList_toList
  | integer n =>
    have hrange : inRange n = true := hv
    rw [Value.written, toString_int]
    split
    · rename_i hn
      rw [readValue_digits (fun _ => isAsciiDigit_of_mem_toDigits) hrest Nat.toDigits_ne_nil,
        readDecimal_toDigits _ hrest, if_neg Bool.false_ne_true, Int.toNat_of_nonneg hn, integer?, if_pos hrange]
      rfl
    · rename_i hn
      rw [List.cons_append, readValue, readDecimal_toDigits _ hrest, if_pos rfl, Int.toNat_of_nonneg (by omega),
        Int.neg_neg, integer?, if_pos hrange]
      rfl
  | boolean b =>
    cases b with
    | true => exact readValue_unmarked (by decide) _ inside fuel
    | false => exact readValue_unmarked (by decide) _ inside fuel
  | decimal written => exact absurd hv id
  | date written => exact absurd hv id
  | array items => exact absurd hv id
  | table entries => exact absurd hv id

/-! ## Lists -/

theorem skipLines_of_starts {c : Char} (hc : startsValue c = true ∨ c ∈ [',', ']']) (cs : List Char) (fuel : Nat) :
    skipLines fuel (c :: cs) = some (c :: cs) := by
  have hpassed : c ∉ [' ', '\t', '#', '\n', '\r'] := by
    rcases hc with hc | hc
    · intro hmem
      rw [startsValue, Bool.not_eq_true', ← Bool.not_eq_true, List.contains_iff_mem] at hc
      exact hc (List.mem_append_left [']'] hmem)
    · simp only [List.mem_cons, List.not_mem_nil, or_false] at hc
      rcases hc with rfl | rfl <;> decide
  simp only [List.mem_cons, List.not_mem_nil, or_false, not_or] at hpassed
  cases fuel with
  | zero => rfl
  | succ fuel =>
    have hgap : skipGap (c :: cs) = c :: cs := List.dropWhile_cons_of_neg (by simp [isGap, hpassed])
    rw [skipLines, hgap]
    split <;> simp_all

/-- a line end and the indent of an item are passed over -/
theorem skipLines_indent {c : Char} (hc : startsValue c = true) (cs : List Char) (fuel : Nat) :
    skipLines (fuel + 2) ('\n' :: ("    ".toList ++ c :: cs)) = some (c :: cs) := by
  have hgap : skipLines (fuel + 2) ('\n' :: ("    ".toList ++ c :: cs)) = skipLines (fuel + 1) (c :: cs) := rfl
  rw [hgap, skipLines_of_starts (.inl hc)]

theorem readItems_end (inside fuel : Nat) {cs rest : List Char} (hskip : skipLines cs.length cs = some (']' :: rest)) :
    readItems inside (fuel + 1) cs = some ([], rest) := by
  rw [readItems, hskip]
  rfl

/-- an item at the front of a list, and what follows it -/
theorem readItems_item {v : Value} (hv : v.Plain) (inside fuel : Nat) {cs : List Char} {c : Char} {rest : List Char}
    (hc : c ∈ [',', ']']) (hskip : skipLines cs.length cs = some (v.written.toList ++ c :: rest)) :
    readItems inside (fuel + 2) cs =
      if c = ',' then (readItems inside (fuel + 1) rest).map fun (vs, rest) => (v :: vs, rest) else some ([v], rest) := by
  have hstops : Stops (c :: rest) := ⟨c, rest, rfl, List.mem_cons_of_mem _ hc⟩
  have hread := readValue_plain hv hstops inside fuel
  have hbehind := skipLines_of_starts (.inr hc) rest (c :: rest).length
  obtain ⟨d, more, hhead, hd⟩ := written_head hv
  have hopen : d ≠ ']' := by
    rintro rfl
    exact absurd hd (by decide)
  rw [readItems, hskip, Option.bind_some]
  rw [hhead, List.cons_append] at hread ⊢
  split
  · rename_i heq
    exact absurd (List.cons.inj heq).1 hopen
  · rw [hread, Option.bind_some]
    dsimp only
    rw [hbehind, Option.bind_some]
    simp only [List.mem_cons, List.not_mem_nil, or_false] at hc
    rcases hc with rfl | rfl <;> rfl

/-- **The items of a list that is written in lines are read back.** -/
theorem readItems_lines {items : List Value} (h : ∀ v ∈ items, v.Plain) (inside : Nat) {fuel : Nat}
    (hfuel : items.length ≤ fuel) (rest : List Char) :
    readItems inside (fuel + 1) ('\n' :: ((Value.written.writtenItems items).toList ++ ']' :: rest)) =
      some (items, rest) := by
  induction items generalizing fuel with
  | nil => exact readItems_end inside fuel rfl
  | cons v items ih =>
    obtain ⟨hv, hitems⟩ := List.forall_mem_cons.1 h
    obtain ⟨fuel, rfl⟩ := Nat.exists_eq_succ_of_ne_zero (Nat.ne_of_gt (Nat.zero_lt_of_lt hfuel))
    obtain ⟨d, more, hhead, hd⟩ := written_head hv
    have htext : (Value.written.writtenItems (v :: items)).toList ++ ']' :: rest =
        "    ".toList ++ (v.written.toList ++
          ',' :: '\n' :: ((Value.written.writtenItems items).toList ++ ']' :: rest)) := by
      rw [Value.written.writtenItems]
      simp only [String.toList_append, List.append_assoc]
      rfl
    have hskip : skipLines ('\n' :: ((Value.written.writtenItems (v :: items)).toList ++ ']' :: rest)).length
        ('\n' :: ((Value.written.writtenItems (v :: items)).toList ++ ']' :: rest)) =
        some (v.written.toList ++ ',' :: '\n' :: ((Value.written.writtenItems items).toList ++ ']' :: rest)) := by
      rw [htext, hhead]
      exact skipLines_indent hd _ _
    rw [readItems_item hv inside fuel (by decide) hskip, if_pos rfl, ih hitems (Nat.le_of_succ_le_succ hfuel)]
    rfl

theorem length_le_writtenItems (items : List Value) :
    items.length ≤ (Value.written.writtenItems items).toList.length := by
  induction items with
  | nil => exact Nat.zero_le _
  | cons v items ih =>
    rw [Value.written.writtenItems]
    simp only [String.toList_append, List.length_append, List.length_cons]
    have hspace : 0 < "    ".toList.length := by decide
    omega

theorem written_nil : (Value.array []).written.toList = ['[', ']'] := by
  rw [Value.written]
  rfl

theorem written_single (v : Value) : (Value.array [v]).written.toList = '[' :: (v.written.toList ++ [']']) := by
  rw [Value.written, String.toList_append, String.toList_append]
  rfl

theorem written_lines (v w : Value) (items : List Value) :
    (Value.array (v :: w :: items)).written.toList =
      '[' :: '\n' :: ((Value.written.writtenItems (v :: w :: items)).toList ++ [']']) := by
  rw [Value.written, String.toList_append, String.toList_append]
  · rfl
  · exact List.cons_ne_nil w items

/-- what a value or a key begins with is no gap -/
theorem isGap_of_starts {c : Char} (hc : startsValue c = true) : isGap c = false := by
  rw [Bool.eq_false_iff]
  intro hgap
  simp only [isGap, Bool.or_eq_true, beq_iff_eq] at hgap
  rcases hgap with rfl | rfl <;> exact absurd hc (by decide)

/-- a written value begins with no gap -/
theorem skipGap_written {v : Value} (hv : v.Kept) (rest : List Char) :
    skipGap (v.written.toList ++ rest) = v.written.toList ++ rest := by
  have hhead : ∃ c more, v.written.toList = c :: more ∧ startsValue c = true := by
    cases v with
    | text s => exact written_head (v := .text s) hv
    | integer n => exact written_head (v := .integer n) hv
    | boolean b => exact written_head (v := .boolean b) hv
    | decimal written => exact absurd hv id
    | date written => exact absurd hv id
    | table entries => exact absurd hv id
    | array items =>
      match items with
      | [] => exact ⟨'[', _, written_nil, rfl⟩
      | [v] => exact ⟨'[', _, written_single v, rfl⟩
      | v :: w :: items => exact ⟨'[', _, written_lines v w items, rfl⟩
  obtain ⟨c, more, hhead, hc⟩ := hhead
  rw [hhead]
  exact List.dropWhile_cons_of_neg (by simp [isGap_of_starts hc])

/-- **A written value is read back.** -/
theorem readValue_kept {v : Value} (hv : v.Kept) {rest : List Char} (hrest : Stops rest) {fuel : Nat}
    (hfuel : v.written.toList.length ≤ fuel) :
    readValue 0 (fuel + 2) (v.written.toList ++ rest) = some (v, rest) := by
  cases v with
  | text s => exact readValue_plain (v := .text s) hv hrest 0 (fuel + 1)
  | integer n => exact readValue_plain (v := .integer n) hv hrest 0 (fuel + 1)
  | boolean b => exact readValue_plain (v := .boolean b) hv hrest 0 (fuel + 1)
  | decimal written => exact absurd hv id
  | date written => exact absurd hv id
  | table entries => exact absurd hv id
  | array items =>
    have hitems : ∀ v ∈ items, v.Plain := hv
    have hopen : ∀ cs, readValue 0 (fuel + 2) ('[' :: cs) =
        (readItems 1 (fuel + 1) cs).map fun (items, rest) => (.array items, rest) := fun cs => by
      rw [readValue, if_pos (by decide)]
    match items with
    | [] =>
      have hread := readItems_end 1 fuel (skipLines_of_starts (.inr (by decide)) rest (']' :: rest).length)
      rw [written_nil, List.cons_append, hopen, List.singleton_append, hread]
      rfl
    | [v] =>
      have hv := hitems v List.mem_cons_self
      obtain ⟨d, more, hhead, hd⟩ := written_head hv
      rw [written_single, List.length_cons, hhead, List.cons_append, List.length_cons] at hfuel
      obtain ⟨fuel, rfl⟩ := Nat.exists_eq_succ_of_ne_zero (Nat.ne_of_gt (Nat.zero_lt_of_lt hfuel))
      have hskip : skipLines (v.written.toList ++ ']' :: rest).length (v.written.toList ++ ']' :: rest) =
          some (v.written.toList ++ ']' :: rest) := by
        rw [hhead]
        exact skipLines_of_starts (.inl hd) _ _
      rw [written_single, List.cons_append, hopen, List.append_assoc, List.singleton_append,
        readItems_item hv 1 fuel (by decide) hskip]
      rfl
    | v :: w :: items =>
      have hlength := length_le_writtenItems (v :: w :: items)
      rw [written_lines, List.length_cons, List.length_cons, List.length_append] at hfuel
      rw [written_lines, List.cons_append, hopen, List.cons_append, List.append_assoc, List.singleton_append,
        readItems_lines hitems 1 (by omega)]
      rfl

/-! ## Keys and statements -/

/-- a key that is written without quotes -/
structure BareKey (k : String) : Prop where
  ne : k.toList ≠ []
  chars : ∀ c ∈ k.toList, isKeyChar c = true

instance (k : String) : Decidable (BareKey k) :=
  decidable_of_iff (k.toList ≠ [] ∧ k.toList.all isKeyChar = true)
    ⟨fun h => ⟨h.1, List.all_eq_true.1 h.2⟩, fun h => ⟨h.ne, List.all_eq_true.2 h.chars⟩⟩

theorem BareKey.head {k : String} (hk : BareKey k) (rest : List Char) :
    ∃ c more, k.toList ++ rest = c :: more ∧ startsValue c = true ∧ c ∉ ['"', '\'', '['] := by
  obtain ⟨c, more, hform⟩ := List.exists_cons_of_ne_nil hk.ne
  have hc := hk.chars c (hform ▸ List.mem_cons_self)
  have hother : ∀ d, isKeyChar d = false → c ≠ d := by
    rintro d hd rfl
    exact absurd hc (by simp [hd])
  refine ⟨c, more ++ rest, by rw [hform, List.cons_append], ?_, ?_⟩
  · rw [startsValue, Bool.not_eq_true', ← Bool.not_eq_true, List.contains_iff_mem]
    simp only [List.mem_cons, List.not_mem_nil, or_false, not_or]
    exact ⟨hother _ (by decide), hother _ (by decide), hother _ (by decide), hother _ (by decide),
      hother _ (by decide), hother _ (by decide)⟩
  · simp only [List.mem_cons, List.not_mem_nil, or_false, not_or]
    exact ⟨hother _ (by decide), hother _ (by decide), hother _ (by decide)⟩

section

variable {k : String} (hk : BareKey k) {rest : List Char} (hrest : ∀ c ∈ rest.head?, isKeyChar c = false)

include hk hrest

theorem readKeyPart_bare : readKeyPart (k.toList ++ rest) = some (k, rest) := by
  have htake : (k.toList ++ rest).takeWhile isKeyChar = k.toList := by
    rw [List.takeWhile_append_of_pos hk.chars]
    cases rest with
    | nil => exact List.append_nil _
    | cons c more => rw [List.takeWhile_cons_of_neg (by simp [hrest c rfl]), List.append_nil]
  have hdrop : (k.toList ++ rest).dropWhile isKeyChar = rest := by
    rw [List.dropWhile_append_of_pos hk.chars]
    cases rest with
    | nil => rfl
    | cons c more => exact List.dropWhile_cons_of_neg (by simp [hrest c rfl])
  obtain ⟨c, more, hhead, -, hc⟩ := hk.head rest
  have hne : k.toList.isEmpty = false := by simpa using hk.ne
  rw [readKeyPart.eq_def]
  split
  · rename_i heq
    exact absurd (hc (by rw [(List.cons.inj (hhead.symm.trans heq)).1]; decide)) id
  · rename_i heq
    exact absurd (hc (by rw [(List.cons.inj (hhead.symm.trans heq)).1]; decide)) id
  · rw [htake, hdrop]
    dsimp only
    rw [hne, if_neg Bool.false_ne_true, String.ofList_toList]

/-- a key up to what ends it -/
theorem readKey_bare (hdot : ∀ more, skipGap rest ≠ '.' :: more) :
    readKey (k.toList ++ rest) = some ([k], skipGap rest) := by
  have hgap : skipGap (k.toList ++ rest) = k.toList ++ rest := by
    obtain ⟨c, more, hhead, hc, -⟩ := hk.head rest
    rw [hhead]
    exact List.dropWhile_cons_of_neg (by simp [isGap_of_starts hc])
  have hparts : readParts ((k.toList ++ rest).length + 1) (k.toList ++ rest) = some ([k], skipGap rest) := by
    rw [readParts, hgap, readKeyPart_bare hk hrest, Option.bind_some]
    dsimp only
    split
    · rename_i more heq
      exact absurd heq (hdot more)
    · rfl
  rw [readKey, hparts]
  rfl

end

/-- **A written header is read back.** -/
theorem readStatement_header {name : String} (hname : BareKey name) (rest : List Char) :
    readStatement ('[' :: (name.toList ++ ']' :: '\n' :: rest)) = some (.header [name], rest) := by
  have hkey : readKey (name.toList ++ ']' :: '\n' :: rest) = some ([name], ']' :: '\n' :: rest) :=
    readKey_bare hname (by simp; decide) fun more heq => absurd (List.cons.inj heq).1 (by decide)
  obtain ⟨c, more, hhead, -, hc⟩ := hname.head (']' :: '\n' :: rest)
  rw [hhead] at hkey ⊢
  rw [readStatement, hkey]
  · rfl
  · intro more heq
    exact hc (by rw [(List.cons.inj heq).1]; decide)

/-- **A written pair is read back.** -/
theorem readStatement_pair {key : String} (hkey : BareKey key) {v : Value} (hv : v.Kept) (rest : List Char) :
    readStatement (key.toList ++ (" = ".toList ++ (v.written.toList ++ '\n' :: rest))) = some (.pair [key] v, rest) := by
  have hread : readKey (key.toList ++ (" = ".toList ++ (v.written.toList ++ '\n' :: rest))) =
      some ([key], '=' :: ' ' :: (v.written.toList ++ '\n' :: rest)) :=
    readKey_bare hkey (by simp; decide) fun more heq => absurd (List.cons.inj heq).1 (by decide)
  have henough : v.written.toList.length ≤ 2 * (' ' :: (v.written.toList ++ '\n' :: rest)).length := by
    simp only [List.length_cons, List.length_append]
    omega
  have hvalue := readValue_kept hv (stops_end rest) henough
  have hgap : skipGap (' ' :: (v.written.toList ++ '\n' :: rest)) = v.written.toList ++ '\n' :: rest :=
    skipGap_written hv _
  obtain ⟨c, more, hhead, -, hc⟩ := hkey.head (" = ".toList ++ (v.written.toList ++ '\n' :: rest))
  rw [hhead] at hread ⊢
  rw [readStatement, hread]
  · dsimp only [Option.bind_eq_bind, Option.bind_some, expect]
    rw [if_pos (by decide), Option.bind_some, hgap, hvalue]
    rfl
  all_goals
    intro after heq
    exact hc (by rw [(List.cons.inj heq).1]; decide)

end CodeSurvey.Toml
