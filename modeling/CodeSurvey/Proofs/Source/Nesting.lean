/-
What counting delimiters finds in any bytes.

The bytes need not be balanced. `Encloses` says what a delimiter and the one that closes it stand around: in every
proper part from the start more delimiters were opened than closed, and at the end as many. `closing` finds just that
(`closing_encloses`), so parameters and bodies are the shortest runs of bytes that balance (`ending_parts`). Said by
places: the delimiter found is the first one that closes as many as were opened, where none before it came too early,
and there is none only where there is no such place (`findMatching_isLeast`). Backwards, `headerLength` passes a brace
or a semicolon only behind a closing parenthesis that has no opening one in between (`hasLooseCloser_of_headerLength`).
Each is an induction over the bytes for every depth at once.
-/
import Mathlib.Order.Bounds.Defs
import CodeSurvey.Proofs.Source.ClassMethods

namespace CodeSurvey.Source

open Text

theorem forall_prefix_cons {b : UInt8} {bs : Bytes} {p : Bytes → Prop} :
    (∀ front, front <+: b :: bs → p front) ↔ p [] ∧ ∀ front, front <+: bs → p (b :: front) := by
  refine ⟨fun h => ⟨h [] List.nil_prefix, fun front hfront => h _ ((List.prefix_cons_inj b).2 hfront)⟩, ?_⟩
  rintro ⟨hnil, hcons⟩ front hfront
  rcases List.prefix_cons_iff.1 hfront with rfl | ⟨tail, rfl, htail⟩
  · exact hnil
  · exact hcons tail htail

/-! ## Forwards -/

/-- the bytes go from an opening delimiter to the one that closes it -/
structure Encloses (opening closer : UInt8) (bs : Bytes) : Prop where
  opens : bs.head? = some opening
  closes : bs.getLast? = some closer
  balanced : bs.count opening = bs.count closer
  /-- no proper part from the start balances: in each of them something is open -/
  shortest : ∀ front, front <+: bs → front ≠ [] → front ≠ bs → front.count closer < front.count opening

section

variable {opening closer : UInt8}

/-- the bytes come back to no depth at their end from the depth that they start at, and go below none before it -/
structure Returns (opening closer : UInt8) (depth : Nat) (bs : Bytes) : Prop where
  balanced : bs.count closer = depth + bs.count opening
  above : ∀ front, front <+: bs → front.count closer ≤ depth + front.count opening

theorem returns_iff {depth : Nat} {bs : Bytes} : Returns opening closer depth bs ↔
    bs.count closer = depth + bs.count opening ∧
      ∀ front, front <+: bs → front.count closer ≤ depth + front.count opening :=
  ⟨fun h => ⟨h.balanced, h.above⟩, fun ⟨balanced, above⟩ => ⟨balanced, above⟩⟩

theorem Returns.nil : Returns opening closer 0 [] := by
  refine ⟨rfl, fun front hprefix => ?_⟩
  rw [List.prefix_nil.1 hprefix]
  exact Nat.le_refl 0

theorem returns_opening (hne : closer ≠ opening) {depth : Nat} {bs : Bytes} :
    Returns opening closer depth (opening :: bs) ↔ Returns opening closer (depth + 1) bs := by
  rw [returns_iff, returns_iff, forall_prefix_cons]
  simp only [List.count_cons_self, List.count_cons_of_ne hne.symm, List.count_nil, Nat.zero_le, true_and]
  simp only [Nat.add_right_comm depth _ 1, ← Nat.add_assoc]

theorem returns_closer (hne : closer ≠ opening) {depth : Nat} {bs : Bytes} :
    Returns opening closer (depth + 1) (closer :: bs) ↔ Returns opening closer depth bs := by
  rw [returns_iff, returns_iff, forall_prefix_cons]
  simp only [List.count_cons_self, List.count_cons_of_ne hne, List.count_nil, Nat.zero_le, true_and]
  simp only [Nat.add_right_comm depth 1, Nat.add_le_add_iff_right, Nat.add_right_cancel_iff]

/-- a closing delimiter where none is open comes too early -/
theorem not_returns_closer (hne : closer ≠ opening) {bs : Bytes} : ¬ Returns opening closer 0 (closer :: bs) := by
  intro h
  have habove := h.above [closer] (List.prefix_append [closer] bs)
  simp [hne] at habove

theorem returns_other {b : UInt8} (hopen : b ≠ opening) (hclose : b ≠ closer) {depth : Nat} {bs : Bytes} :
    Returns opening closer depth (b :: bs) ↔ Returns opening closer depth bs := by
  rw [returns_iff, returns_iff, forall_prefix_cons]
  simp only [List.count_cons_of_ne hopen, List.count_cons_of_ne hclose, List.count_nil, Nat.zero_le, true_and]

/-- The delimiter found brings the depth down to zero, and none before it does. -/
theorem of_closing (hne : closer ≠ opening) {depth n : Nat} {bs : Bytes}
    (h : closing opening closer (depth + 1) bs = some n) :
    ∃ inner after, bs = inner ++ closer :: after ∧ inner.length = n ∧ Returns opening closer depth inner := by
  induction bs generalizing depth n with
  | nil => exact absurd h (Option.some_ne_none n).symm
  | cons b bs ih =>
    by_cases hopen : b = opening
    · subst hopen
      rw [closing_open] at h
      obtain ⟨m, hm, rfl⟩ := Option.map_eq_some_iff.1 h
      obtain ⟨inner, after, rfl, rfl, hinner⟩ := ih hm
      exact ⟨b :: inner, after, rfl, rfl, (returns_opening hne).2 hinner⟩
    by_cases hclose : b = closer
    · subst hclose
      cases depth with
      | zero =>
        rw [closing_last hopen] at h
        obtain rfl := Option.some.inj h
        exact ⟨[], bs, rfl, rfl, .nil⟩
      | succ d =>
        rw [closing_close hopen] at h
        obtain ⟨m, hm, rfl⟩ := Option.map_eq_some_iff.1 h
        obtain ⟨inner, after, rfl, rfl, hinner⟩ := ih hm
        exact ⟨b :: inner, after, rfl, rfl, (returns_closer hne).2 hinner⟩
    · rw [closing_other hopen hclose] at h
      obtain ⟨m, hm, rfl⟩ := Option.map_eq_some_iff.1 h
      obtain ⟨inner, after, rfl, rfl, hinner⟩ := ih hm
      exact ⟨b :: inner, after, rfl, rfl, (returns_other hopen hclose).2 hinner⟩

/-- **Counting finds the delimiter that closes the first one.** -/
theorem closing_encloses (hne : closer ≠ opening) {n : Nat} {rest : Bytes}
    (h : closing opening closer 0 (opening :: rest) = some n) :
    ∃ inner after, rest = inner ++ closer :: after ∧ n = inner.length + 1 ∧
      Encloses opening closer (opening :: inner ++ [closer]) := by
  rw [closing_open] at h
  obtain ⟨m, hm, rfl⟩ := Option.map_eq_some_iff.1 h
  obtain ⟨inner, after, rfl, rfl, hinner⟩ := of_closing hne hm
  refine ⟨inner, after, rfl, rfl, rfl, List.getLast?_concat .., ?_,
    forall_prefix_cons.2 ⟨fun hnil => absurd rfl hnil, fun front hprefix _ hproper => ?_⟩⟩
  · simp [hne, hne.symm, hinner.balanced]
  · -- a proper part that is not empty stops within what the delimiters stand around
    rcases List.prefix_concat_iff.1 hprefix with rfl | hprefix
    · exact absurd rfl hproper
    · have habove := hinner.above front hprefix
      rw [List.count_cons_self, List.count_cons_of_ne hne.symm]
      omega

/-! ### The least place -/

/-- The delimiter that is found closes: the bytes up to it and with it come back to no depth. -/
theorem returns_of_closing (hne : closer ≠ opening) {depth n : Nat} {bs : Bytes}
    (h : closing opening closer depth bs = some n) :
    bs[n]? = some closer ∧ Returns opening closer depth (bs.take (n + 1)) := by
  induction bs generalizing depth n with
  | nil => exact absurd h (Option.some_ne_none n).symm
  | cons b bs ih =>
    rw [List.take_succ_cons]
    by_cases hopen : b = opening
    · subst hopen
      rw [closing_open] at h
      obtain ⟨m, hm, rfl⟩ := Option.map_eq_some_iff.1 h
      exact ⟨(ih hm).1, (returns_opening hne).2 (ih hm).2⟩
    by_cases hclose : b = closer
    · subst hclose
      match depth with
      | 0 => exact absurd (closing_early hne bs ▸ h) (Option.some_ne_none n).symm
      | 1 =>
        rw [closing_last hne] at h
        obtain rfl := Option.some.inj h
        exact ⟨rfl, (returns_closer hne).2 .nil⟩
      | d + 2 =>
        rw [closing_close hne] at h
        obtain ⟨m, hm, rfl⟩ := Option.map_eq_some_iff.1 h
        exact ⟨(ih hm).1, (returns_closer hne).2 (ih hm).2⟩
    · rw [closing_other hopen hclose] at h
      obtain ⟨m, hm, rfl⟩ := Option.map_eq_some_iff.1 h
      exact ⟨(ih hm).1, (returns_other hopen hclose).2 (ih hm).2⟩

/-- **Nothing closes before the delimiter that is found**: where bytes come back to no depth, counting has ended. At
depth zero bytes that are no delimiters come back too, so there one is asked for, at the start or at the end. -/
theorem exists_closing (hne : closer ≠ opening) {depth m : Nat} {bs : Bytes} (hm : m < bs.length)
    (h : Returns opening closer depth (bs.take (m + 1)))
    (hend : 0 < depth ∨ bs.head? = some opening ∨ bs[m]? = some closer) :
    ∃ n ≤ m, closing opening closer depth bs = some n := by
  induction bs generalizing depth m with
  | nil => exact absurd hm (Nat.not_lt_zero m)
  | cons b bs ih =>
    rw [List.take_succ_cons] at h
    by_cases hopen : b = opening
    · subst hopen
      rw [returns_opening hne] at h
      cases m with
      | zero => exact absurd h.balanced (by simp)
      | succ m =>
        obtain ⟨n, hn, hfound⟩ := ih (Nat.lt_of_succ_lt_succ hm) h (.inl (Nat.succ_pos depth))
        exact ⟨n + 1, Nat.succ_le_succ hn, by rw [closing_open, hfound]; rfl⟩
    by_cases hclose : b = closer
    · subst hclose
      match depth with
      | 0 => exact absurd h (not_returns_closer hne)
      | 1 => exact ⟨0, Nat.zero_le m, closing_last hne bs⟩
      | d + 2 =>
        rw [returns_closer hne] at h
        cases m with
        | zero => exact absurd h.balanced (by simp)
        | succ m =>
          obtain ⟨n, hn, hfound⟩ := ih (Nat.lt_of_succ_lt_succ hm) h (.inl (Nat.succ_pos d))
          exact ⟨n + 1, Nat.succ_le_succ hn, by rw [closing_close hne, hfound]; rfl⟩
    · rw [returns_other hopen hclose] at h
      have hend : 0 < depth ∨ (b :: bs)[m]? = some closer :=
        hend.imp_right (·.resolve_left fun hhead => hopen (Option.some.inj hhead))
      cases m with
      | zero =>
        have hdepth : depth = 0 := by simpa using h.balanced.symm
        rcases hend with hpos | hcloser
        · exact absurd hdepth (Nat.pos_iff_ne_zero.1 hpos)
        · exact absurd (Option.some.inj hcloser) hclose
      | succ m =>
        obtain ⟨n, hn, hfound⟩ := ih (Nat.lt_of_succ_lt_succ hm) h (hend.imp_right .inr)
        exact ⟨n + 1, Nat.succ_le_succ hn, by rw [closing_other hopen hclose, hfound]; rfl⟩

end

/-- how often a byte stands from one place up to and with another -/
def countTo (b : UInt8) (bs : Bytes) (start last : Nat) : Nat := (Span.of ⟨start, last + 1⟩ bs).count b

/-- from one place up to and with another as many delimiters are closed as opened, and before it no more than that -/
structure BalancedTo (opening closer : UInt8) (bs : Bytes) (start last : Nat) : Prop where
  ordered : start ≤ last
  within : last < bs.length
  balanced : countTo opening bs start last = countTo closer bs start last
  above : ∀ place, start ≤ place → place < last → countTo closer bs start place ≤ countTo opening bs start place

theorem countTo_add (b : UInt8) (bs : Bytes) (start n : Nat) :
    countTo b bs start (start + n) = ((bs.drop start).take (n + 1)).count b := by
  rw [countTo, Span.of, Nat.add_assoc, Nat.add_sub_cancel_left]

section

variable {opening closer : UInt8} {bs : Bytes} {start : Nat}

/-- the same by the bytes from the first place on -/
theorem balancedTo_iff {n : Nat} : BalancedTo opening closer bs start (start + n) ↔
    n < (bs.drop start).length ∧ Returns opening closer 0 ((bs.drop start).take (n + 1)) := by
  rw [List.length_drop]
  constructor
  · intro h
    have hwithin := h.within
    have hbalanced := h.balanced
    rw [countTo_add, countTo_add] at hbalanced
    refine ⟨by omega, by rw [hbalanced, Nat.zero_add], fun front hfront => ?_⟩
    rw [Nat.zero_add]
    cases hlength : front.length with
    | zero => simp [List.length_eq_zero_iff.1 hlength]
    | succ k =>
      have htake : front = (bs.drop start).take (min (k + 1) (n + 1)) := by
        rw [← List.take_take, ← hlength]
        exact List.prefix_iff_eq_take.1 hfront
      by_cases hk : k < n
      · rw [htake, Nat.min_eq_left (by omega), ← countTo_add, ← countTo_add]
        exact h.above _ (Nat.le_add_right start k) (by omega)
      · rw [htake, Nat.min_eq_right (by omega), hbalanced]
  · rintro ⟨hn, hreturns⟩
    refine ⟨Nat.le_add_right start n, by omega, ?_, fun place hstart hplace => ?_⟩
    · rw [countTo_add, countTo_add, hreturns.balanced, Nat.zero_add]
    · obtain ⟨k, rfl⟩ := Nat.exists_eq_add_of_le hstart
      have habove := hreturns.above ((bs.drop start).take (k + 1)) (List.take_prefix_take_left (by omega))
      rwa [countTo_add, countTo_add, ← Nat.zero_add (List.count opening _)]

theorem findMatching_eq_some_iff {n : Nat} : findMatching bs start opening closer = some (start + n) ↔
    closing opening closer 0 (bs.drop start) = some n := by
  rw [findMatching, Option.map_eq_some_iff]
  constructor
  · rintro ⟨m, hm, hsum⟩
    obtain rfl : m = n := by omega
    exact hm
  · exact fun hn => ⟨n, hn, Nat.add_comm n start⟩

/-- a delimiter that is found stands behind the place -/
theorem le_of_findMatching {r : Nat} (h : findMatching bs start opening closer = some r) : start ≤ r := by
  obtain ⟨n, -, rfl⟩ := Option.map_eq_some_iff.1 h
  exact Nat.le_add_left start n

/-- What is found closes. -/
theorem balancedTo_of_findMatching (hne : opening ≠ closer) {r : Nat}
    (h : findMatching bs start opening closer = some r) :
    bs[r]? = some closer ∧ BalancedTo opening closer bs start r := by
  obtain ⟨n, rfl⟩ := Nat.exists_eq_add_of_le (le_of_findMatching h)
  obtain ⟨hcloser, hreturns⟩ := returns_of_closing hne.symm (findMatching_eq_some_iff.1 h)
  rw [balancedTo_iff, ← List.getElem?_drop]
  exact ⟨hcloser, (List.getElem?_eq_some_iff.1 hcloser).1, hreturns⟩

/-- Nothing is balanced before what is found, if it ends with a closing delimiter or starts with an opening one. -/
theorem exists_findMatching (hne : opening ≠ closer) {last : Nat} (h : BalancedTo opening closer bs start last)
    (hend : bs[start]? = some opening ∨ bs[last]? = some closer) :
    ∃ r ≤ last, findMatching bs start opening closer = some r := by
  obtain ⟨m, rfl⟩ := Nat.exists_eq_add_of_le h.ordered
  obtain ⟨hm, hreturns⟩ := balancedTo_iff.1 h
  rw [← List.head?_drop, ← List.getElem?_drop] at hend
  obtain ⟨n, hn, hclosing⟩ := exists_closing hne.symm hm hreturns (.inr hend)
  exact ⟨start + n, Nat.add_le_add_left hn start, findMatching_eq_some_iff.2 hclosing⟩

end

/-- A search that finds places of a set, and one as soon as there is any, finds the least. -/
theorem eq_some_iff_isLeast {found : Option Nat} {places : Set Nat} (hmem : ∀ r, found = some r → r ∈ places)
    (hbefore : ∀ last ∈ places, ∃ r ≤ last, found = some r) (r : Nat) : found = some r ↔ IsLeast places r := by
  constructor
  · refine fun h => ⟨hmem r h, fun last hlast => ?_⟩
    obtain ⟨r', hle, h'⟩ := hbefore last hlast
    obtain rfl : r = r' := Option.some.inj (h.symm.trans h')
    exact hle
  · intro h
    obtain ⟨r', hle, h'⟩ := hbefore r h.1
    rw [h', Nat.le_antisymm hle (h.2 (hmem r' h'))]

/-- **Counting finds the first closing delimiter that balances**, and fails only where none does. From an opening
delimiter on, what it finds ends the shortest balanced block. -/
theorem findMatching_isLeast {opening closer : UInt8} (hne : opening ≠ closer) (bs : Bytes) (start : Nat) :
    (∀ r, findMatching bs start opening closer = some r ↔
      IsLeast {last | bs[last]? = some closer ∧ BalancedTo opening closer bs start last} r) ∧
    (findMatching bs start opening closer = none ↔
      ∀ last, bs[last]? = some closer → ¬ BalancedTo opening closer bs start last) ∧
    (bs[start]? = some opening → ∀ r, findMatching bs start opening closer = some r ↔
      IsLeast {last | BalancedTo opening closer bs start last} r) := by
  have hfound : ∀ r, findMatching bs start opening closer = some r →
      bs[r]? = some closer ∧ BalancedTo opening closer bs start r := fun r h => balancedTo_of_findMatching hne h
  refine ⟨eq_some_iff_isLeast hfound fun last h => exists_findMatching hne h.2 (.inr h.1), ?_,
    fun hopen => eq_some_iff_isLeast (fun r h => (hfound r h).2) fun last h => exists_findMatching hne h (.inl hopen)⟩
  rw [Option.eq_none_iff_forall_ne_some]
  refine ⟨fun hnone last hclose hbalanced => ?_, fun hnone r h => hnone r (hfound r h).1 (hfound r h).2⟩
  obtain ⟨r, -, h⟩ := exists_findMatching hne hbalanced (.inr hclose)
  exact hnone r h

/-- the parameters of a call within the parameters of another one -/
theorem findMatching_nested :
    parenOpen ≠ parenClose ∧ findMatching (encode "f(a(b), c) + 1)") 1 parenOpen parenClose = some 9 ∧
      IsLeast {last | BalancedTo parenOpen parenClose (encode "f(a(b), c) + 1)") 1 last} 9 := by
  have hne : parenOpen ≠ parenClose := by decide
  have hopen : (encode "f(a(b), c) + 1)")[1]? = some parenOpen := by decide +kernel
  have hfound : findMatching (encode "f(a(b), c) + 1)") 1 parenOpen parenClose = some 9 := by decide +kernel
  exact ⟨hne, hfound, ((findMatching_isLeast hne _ 1).2.2 hopen 9).1 hfound⟩

/-- What ends a declaration: bytes of a throws clause, and then a semicolon or the shortest block. -/
theorem ending_parts {rest : Bytes} {gap : Nat} {body : Option Nat} (h : ending rest = some (gap, body)) :
    ∃ clause last after, rest = clause ++ last ++ after ∧ clause.length = gap ∧
      ((body = none ∧ last = [semicolon]) ∨ (body = some last.length ∧ Encloses braceOpen braceClose last)) := by
  induction rest generalizing gap with
  | nil => exact absurd h (Option.some_ne_none _).symm
  | cons b rest ih =>
    rw [ending] at h
    split at h
    · rename_i hbrace
      subst hbrace
      obtain ⟨n, hn, hpair⟩ := Option.map_eq_some_iff.1 h
      obtain ⟨rfl, rfl⟩ := Prod.mk.inj hpair
      obtain ⟨inner, after, rfl, rfl, hblock⟩ := closing_encloses (by decide) hn
      exact ⟨[], braceOpen :: inner ++ [braceClose], after, by simp, rfl, .inr ⟨by simp, hblock⟩⟩
    · split at h
      · rename_i hsemicolon
        subst hsemicolon
        obtain ⟨rfl, rfl⟩ := Prod.mk.inj (Option.some.inj h)
        exact ⟨[], [semicolon], rest, rfl, rfl, .inl ⟨rfl, rfl⟩⟩
      · split at h
        · obtain ⟨⟨n, body'⟩, hrest, hpair⟩ := Option.map_eq_some_iff.1 h
          obtain ⟨rfl, rfl⟩ := Prod.mk.inj hpair
          obtain ⟨clause, last, after, rfl, rfl, hlast⟩ := ih hrest
          exact ⟨b :: clause, last, after, rfl, rfl, hlast⟩
        · exact absurd h (Option.some_ne_none _).symm

/-! ## Backwards -/

/-- a closing parenthesis of the bytes has no opening one among them: no run of bytes up to it opens more than it
closes -/
def HasLooseCloser (bs : Bytes) : Prop :=
  ∃ front back, bs = front ++ parenClose :: back ∧
    ∀ run, run <:+ front → run.count parenOpen ≤ run.count parenClose

/-- the same of bytes that are given last first -/
def HasLooseCloserBack (bs : Bytes) : Prop :=
  ∃ back front, bs = back ++ parenClose :: front ∧
    ∀ run, run <+: front → run.count parenOpen ≤ run.count parenClose

theorem HasLooseCloserBack.reverse {bs : Bytes} (h : HasLooseCloserBack bs) : HasLooseCloser bs.reverse := by
  obtain ⟨back, front, rfl, hrun⟩ := h
  refine ⟨front.reverse, back.reverse, by simp, fun run hsuffix => ?_⟩
  have := hrun run.reverse (by rwa [← List.reverse_suffix, List.reverse_reverse])
  rwa [List.count_reverse, List.count_reverse] at this

theorem HasLooseCloserBack.cons {bs : Bytes} (h : HasLooseCloserBack bs) (b : UInt8) : HasLooseCloserBack (b :: bs) := by
  obtain ⟨back, front, rfl, hrun⟩ := h
  exact ⟨b :: back, front, rfl, hrun⟩

/-- the bytes, last first, stay inside parentheses from the depth that they start at -/
def StaysInside (depth : Nat) (bs : Bytes) : Prop :=
  ∀ run, run <+: bs → run.count parenOpen < depth + run.count parenClose

theorem StaysInside.closed {depth : Nat} {bs : Bytes} (h : StaysInside (depth + 2) bs) :
    StaysInside (depth + 1) (parenClose :: bs) := by
  refine forall_prefix_cons.2 ⟨Nat.succ_pos _, fun run hrun => ?_⟩
  have hinside := h run hrun
  rw [List.count_cons_self, List.count_cons_of_ne (by decide)]
  omega

theorem StaysInside.opened {depth : Nat} {bs : Bytes} (h : StaysInside (depth - 1) bs) :
    StaysInside depth (parenOpen :: bs) := by
  have hdepth : 0 < depth - 1 := h [] List.nil_prefix
  refine forall_prefix_cons.2 ⟨by rw [List.count_nil, List.count_nil]; omega, fun run hrun => ?_⟩
  have hinside := h run hrun
  rw [List.count_cons_self, List.count_cons_of_ne (by decide)]
  omega

theorem StaysInside.passed {b : UInt8} (hopen : b ≠ parenOpen) (hclose : b ≠ parenClose) {depth : Nat} {bs : Bytes}
    (h : StaysInside depth bs) : StaysInside depth (b :: bs) := by
  refine forall_prefix_cons.2 ⟨h [] List.nil_prefix, fun run hrun => ?_⟩
  rw [List.count_cons_of_ne hopen, List.count_cons_of_ne hclose]
  exact h run hrun

/-- A header that passes a stop is inside parentheses there: either they were open at the start, or they were closed in
between and not opened. -/
theorem looseCloserBack_of_headerLength {depth : Nat} {between more : Bytes} {stop : UInt8}
    (hstop : isStopByte stop = true) (h : between.length < headerLength depth (between ++ stop :: more)) :
    HasLooseCloserBack between ∨ StaysInside depth between := by
  induction between generalizing depth with
  | nil =>
    refine .inr fun run hrun => ?_
    rw [List.prefix_nil.1 hrun]
    cases depth with
    | zero =>
      rw [List.nil_append, headerLength_atStop ⟨stop, rfl, hstop⟩] at h
      exact absurd h (Nat.lt_irrefl 0)
    | succ d => exact Nat.succ_pos d
  | cons b between ih =>
    rw [List.cons_append, List.length_cons, headerLength] at h
    by_cases hclose : b = parenClose
    · subst hclose
      rw [if_pos rfl] at h
      rcases ih (Nat.lt_of_succ_lt_succ h) with hloose | hinside
      · exact .inl (hloose.cons _)
      · cases depth with
        | zero => exact .inl ⟨[], between, rfl, fun run hrun => by have := hinside run hrun; omega⟩
        | succ d => exact .inr hinside.closed
    rw [if_neg hclose] at h
    by_cases hopen : b = parenOpen
    · subst hopen
      rw [if_pos rfl] at h
      exact (ih (Nat.lt_of_succ_lt_succ h)).imp (·.cons _) StaysInside.opened
    rw [if_neg hopen] at h
    split at h
    · exact absurd h (Nat.not_lt_zero _)
    · exact (ih (Nat.lt_of_succ_lt_succ h)).imp (·.cons _) (StaysInside.passed hopen hclose)

/-- **A header passes a stop only behind a closing parenthesis without its opening one.** -/
theorem hasLooseCloser_of_headerLength {between more : Bytes} {stop : UInt8} (hstop : isStopByte stop = true)
    (h : between.length < headerLength 0 (between.reverse ++ stop :: more)) : HasLooseCloser between := by
  rw [← List.length_reverse] at h
  rcases looseCloserBack_of_headerLength hstop h with hloose | hinside
  · simpa using hloose.reverse
  · exact absurd (hinside [] List.nil_prefix) (Nat.lt_irrefl 0)

end CodeSurvey.Source
