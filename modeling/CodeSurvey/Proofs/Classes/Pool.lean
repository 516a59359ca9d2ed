/-
The pool of constants and the numbers of its entries.

The reader counts numbers down and marks the second number of a wide value; a layout lists entries. `reads_constants`
says that the reader takes exactly the entries that fill the numbers, by induction on how many numbers are left, and
`getElem?_pool` that the constant with a number is the entry with that number. So a class is found under a number
exactly when the entries lead from the number to its name (`className_pool`).
-/
import CodeSurvey.Proofs.Classes.Entries

namespace CodeSurvey.ClassFile

open Text

/-! ## Filling the numbers -/

/-- the constants by number, from number 1 on -/
def constants (es : List Entry) : List Constant := es.flatMap Entry.constants

theorem used_cons (e : Entry) (es : List Entry) : used (e :: es) = e.width + used es := rfl

theorem used_append (es es' : List Entry) : used (es ++ es') = used es + used es' := by
  induction es with
  | nil => exact (Nat.zero_add _).symm
  | cons e es ih => rw [List.cons_append, used_cons, used_cons, ih, Nat.add_assoc]

theorem fills_zero (es : List Entry) : Fills 0 es ↔ es = [] := by
  constructor
  · intro h
    cases es with
    | nil => rfl
    | cons e es => exact absurd (h.needed [] e es rfl) (Nat.not_lt_zero _)
  · rintro rfl
    exact ⟨Nat.zero_le _, fun before e after h => by simp at h⟩

theorem fills_succ (n : Nat) (es : List Entry) :
    Fills (n + 1) es ↔ ∃ e es', es = e :: es' ∧ Fills (n + 1 - e.width) es' := by
  constructor
  · intro h
    cases es with
    | nil => exact absurd h.enough (Nat.not_succ_le_zero n)
    | cons e es =>
      refine ⟨e, es, rfl, ⟨?_, fun before e' after hsplit => ?_⟩⟩
      · have := h.enough
        rw [used_cons] at this
        omega
      · have := h.needed (e :: before) e' after (by rw [hsplit, List.cons_append])
        rw [used_cons] at this
        omega
  · rintro ⟨e, es, rfl, h⟩
    refine ⟨?_, fun before e' after hsplit => ?_⟩
    · have := h.enough
      rw [used_cons]
      omega
    · cases before with
      | nil => exact Nat.succ_pos n
      | cons e₀ before =>
        rw [List.cons_append] at hsplit
        obtain ⟨rfl, htail⟩ := List.cons.inj hsplit
        have := h.needed before e' after htail
        rw [used_cons]
        omega

theorem readConstants_second (number n : Nat) : readConstants number true (n + 1) =
    (readConstants (number + 1) false n).bind fun ks => Step.lift (.ok (.unusable :: ks)) := rfl

theorem readConstants_next (number n : Nat) : readConstants number false (n + 1) =
    (readConstant number).bind fun k => (readConstants (number + 1) (k == .wideValue) n).bind fun ks =>
      Step.lift (.ok (k :: ks)) := rfl

/-- **The reader takes exactly the entries that fill the numbers**, and a wide value at the end may run one over. -/
theorem reads_constants (n : Nat) : ∀ number second, Reads (readConstants number second n) fun ks bs =>
    ∃ es, Fills (n - (pending second).length) es ∧ bs = es.flatMap Entry.bytes ∧
      ks = (pending second ++ constants es).take n := by
  -- a wide value hands `second` on to the next number, so both values of it go through the induction
  induction n with
  | zero =>
    intro number second
    have hzero : readConstants number second 0 = Step.lift (.ok []) := rfl
    rw [hzero]
    refine (reads_lift _).congr fun ks bs => ?_
    rw [Nat.zero_sub]
    constructor
    · rintro ⟨hks, rfl⟩
      exact ⟨[], (fills_zero []).2 rfl, rfl, (Except.ok.inj hks).symm⟩
    · rintro ⟨es, hfills, rfl, rfl⟩
      rw [(fills_zero es).1 hfills]
      exact ⟨rfl, rfl⟩
  | succ n ih =>
    intro number second
    cases second with
    | true =>
      rw [readConstants_second]
      refine (reads_bind (ih (number + 1) false) fun ks => reads_lift _).congr fun ks bs => ?_
      constructor
      · rintro ⟨_, _, _, ⟨es, hfills, rfl, rfl⟩, ⟨hks, rfl⟩, rfl⟩
        exact ⟨es, hfills, List.append_nil _, (Except.ok.inj hks).symm⟩
      · rintro ⟨es, hfills, rfl, rfl⟩
        exact ⟨_, _, [], ⟨es, hfills, rfl, rfl⟩, ⟨rfl, rfl⟩, (List.append_nil _).symm⟩
    | false =>
      rw [readConstants_next]
      refine (reads_bind (reads_constant number) fun k =>
        reads_bind (ih (number + 1) (k == .wideValue)) fun ks => reads_lift _).congr fun ks bs => ?_
      have hleft : ∀ e : Entry, n + 1 - e.width = n - (pending (e.constant == .wideValue)).length := by
        intro e
        rw [← e.length_constants, Entry.constants, List.length_cons, Nat.add_sub_add_right]
      have htaken : ∀ (e : Entry) (es : List Entry), (constants (e :: es)).take (n + 1) =
          e.constant :: (pending (e.constant == .wideValue) ++ constants es).take n := by
        intro e es
        rw [constants, List.flatMap_cons, Entry.constants, List.cons_append, List.take_succ_cons, constants]
      constructor
      · rintro ⟨_, _, _, ⟨e, rfl, rfl⟩, ⟨_, _, _, ⟨es, hfills, rfl, rfl⟩, ⟨hks, rfl⟩, rfl⟩, rfl⟩
        obtain rfl := Except.ok.inj hks
        refine ⟨e :: es, (fills_succ n _).2 ⟨e, es, rfl, by rwa [hleft]⟩, ?_, (htaken e es).symm⟩
        rw [List.append_nil, List.flatMap_cons]
      · rintro ⟨es, hfills, rfl, rfl⟩
        obtain ⟨e, es, rfl, hrest⟩ := (fills_succ n es).1 hfills
        rw [hleft] at hrest
        refine ⟨_, _, es.flatMap Entry.bytes, ⟨e, rfl, rfl⟩,
          ⟨_, _, [], ⟨es, hrest, rfl, rfl⟩, ⟨congrArg Except.ok (htaken e es).symm, rfl⟩, ?_⟩, ?_⟩
        · rw [List.append_nil]
        · rw [List.flatMap_cons]

/-! ## Numbers -/

theorem numbered_cons {e e' : Entry} {es : List Entry} {i : Nat} :
    Numbered (e :: es) (i + 1) e' ↔ (i = 0 ∧ e' = e) ∨ ∃ j, i = e.width + j ∧ Numbered es (j + 1) e' := by
  constructor
  · rintro ⟨before, after, hsplit, hi⟩
    cases before with
    | nil =>
      obtain ⟨rfl, rfl⟩ := List.cons.inj hsplit
      exact .inl ⟨Nat.succ.inj hi, rfl⟩
    | cons e₀ before =>
      rw [List.cons_append] at hsplit
      obtain ⟨rfl, rfl⟩ := List.cons.inj hsplit
      rw [used_cons] at hi
      exact .inr ⟨used before, Nat.succ.inj hi, before, after, rfl, rfl⟩
  · rintro (⟨rfl, rfl⟩ | ⟨j, rfl, before, after, rfl, hj⟩)
    · exact ⟨[], es, rfl, rfl⟩
    · refine ⟨e :: before, after, rfl, ?_⟩
      rw [used_cons]
      omega

/-- the constants that are there are those of the entries, each at its number -/
theorem getElem?_constants {k : Constant} (hk : k ≠ .unusable) (es : List Entry) :
    ∀ i, (constants es)[i]? = some k ↔ ∃ e, Numbered es (i + 1) e ∧ e.constant = k := by
  induction es with
  | nil =>
    refine fun i => ⟨fun h => by simp [constants] at h, ?_⟩
    rintro ⟨e, ⟨before, after, hsplit, -⟩, -⟩
    simp at hsplit
  | cons e es ih =>
    intro i
    have hfront : ∀ i < e.width, e.constants[i]? = some k ↔ i = 0 ∧ e.constant = k := by
      intro i hi
      rw [Entry.constants]
      cases i with
      | zero => simp
      | succ i =>
        refine ⟨fun h => ?_, fun h => absurd h.1 (Nat.succ_ne_zero i)⟩
        rw [List.getElem?_cons_succ, pending] at h
        -- behind the constant itself stands at most the second number of a wide value
        have hmem := List.mem_of_getElem? h
        split at hmem
        · exact absurd (List.mem_singleton.1 hmem) hk
        · simp at hmem
    have hwidth := e.width_pos
    rw [constants, List.flatMap_cons, ← constants, List.getElem?_append, e.length_constants]
    constructor
    · intro h
      split at h
      · rename_i hi
        obtain ⟨rfl, hk⟩ := (hfront i hi).1 h
        exact ⟨e, numbered_cons.2 (.inl ⟨rfl, rfl⟩), hk⟩
      · rename_i hi
        obtain ⟨e', he', hk⟩ := (ih _).1 h
        exact ⟨e', numbered_cons.2 (.inr ⟨i - e.width, by omega, he'⟩), hk⟩
    · rintro ⟨e', he', hconstant⟩
      obtain ⟨rfl, rfl⟩ | ⟨j, rfl, hj⟩ := numbered_cons.1 he'
      · rw [if_pos hwidth]
        exact (hfront 0 hwidth).2 ⟨rfl, hconstant⟩
      · rw [if_neg (Nat.not_lt.2 (Nat.le_add_right _ _)), Nat.add_sub_cancel_left]
        exact (ih j).2 ⟨e', hj, hconstant⟩

/-- the pool of a file with the entries -/
def pool (n : Nat) (es : List Entry) : List Constant := .unusable :: (constants es).take n

/-- **The constant with a number is the entry with that number.** -/
theorem getElem?_pool {n : Nat} {es : List Entry} (hfills : Fills n es) {k : Constant} (hk : k ≠ .unusable)
    (number : Nat) : (pool n es)[number]? = some k ↔ ∃ e, Numbered es number e ∧ e.constant = k := by
  cases number with
  | zero =>
    refine ⟨fun h => ?_, ?_⟩
    · exact absurd (Option.some.inj h).symm hk
    · rintro ⟨e, ⟨before, after, -, h⟩, -⟩
      exact absurd h (Nat.succ_ne_zero _).symm
  | succ i =>
    rw [pool, List.getElem?_cons_succ, List.getElem?_take, ← getElem?_constants hk es i]
    split
    · rfl
    · rename_i hi
      refine ⟨fun h => by simp at h, fun h => ?_⟩
      obtain ⟨e, ⟨before, after, hsplit, hnumber⟩, -⟩ := (getElem?_constants hk es i).1 h
      have := hfills.needed before e after hsplit
      omega

/-! ## Names of classes -/

theorem className_eq_ok {pool : List Constant} {number : Nat} {s : String} :
    className pool number = .ok s ↔
      ∃ target, pool[number]? = some (.classAt target) ∧ pool[target]? = some (.name s) := by
  unfold className
  constructor
  · intro h
    split at h
    · rename_i target htarget
      split at h
      · rename_i hname
        exact ⟨target, htarget, Except.ok.inj h ▸ hname⟩
      · simp at h
    · simp at h
  · rintro ⟨target, htarget, hname⟩
    simp only [htarget, hname]

/-- how the reader takes the bytes of a name -/
def Decoded (bs : Bytes) (s : String) : Prop := decodeLossy bs = s

theorem className_pool {n : Nat} {es : List Entry} (hfills : Fills n es) (number : UInt16) (s : String) :
    className (pool n es) number.toNat = .ok s ↔ Leads es Decoded number s := by
  have hclass := fun target => getElem?_pool hfills (show Constant.classAt target ≠ .unusable by simp) number.toNat
  have hname := getElem?_pool hfills (show Constant.name s ≠ .unusable by simp)
  simp only [className_eq_ok, hclass, hname, constant_eq_classAt, constant_eq_name]
  constructor
  · rintro ⟨_, ⟨_, hnumber, target, rfl, rfl⟩, _, htarget, bs, fits, rfl, hbs⟩
    exact ⟨target, bs, fits, hnumber, htarget, hbs⟩
  · rintro ⟨target, bs, fits, hnumber, htarget, hbs⟩
    exact ⟨_, ⟨_, hnumber, target, rfl, rfl⟩, _, htarget, bs, fits, rfl, hbs⟩

end CodeSurvey.ClassFile
