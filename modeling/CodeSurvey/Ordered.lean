/-
Tables in key order.

An `Ordered` table holds pairs of a key and a value, each key once, in the order of the keys. The order is part of the
type: `insert` puts a pair where it belongs and replaces the value of a key that is there. Walks, reports and searches
that ask for "the first in name order" read the entries from the front. A set of names is a table without values.
`get?_eq_some_iff` ties look-ups to entries, `get?_insert` says what an insertion changes, `ext_get?` that look-ups tell
all of a table, and `mem_toList_union` which names two sets have together.
-/

namespace CodeSurvey

/-- keys in a strict total order -/
class OrderedKey (κ : Type) [LT κ] : Prop where
  lt_trans : ∀ {a b c : κ}, a < b → b < c → a < c
  lt_irrefl : ∀ a : κ, ¬ a < a
  eq_of_not_lt : ∀ {a b : κ}, ¬ a < b → ¬ b < a → a = b

instance : OrderedKey String where
  lt_trans := String.lt_trans
  lt_irrefl := String.lt_irrefl
  eq_of_not_lt h h' := String.le_antisymm h' h

instance : OrderedKey (List String) where
  lt_trans := List.lt_trans
  lt_irrefl := List.lt_irrefl
  eq_of_not_lt h h' := List.le_antisymm h' h

/-- pairs with strictly rising keys -/
structure Ordered (κ : Type) [LT κ] (α : Type) where
  entries : List (κ × α)
  rising : entries.Pairwise fun a b => a.1 < b.1

namespace Ordered

variable {κ α β : Type} [LT κ] [DecidableLT κ]

/-- the pairs with one more, at its place; the value of an equal key is replaced -/
def place (k : κ) (v : α) : List (κ × α) → List (κ × α)
  | [] => [(k, v)]
  | (k', v') :: rest =>
    if k < k' then (k, v) :: (k', v') :: rest
    else if k' < k then (k', v') :: place k v rest
    else (k', v) :: rest

theorem key_of_mem_place {k : κ} {v : α} {p : κ × α} {es : List (κ × α)} (h : p ∈ place k v es) :
    p.1 = k ∨ ∃ q ∈ es, q.1 = p.1 := by
  induction es with
  | nil => simp_all [place]
  | cons e es ih =>
    obtain ⟨k', v'⟩ := e
    unfold place at h
    split at h
    · rcases List.mem_cons.1 h with rfl | h
      · exact .inl rfl
      · exact .inr ⟨p, h, rfl⟩
    · split at h
      · rcases List.mem_cons.1 h with rfl | h
        · exact .inr ⟨_, .head _, rfl⟩
        · rcases ih h with h | ⟨q, hq, e⟩
          · exact .inl h
          · exact .inr ⟨q, .tail _ hq, e⟩
      · rcases List.mem_cons.1 h with rfl | h
        · exact .inr ⟨_, .head _, rfl⟩
        · exact .inr ⟨p, .tail _ h, rfl⟩

theorem rising_place [OrderedKey κ] (k : κ) (v : α) {es : List (κ × α)} (h : es.Pairwise fun a b => a.1 < b.1) :
    (place k v es).Pairwise fun a b => a.1 < b.1 := by
  induction es with
  | nil => simp [place]
  | cons e es ih =>
    obtain ⟨k', v'⟩ := e
    obtain ⟨first, rest⟩ := List.pairwise_cons.1 h
    unfold place
    split
    · rename_i lt
      refine List.pairwise_cons.2 ⟨fun p hp => ?_, h⟩
      rcases List.mem_cons.1 hp with rfl | hp
      · exact lt
      · exact OrderedKey.lt_trans lt (first p hp)
    · split
      · rename_i lt
        refine List.pairwise_cons.2 ⟨fun p hp => ?_, ih rest⟩
        rcases key_of_mem_place hp with h | ⟨q, hq, e⟩
        · exact h ▸ lt
        · exact e ▸ first q hq
      · exact List.pairwise_cons.2 ⟨fun p hp => first p hp, rest⟩

def empty : Ordered κ α := ⟨[], .nil⟩

instance : EmptyCollection (Ordered κ α) := ⟨empty⟩

/-- the table with the pair; an equal key's value is replaced -/
def insert [OrderedKey κ] (t : Ordered κ α) (k : κ) (v : α) : Ordered κ α :=
  ⟨place k v t.entries, rising_place k v t.rising⟩

/-- the value of a key -/
def get? [BEq κ] (t : Ordered κ α) (k : κ) : Option α := t.entries.lookup k

def contains [BEq κ] (t : Ordered κ α) (k : κ) : Bool := (t.get? k).isSome

/-- the table with the pair, unless the key is there -/
def insertNew [BEq κ] [OrderedKey κ] (t : Ordered κ α) (k : κ) (v : α) : Ordered κ α :=
  if t.contains k then t else t.insert k v

/-- the entries that pass the test -/
def filter (t : Ordered κ α) (keep : κ → α → Bool) : Ordered κ α :=
  ⟨t.entries.filter fun e => keep e.1 e.2, t.rising.filter _⟩

/-- the keys, each with a new value -/
def map (t : Ordered κ α) (f : α → β) : Ordered κ β :=
  ⟨t.entries.map fun e => (e.1, f e.2), by simpa [List.pairwise_map] using t.rising⟩

/-- the keys in order -/
def keys (t : Ordered κ α) : List κ := t.entries.map (·.1)

def size (t : Ordered κ α) : Nat := t.entries.length

/-- the table of the pairs; of two with one key the later counts -/
def ofList [OrderedKey κ] (es : List (κ × α)) : Ordered κ α :=
  es.foldl (fun t e => t.insert e.1 e.2) empty

end Ordered

namespace Ordered

/-! ## Look-ups -/

variable {κ α : Type} [LT κ] [OrderedKey κ] [DecidableEq κ] [BEq κ] [LawfulBEq κ]

omit [LT κ] [OrderedKey κ] in
theorem lookup_cons_eq (k l : κ) (w : α) (es : List (κ × α)) :
    ((l, w) :: es).lookup k = if k = l then some w else es.lookup k := by
  by_cases h : k = l
  · subst h
    simp
  · simp [List.lookup_cons, h, beq_eq_false_iff_ne.2 h]

/-- A look-up finds exactly the entries. -/
theorem get?_eq_some_iff (t : Ordered κ α) (k : κ) (v : α) : t.get? k = some v ↔ (k, v) ∈ t.entries := by
  obtain ⟨es, rising⟩ := t
  show es.lookup k = some v ↔ (k, v) ∈ es
  induction es with
  | nil => simp
  | cons e es ih =>
    obtain ⟨l, w⟩ := e
    obtain ⟨first, rest⟩ := List.pairwise_cons.1 rising
    rw [lookup_cons_eq, List.mem_cons, Prod.mk.injEq]
    by_cases h : k = l
    · subst h
      have absent : (k, v) ∉ es := fun hm => OrderedKey.lt_irrefl k (first _ hm)
      simp [absent, eq_comm]
    · simp [h, ih rest]

theorem mem_keys_iff (t : Ordered κ α) (k : κ) : k ∈ t.keys ↔ ∃ v, t.get? k = some v := by
  simp only [keys, List.mem_map, get?_eq_some_iff]
  constructor
  · rintro ⟨e, he, rfl⟩
    exact ⟨e.2, he⟩
  · rintro ⟨v, hv⟩
    exact ⟨(k, v), hv, rfl⟩

/-- A look-up after a filter finds what passes the test. -/
theorem get?_filter (t : Ordered κ α) (keep : κ → α → Bool) (k : κ) :
    (t.filter keep).get? k = (t.get? k).filter (keep k) := by
  refine Option.ext fun v => ?_
  rw [get?_eq_some_iff, Option.filter_eq_some_iff, get?_eq_some_iff]
  exact List.mem_filter

omit [OrderedKey κ] [DecidableEq κ] [BEq κ] [LawfulBEq κ] in
@[simp] theorem keys_map {β : Type} (t : Ordered κ α) (f : α → β) : (t.map f).keys = t.keys := by
  simp [keys, map]

omit [DecidableEq κ] [BEq κ] [LawfulBEq κ] in
theorem eq_of_mem_iff {es fs : List (κ × α)} (hes : es.Pairwise fun a b => a.1 < b.1)
    (hfs : fs.Pairwise fun a b => a.1 < b.1) (h : ∀ p, p ∈ es ↔ p ∈ fs) : es = fs := by
  induction es generalizing fs with
  | nil => exact (List.eq_nil_iff_forall_not_mem.2 fun p hp => nomatch (h p).2 hp).symm
  | cons e es ih =>
    cases fs with
    | nil => exact nomatch (h e).1 List.mem_cons_self
    | cons f fs =>
      obtain ⟨first, rest⟩ := List.pairwise_cons.1 hes
      obtain ⟨first', rest'⟩ := List.pairwise_cons.1 hfs
      have heq : e = f := by
        rcases List.mem_cons.1 ((h e).1 List.mem_cons_self) with heq | he
        · exact heq
        · rcases List.mem_cons.1 ((h f).2 List.mem_cons_self) with heq | hf
          · exact heq.symm
          · exact absurd (OrderedKey.lt_trans (first _ hf) (first' _ he)) (OrderedKey.lt_irrefl _)
      subst heq
      refine congrArg (e :: ·) (ih rest rest' fun p => ?_)
      constructor
      · intro hp
        rcases List.mem_cons.1 ((h p).1 (List.mem_cons_of_mem _ hp)) with rfl | hp'
        · exact absurd (first _ hp) (OrderedKey.lt_irrefl _)
        · exact hp'
      · intro hp
        rcases List.mem_cons.1 ((h p).2 (List.mem_cons_of_mem _ hp)) with rfl | hp'
        · exact absurd (first' _ hp) (OrderedKey.lt_irrefl _)
        · exact hp'

/-- Tables with the same look-ups are equal. -/
theorem ext_get? {t u : Ordered κ α} (h : ∀ k, t.get? k = u.get? k) : t = u := by
  have hentries : t.entries = u.entries :=
    eq_of_mem_iff t.rising u.rising fun p => by rw [← get?_eq_some_iff, ← get?_eq_some_iff, h]
  obtain ⟨es, hes⟩ := t
  obtain ⟨fs, hfs⟩ := u
  cases hentries
  rfl

theorem mem_keys_filter (t : Ordered κ α) (keep : κ → α → Bool) (k : κ) :
    k ∈ (t.filter keep).keys ↔ ∃ v, t.get? k = some v ∧ keep k v = true := by
  simp only [mem_keys_iff, get?_eq_some_iff, filter, List.mem_filter]

theorem contains_iff (t : Ordered κ α) (k : κ) : t.contains k = true ↔ k ∈ t.keys := by
  rw [mem_keys_iff, contains, Option.isSome_iff_exists]

theorem lookup_place [DecidableLT κ] (k k' : κ) (v : α) (es : List (κ × α)) :
    (place k v es).lookup k' = if k' = k then some v else es.lookup k' := by
  induction es with
  | nil => simp [place, lookup_cons_eq]
  | cons e es ih =>
    obtain ⟨l, w⟩ := e
    unfold place
    split
    · simp [lookup_cons_eq]
    · split
      · rename_i lt
        have hl : l ≠ k := fun h => OrderedKey.lt_irrefl k (h ▸ lt)
        by_cases h : k' = l
        · simp [h, hl]
        · simp [lookup_cons_eq, h, ih]
      · rename_i not_lt not_gt
        have hl : k = l := OrderedKey.eq_of_not_lt not_lt not_gt
        rw [hl, lookup_cons_eq, lookup_cons_eq]
        by_cases h : k' = l <;> simp [h]

/-- An insertion changes the value of its key and of no other. -/
theorem get?_insert [DecidableLT κ] (t : Ordered κ α) (k k' : κ) (v : α) :
    (t.insert k v).get? k' = if k' = k then some v else t.get? k' :=
  lookup_place k k' v t.entries

theorem get?_foldl_insert [DecidableLT κ] (es : List (κ × α)) (t : Ordered κ α) (k : κ) :
    (es.foldl (fun t e => t.insert e.1 e.2) t).get? k =
      (((es.filter (·.1 = k)).getLast?).map (·.2)).or (t.get? k) := by
  induction es generalizing t with
  | nil => rfl
  | cons e es ih =>
    rw [List.foldl_cons, ih, get?_insert]
    by_cases h : e.1 = k
    · rw [List.filter_cons_of_pos (by simpa using h), List.getLast?_cons, if_pos h.symm]
      cases (es.filter (·.1 = k)).getLast? <;> rfl
    · rw [List.filter_cons_of_neg (by simpa using h), if_neg (Ne.symm h)]

theorem get?_insertNew [DecidableLT κ] (t : Ordered κ α) (k k' : κ) (v : α) :
    (t.insertNew k v).get? k' = (t.get? k').or (if k' = k then some v else none) := by
  rw [insertNew, contains]
  by_cases h : k' = k
  · subst h
    cases hk : t.get? k' with
    | some w => rw [Option.isSome_some, if_pos rfl, hk, Option.some_or]
    | none => rw [Option.isSome_none, if_neg Bool.false_ne_true, get?_insert, if_pos rfl, Option.none_or,
        if_pos rfl]
  · rw [if_neg h, Option.or_none]
    split
    · rfl
    · rw [get?_insert, if_neg h]

/-- Pairs put into a table unless their key is there: an entry stays, and of the pairs with a new key the first counts. -/
theorem get?_foldl_insertNew [DecidableLT κ] (es : List (κ × α)) (t : Ordered κ α) (k : κ) :
    (es.foldl (fun t e => t.insertNew e.1 e.2) t).get? k = (t.get? k).or (es.lookup k) := by
  induction es generalizing t with
  | nil => exact Option.or_none.symm
  | cons e es ih =>
    rw [List.foldl_cons, ih, get?_insertNew, Option.or_assoc, lookup_cons_eq]
    by_cases h : k = e.1
    · rw [if_pos h, if_pos h, Option.some_or]
    · rw [if_neg h, if_neg h, Option.none_or]

/-- A table of pairs has the last value of each key. -/
theorem get?_ofList [DecidableLT κ] (es : List (κ × α)) (k : κ) :
    (ofList es).get? k = ((es.filter (·.1 = k)).getLast?).map (·.2) := by
  rw [ofList, get?_foldl_insert]
  exact Option.or_none

theorem mem_keys_insert [DecidableLT κ] (t : Ordered κ α) (k k' : κ) (v : α) :
    k' ∈ (t.insert k v).keys ↔ k' = k ∨ k' ∈ t.keys := by
  rw [mem_keys_iff, mem_keys_iff]
  by_cases h : k' = k <;> simp [get?_insert, h]

end Ordered

/-- a set of names -/
abbrev NameSet := Ordered String Unit

namespace NameSet

def ofList (names : List String) : NameSet := Ordered.ofList (names.map fun n => (n, ()))

def add (s : NameSet) (name : String) : NameSet := s.insert name ()

/-- the names in order -/
def toList (s : NameSet) : List String := s.keys

/-- the names of both sets -/
def union (s t : NameSet) : NameSet := t.toList.foldl add s

/-- Sets of the same names are equal. -/
theorem ext_toList {s t : NameSet} (h : ∀ n, n ∈ s.toList ↔ n ∈ t.toList) : s = t := by
  refine Ordered.ext_get? fun n => Option.ext fun u => ?_
  have hn : (∃ v, s.get? n = some v) ↔ ∃ v, t.get? n = some v := by
    rw [← Ordered.mem_keys_iff, ← Ordered.mem_keys_iff]
    exact h n
  constructor
  · intro hs
    obtain ⟨_, ht⟩ := hn.1 ⟨u, hs⟩
    exact ht
  · intro ht
    obtain ⟨_, hs⟩ := hn.2 ⟨u, ht⟩
    exact hs

theorem mem_toList_foldl_add (s : NameSet) (names : List String) (n : String) :
    n ∈ (names.foldl add s).toList ↔ n ∈ s.toList ∨ n ∈ names := by
  induction names generalizing s with
  | nil => simp
  | cons m names ih =>
    have hadd : n ∈ (s.add m).toList ↔ n = m ∨ n ∈ s.toList := Ordered.mem_keys_insert s m n ()
    rw [List.foldl_cons, ih, hadd, List.mem_cons, or_assoc, or_left_comm]

theorem ofList_eq_foldl (names : List String) : ofList names = names.foldl add Ordered.empty := by
  rw [ofList, Ordered.ofList, List.foldl_map]
  rfl

theorem mem_toList_ofList (names : List String) (n : String) : n ∈ (ofList names).toList ↔ n ∈ names := by
  rw [ofList_eq_foldl, mem_toList_foldl_add]
  exact or_iff_right List.not_mem_nil

/-- The set of the names with one more behind them has it added. -/
theorem ofList_concat (names : List String) (n : String) : ofList (names ++ [n]) = (ofList names).add n := by
  rw [ofList_eq_foldl, ofList_eq_foldl, List.foldl_append, List.foldl_cons, List.foldl_nil]

theorem contains_ofList (names : List String) (n : String) : (ofList names).contains n = true ↔ n ∈ names :=
  (Ordered.contains_iff _ n).trans (mem_toList_ofList names n)

theorem mem_toList_union (s t : NameSet) (n : String) : n ∈ (s.union t).toList ↔ n ∈ s.toList ∨ n ∈ t.toList :=
  mem_toList_foldl_add s t.toList n

end NameSet

end CodeSurvey
