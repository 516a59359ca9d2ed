/-
Values of a settings document, and how its tables grow.

A document is a row of statements: a header opens a table, a double header adds a table to a list, and a pair sets a
key of the open table. Keys may be dotted. `grow` applies one statement and refuses what would define a thing twice: a
key set again, a table opened again, a dotted key that reaches into a table opened by a header, or a step through a
plain value. Every statement changes the table at the end of one path (`exists_change_of_grow`), and what each statement
keeps is kept by the row (`keeps_foldlM`).
-/

namespace CodeSurvey.Toml

/-- a value; numbers with a fraction and dates are kept as they are written -/
inductive Value where
  | text (s : String)
  | integer (n : Int)
  | decimal (written : String)
  | boolean (b : Bool)
  | date (written : String)
  | array (items : List Value)
  | table (entries : List (String × Value))

/-- the numbers a document can hold: those of 64 bits with a sign -/
def inRange (n : Int) : Bool := -9223372036854775808 ≤ n && n ≤ 9223372036854775807

/-- how a table came to be -/
inductive Origin where
  /-- opened by a header of its own -/
  | header
  /-- on the way to a header -/
  | passage
  /-- on the way of a dotted key -/
  | dotted
  deriving DecidableEq

/-- what a key of a growing document holds -/
inductive Item where
  | value (v : Value)
  | table (origin : Origin) (entries : List (String × Item))
  /-- tables in a list, last first -/
  | tables (elements : List (List (String × Item)))

/-- the keys of a growing table, in the order set -/
abbrev Items := List (String × Item)

/-- one statement of a document -/
inductive Statement where
  | header (path : List String)
  | listHeader (path : List String)
  | pair (path : List String) (v : Value)

/-- the items with the key's item replaced, or added at the end -/
def setItem (key : String) (item : Item) : Items → Items
  | [] => [(key, item)]
  | (k, i) :: rest => if k = key then (key, item) :: rest else (k, i) :: setItem key item rest

/-- changes the table at the end of a path of header keys -/
def atHeader (change : Items → Option Items) : List String → Items → Option Items
  | [], t => change t
  | key :: path, t =>
    match t.lookup key with
    | none => (atHeader change path []).map fun u => setItem key (.table .passage u) t
    | some (.table origin u) => (atHeader change path u).map fun u => setItem key (.table origin u) t
    | some (.tables (last :: before)) =>
      (atHeader change path last).map fun u => setItem key (.tables (u :: before)) t
    | some _ => none

/-- sets a dotted key; `owned` when this table may hold the last part of the key -/
def setPair (v : Value) (owned : Bool) : List String → Items → Option Items
  | [], _ => none
  | [key], t => if owned && (t.lookup key).isNone then some (setItem key (.value v) t) else none
  | key :: path, t =>
    match t.lookup key with
    | none => (setPair v true path []).map fun u => setItem key (.table .dotted u) t
    | some (.table .header _) => none
    | some (.table origin u) =>
      (setPair v (origin = .dotted) path u).map fun u => setItem key (.table origin u) t
    | some (.tables (last :: before)) =>
      (setPair v false path last).map fun u => setItem key (.tables (u :: before)) t
    | some _ => none

/-- opens a table that is not there, or only on the way to others -/
def openTable (key : String) (t : Items) : Option Items :=
  match t.lookup key with
  | none => some (setItem key (.table .header []) t)
  | some (.table .passage u) => some (setItem key (.table .header u) t)
  | some _ => none

/-- adds an empty table to a list -/
def addTable (key : String) (t : Items) : Option Items :=
  match t.lookup key with
  | none => some (setItem key (.tables [[]]) t)
  | some (.tables elements) => some (setItem key (.tables ([] :: elements)) t)
  | some _ => none

/-- a growing document: its tables and the path of the open one -/
structure Growth where
  items : Items
  path : List String

/-- applies one statement -/
def grow (g : Growth) : Statement → Option Growth
  | .header path =>
    path.getLast?.bind fun key => (atHeader (openTable key) path.dropLast g.items).map fun t => ⟨t, path⟩
  | .listHeader path =>
    path.getLast?.bind fun key => (atHeader (addTable key) path.dropLast g.items).map fun t => ⟨t, path⟩
  | .pair path v => (atHeader (setPair v true path) g.path g.items).map fun t => { g with items := t }

/-- the changes of a table that a statement may make -/
inductive Statement.Changes : Statement → (Items → Option Items) → Prop
  | header (path : List String) (key : String) : Changes (.header path) (openTable key)
  | listHeader (path : List String) (key : String) : Changes (.listHeader path) (addTable key)
  | pair (path : List String) (v : Value) : Changes (.pair path v) (setPair v true path)

/-- **A statement makes one of its changes to the table at the end of a path.** -/
theorem exists_change_of_grow {g g' : Growth} {s : Statement} (h : grow g s = some g') :
    ∃ change path, s.Changes change ∧ atHeader change path g.items = some g'.items := by
  cases s with
  | header path =>
    obtain ⟨key, -, h⟩ := Option.bind_eq_some_iff.1 h
    obtain ⟨t, ht, rfl⟩ := Option.map_eq_some_iff.1 h
    exact ⟨_, _, .header path key, ht⟩
  | listHeader path =>
    obtain ⟨key, -, h⟩ := Option.bind_eq_some_iff.1 h
    obtain ⟨t, ht, rfl⟩ := Option.map_eq_some_iff.1 h
    exact ⟨_, _, .listHeader path key, ht⟩
  | pair path v =>
    obtain ⟨t, ht, rfl⟩ := Option.map_eq_some_iff.1 h
    exact ⟨_, _, .pair path v, ht⟩

/-- What each statement of a row keeps is kept by the row. -/
theorem keeps_foldlM {P : Growth → Prop} {statements : List Statement}
    (hstep : ∀ s ∈ statements, ∀ g g', P g → grow g s = some g' → P g') {g g' : Growth} (h : P g)
    (hgrow : statements.foldlM grow g = some g') : P g' := by
  induction statements generalizing g with
  | nil => exact Option.some.inj hgrow ▸ h
  | cons s statements ih =>
    rw [List.foldlM_cons] at hgrow
    obtain ⟨next, hnext, hgrow⟩ := Option.bind_eq_some_iff.1 hgrow
    exact ih (fun s hs => hstep s (List.mem_cons_of_mem _ hs)) (hstep s List.mem_cons_self g next h hnext) hgrow

mutual

/-- the value that an item ends up with -/
def Item.toValue : Item → Value
  | .value v => v
  | .table _ entries => .table (entriesValue entries)
  | .tables elements => .array (elementsValue elements).reverse

def entriesValue : List (String × Item) → List (String × Value)
  | [] => []
  | (key, i) :: rest => (key, i.toValue) :: entriesValue rest

def elementsValue : List (List (String × Item)) → List Value
  | [] => []
  | t :: rest => .table (entriesValue t) :: elementsValue rest

end

/-- the table that a row of statements describes -/
def document? (statements : List Statement) : Option (List (String × Value)) :=
  (statements.foldlM grow ⟨[], []⟩).map fun g => entriesValue g.items

/-- the table between braces that pairs describe -/
def inline? (pairs : List (List String × Value)) : Option Value :=
  (document? (pairs.map fun (path, v) => .pair path v)).map .table

end CodeSurvey.Toml
