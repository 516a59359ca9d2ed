/-
Documents that are read as they were written.

`read?_writtenTables`: a document written from tables is read as these tables, when their names and keys are bare and
distinct and their values are kept. The text of the document is read into one statement for each header and each pair
(`readStatements_tables`), with a blank line before each header passed over; a run of these statements opens each table
at the end of the document and sets each key at the end of its table (`foldlM_statements`).

`distinct_of_read`: whatever the text, the table that is read has no key twice, since every step of a growing document
replaces a key or adds a new one.
-/
import Mathlib.Data.List.Nodup
import CodeSurvey.Proofs.Toml.Statements

namespace CodeSurvey.Toml

open Text

/-- no key stands twice -/
def Distinct {α : Type} (t : List (String × α)) : Prop := (t.map Prod.fst).Nodup

/-- a table with its name -/
abbrev Named := String × List (String × Value)

/-- the table is written without loss: bare names, values that are read back, and no key twice -/
structure Writable (t : Named) : Prop where
  name : BareKey t.1
  keys : ∀ k ∈ t.2.map Prod.fst, BareKey k
  values : ∀ e ∈ t.2, e.2.Kept
  distinct : Distinct t.2

/-! ## Statements -/

/-- the statements that set the entries of the open table -/
def pairs (entries : List (String × Value)) : List Statement := entries.map fun e => .pair [e.1] e.2

/-- the statements of a document of named tables -/
def statements (tables : List Named) : List Statement := tables.flatMap fun t => .header [t.1] :: pairs t.2

theorem length_statements_cons (t : Named) (tables : List Named) :
    (statements (t :: tables)).length = t.2.length + 1 + (statements tables).length := by
  simp only [statements, List.flatMap_cons, List.length_append, List.length_cons, pairs, List.length_map]

theorem toList_writtenPairs_cons (e : String × Value) (entries : List (String × Value)) :
    (writtenPairs (e :: entries)).toList =
      e.1.toList ++ (" = ".toList ++ (e.2.written.toList ++ '\n' :: (writtenPairs entries).toList)) := by
  rw [writtenPairs, List.map_cons, String.join_cons]
  simp only [String.toList_append, List.append_assoc]
  rfl

/-- one table as written -/
def tableText (t : Named) : String := "[" ++ t.1 ++ "]\n" ++ writtenPairs t.2

theorem writtenTables_eq (tables : List Named) : writtenTables tables = "\n".intercalate (tables.map tableText) := rfl

theorem toList_tableText (t : Named) :
    (tableText t).toList = '[' :: (t.1.toList ++ ']' :: '\n' :: (writtenPairs t.2).toList) := by
  rw [tableText]
  simp only [String.toList_append, List.append_assoc]
  rfl

/-- the text of the tables behind another one: a blank line and the tables, if there are any -/
def laterText (tables : List Named) : List Char :=
  if tables.isEmpty then [] else '\n' :: (writtenTables tables).toList

theorem toList_writtenTables_cons (t : Named) (tables : List Named) :
    (writtenTables (t :: tables)).toList =
      '[' :: (t.1.toList ++ ']' :: '\n' :: ((writtenPairs t.2).toList ++ laterText tables)) := by
  have hsplit : (writtenTables (t :: tables)).toList = (tableText t).toList ++ laterText tables := by
    cases tables with
    | nil => rw [writtenTables_eq, List.map_singleton, String.intercalate_singleton]; exact (List.append_nil _).symm
    | cons next tables =>
      rw [writtenTables_eq, List.map_cons, List.map_cons, String.intercalate_cons_cons, String.toList_append,
        String.toList_append, List.append_assoc]
      rfl
  rw [hsplit, toList_tableText]
  simp only [List.append_assoc, List.cons_append]

/-- one statement at the front of a text -/
theorem readStatements_cons {cs rest : List Char} {s : Statement} (hskip : skipLines cs.length cs = some cs)
    (hne : cs ≠ [])
    (hread : readStatement cs = some (s, rest)) (fuel : Nat) :
    readStatements (fuel + 1) cs = (readStatements fuel rest).map (s :: ·) := by
  rw [readStatements, hskip, Option.bind_some]
  split
  · exact absurd rfl hne
  · rw [hread, Option.bind_some]

theorem readStatements_header {name : String} (hname : BareKey name) (fuel : Nat) (rest : List Char) :
    readStatements (fuel + 1) ('[' :: (name.toList ++ ']' :: '\n' :: rest)) =
      (readStatements fuel rest).map (.header [name] :: ·) :=
  readStatements_cons (skipLines_of_starts (.inl (by decide)) _ _) (List.cons_ne_nil _ _)
    (readStatement_header hname rest)
    fuel

theorem readStatements_pairs {entries : List (String × Value)} (hkeys : ∀ k ∈ entries.map Prod.fst, BareKey k)
    (hvalues : ∀ e ∈ entries, e.2.Kept) (fuel : Nat) (rest : List Char) :
    readStatements (entries.length + fuel) ((writtenPairs entries).toList ++ rest) =
      (readStatements fuel rest).map (pairs entries ++ ·) := by
  induction entries with
  | nil =>
    rw [List.length_nil, Nat.zero_add]
    exact (congrFun Option.map_id _).symm
  | cons e entries ih =>
    obtain ⟨hkey, hkeys⟩ := List.forall_mem_cons.1 hkeys
    obtain ⟨hvalue, hvalues⟩ := List.forall_mem_cons.1 hvalues
    have hread := readStatement_pair hkey hvalue ((writtenPairs entries).toList ++ rest)
    have htext : (writtenPairs (e :: entries)).toList ++ rest =
        e.1.toList ++ (" = ".toList ++ (e.2.written.toList ++ '\n' :: ((writtenPairs entries).toList ++ rest))) := by
      rw [toList_writtenPairs_cons]
      simp only [List.append_assoc, List.cons_append]
    obtain ⟨c, more, hhead, hc, -⟩ :=
      hkey.head (" = ".toList ++ (e.2.written.toList ++ '\n' :: ((writtenPairs entries).toList ++ rest)))
    rw [htext, List.length_cons, Nat.add_right_comm]
    rw [hhead] at hread ⊢
    rw [readStatements_cons (skipLines_of_starts (.inl hc) _ _) (List.cons_ne_nil _ _) hread, ih hkeys hvalues,
      Option.map_map]
    rfl

theorem readStatements_blank {cs : List Char} (fuel : Nat) :
    readStatements (fuel + 1) ('\n' :: '[' :: cs) = readStatements (fuel + 1) ('[' :: cs) := by
  have hskip : ∀ n, skipLines n ('[' :: cs) = some ('[' :: cs) := skipLines_of_starts (.inl (by decide)) cs
  have hblank : skipLines ('\n' :: '[' :: cs).length ('\n' :: '[' :: cs) = some ('[' :: cs) := hskip _
  rw [readStatements, readStatements, hskip, hblank]

/-- **The text of a document is read into its statements.** -/
theorem readStatements_tables {tables : List Named} (h : ∀ t ∈ tables, Writable t) {fuel : Nat}
    (hfuel : (statements tables).length < fuel) :
    readStatements fuel (writtenTables tables).toList = some (statements tables) := by
  induction tables generalizing fuel with
  | nil =>
    obtain ⟨fuel, rfl⟩ := Nat.exists_eq_succ_of_ne_zero (Nat.ne_of_gt hfuel)
    rfl
  | cons t tables ih =>
    obtain ⟨ht, htables⟩ := List.forall_mem_cons.1 h
    rw [length_statements_cons] at hfuel
    obtain ⟨fuel, rfl⟩ : ∃ n, fuel = t.2.length + (n + 1) + 1 := ⟨fuel - t.2.length - 2, by omega⟩
    have hlater : readStatements (fuel + 1) (laterText tables) = some (statements tables) := by
      cases tables with
      | nil => rfl
      | cons next tables =>
        have hfuel' : (statements (next :: tables)).length < fuel + 1 := by omega
        have hmore := ih htables hfuel'
        have htext : laterText (next :: tables) = '\n' :: (writtenTables (next :: tables)).toList := rfl
        rw [htext]
        rw [toList_writtenTables_cons] at hmore ⊢
        rw [readStatements_blank, hmore]
    rw [toList_writtenTables_cons, readStatements_header ht.name, readStatements_pairs ht.keys ht.values, hlater]
    rfl

/-! ## Growth -/

/-- a table as a growing document holds it -/
def grown (t : Named) : String × Item := (t.1, .table .header (t.2.map fun e => (e.1, .value e.2)))

theorem lookup_of_not_mem {t : Items} {key : String} (h : key ∉ t.map Prod.fst) : t.lookup key = none := by
  rw [List.lookup_eq_none_iff]
  intro e he
  rw [bne_iff_ne]
  rintro rfl
  exact h (List.mem_map_of_mem he)

theorem lookup_last {front : Items} {key : String} (h : key ∉ front.map Prod.fst) (i : Item) :
    (front ++ [(key, i)]).lookup key = some i := by
  rw [List.lookup_append, lookup_of_not_mem h, Option.none_or, List.lookup_cons_self]

theorem setItem_new {t : Items} {key : String} (h : key ∉ t.map Prod.fst) (i : Item) :
    setItem key i t = t ++ [(key, i)] := by
  induction t with
  | nil => rfl
  | cons e t ih =>
    rw [List.map_cons, List.mem_cons, not_or] at h
    rw [setItem, if_neg (Ne.symm h.1), ih h.2, List.cons_append]

theorem setItem_last {front : Items} {key : String} (h : key ∉ front.map Prod.fst) (i j : Item) :
    setItem key j (front ++ [(key, i)]) = front ++ [(key, j)] := by
  induction front with
  | nil => exact if_pos rfl
  | cons e front ih =>
    rw [List.map_cons, List.mem_cons, not_or] at h
    rw [List.cons_append, setItem, if_neg (Ne.symm h.1), ih h.2, List.cons_append]

/-- a header of a new name opens an empty table at the end -/
theorem grow_header (g : Growth) {name : String} (h : name ∉ g.items.map Prod.fst) :
    grow g (.header [name]) = some ⟨g.items ++ [(name, .table .header [])], [name]⟩ := by
  have hopen : openTable name g.items = some (g.items ++ [(name, .table .header [])]) := by
    rw [openTable, lookup_of_not_mem h]
    exact congrArg some (setItem_new h _)
  show (openTable name g.items).map _ = _
  rw [hopen, Option.map_some]

/-- a pair of a new key stands at the end of the open table -/
theorem grow_pair {front entries : Items} {name key : String} (hname : name ∉ front.map Prod.fst)
    (hkey : key ∉ entries.map Prod.fst) (v : Value) :
    grow ⟨front ++ [(name, .table .header entries)], [name]⟩ (.pair [key] v) =
      some ⟨front ++ [(name, .table .header (entries ++ [(key, .value v)]))], [name]⟩ := by
  have hset : setPair v true [key] entries = some (entries ++ [(key, .value v)]) := by
    rw [setPair, lookup_of_not_mem hkey, setItem_new hkey]
    rfl
  have htable : atHeader (setPair v true [key]) [name] (front ++ [(name, .table .header entries)]) =
      some (front ++ [(name, .table .header (entries ++ [(key, .value v)]))]) := by
    rw [atHeader, lookup_last hname]
    dsimp only
    rw [atHeader, hset, Option.map_some, setItem_last hname]
  rw [grow, htable, Option.map_some]

/-- the entries of a table as a growing document holds them -/
theorem foldlM_pairs {front : Items} {name : String} (hname : name ∉ front.map Prod.fst) (entries : Items)
    {more : List (String × Value)} (hkeys : (entries.map Prod.fst ++ more.map Prod.fst).Nodup) :
    (pairs more).foldlM grow ⟨front ++ [(name, .table .header entries)], [name]⟩ =
      some ⟨front ++ [(name, .table .header (entries ++ more.map fun e => (e.1, .value e.2)))], [name]⟩ := by
  induction more generalizing entries with
  | nil => rw [List.map_nil, List.append_nil]; rfl
  | cons e more ih =>
    have hkey : e.1 ∉ entries.map Prod.fst := fun hmem =>
      (List.nodup_append.1 hkeys).2.2 e.1 hmem e.1 List.mem_cons_self rfl
    have hrest : ((entries ++ [(e.1, Item.value e.2)]).map Prod.fst ++ more.map Prod.fst).Nodup := by
      simpa [List.append_assoc] using hkeys
    rw [pairs, List.map_cons, List.foldlM_cons, grow_pair hname hkey]
    refine (ih _ hrest).trans ?_
    rw [List.append_assoc, List.map_cons, List.singleton_append]

theorem foldlM_statements (before : List Named) {tables : List Named}
    (hnames : (before.map Prod.fst ++ tables.map Prod.fst).Nodup)
    (hkeys : ∀ t ∈ tables, Distinct t.2) (path : List String) :
    ∃ path', (statements tables).foldlM grow ⟨before.map grown, path⟩ = some ⟨(before ++ tables).map grown, path'⟩ := by
  induction tables generalizing before path with
  | nil => exact ⟨path, by rw [List.append_nil]; rfl⟩
  | cons t tables ih =>
    have hname : t.1 ∉ (before.map grown).map Prod.fst := by
      rw [List.map_map]
      exact fun hmem => (List.nodup_append.1 hnames).2.2 t.1 hmem t.1 List.mem_cons_self rfl
    have hrest : ((before ++ [t]).map Prod.fst ++ tables.map Prod.fst).Nodup := by
      simpa [List.append_assoc] using hnames
    obtain ⟨hkey, hkeys⟩ := List.forall_mem_cons.1 hkeys
    obtain ⟨path', hfold⟩ := ih _ hrest hkeys [t.1]
    refine ⟨path', ?_⟩
    have hpairs := foldlM_pairs hname [] hkey
    rw [List.map_append, List.append_assoc] at hfold
    rw [statements, List.flatMap_cons, List.cons_append, List.foldlM_cons, grow_header _ hname]
    refine (List.foldlM_append ..).trans ?_
    rw [hpairs]
    exact hfold

theorem entriesValue_values (entries : List (String × Value)) :
    entriesValue (entries.map fun e => (e.1, .value e.2)) = entries := by
  induction entries with
  | nil => rfl
  | cons e entries ih => rw [List.map_cons, entriesValue, ih, Item.toValue]

theorem entriesValue_grown (tables : List Named) :
    entriesValue (tables.map grown) = tables.map fun t => (t.1, .table t.2) := by
  induction tables with
  | nil => rfl
  | cons t tables ih => rw [List.map_cons, grown, entriesValue, ih, Item.toValue, entriesValue_values, List.map_cons]

theorem length_le_writtenPairs (entries : List (String × Value)) :
    entries.length ≤ (writtenPairs entries).toList.length := by
  induction entries with
  | nil => exact Nat.zero_le _
  | cons e entries ih =>
    rw [toList_writtenPairs_cons]
    simp only [List.length_append, List.length_cons]
    omega

theorem length_statements_le (tables : List Named) :
    (statements tables).length ≤ (writtenTables tables).toList.length := by
  induction tables with
  | nil => exact Nat.zero_le _
  | cons t tables ih =>
    have hpairs := length_le_writtenPairs t.2
    have hlater : (statements tables).length ≤ (laterText tables).length := by
      cases tables with
      | nil => exact Nat.zero_le _
      | cons next tables => exact Nat.le_succ_of_le ih
    rw [toList_writtenTables_cons, length_statements_cons]
    simp only [List.length_append, List.length_cons]
    omega

/-- **A document is read as it was written.** -/
theorem read?_writtenTables {tables : List Named} (h : ∀ t ∈ tables, Writable t) (hnames : Distinct tables) :
    read? (writtenTables tables) = some (tables.map fun t => (t.1, .table t.2)) := by
  -- the text is empty or begins with a bracket, so with no mark
  have hmark : stripStart (writtenTables tables) "\uFEFF" = none := by
    cases tables with
    | nil => rfl
    | cons t tables =>
      rw [stripStart, toList_writtenTables_cons]
      rfl
  obtain ⟨path, hfold⟩ := foldlM_statements [] hnames (fun t ht => (h t ht).distinct) []
  rw [List.map_nil, List.nil_append] at hfold
  rw [read?, hmark, Option.getD_none, readStatements_tables h (Nat.lt_succ_of_le (length_statements_le tables)),
    Option.bind_some, document?, hfold, Option.map_some, entriesValue_grown]

/-! ## Keys -/

theorem keys_setItem (key : String) (i : Item) (t : Items) :
    (setItem key i t).map Prod.fst = if key ∈ t.map Prod.fst then t.map Prod.fst else t.map Prod.fst ++ [key] := by
  induction t with
  | nil => rfl
  | cons e t ih =>
    rw [setItem]
    by_cases he : e.1 = key
    · simp [he]
    · rw [if_neg he, List.map_cons, ih, List.map_cons]
      have hmem : key ∈ e.1 :: t.map Prod.fst ↔ key ∈ t.map Prod.fst := by simp [Ne.symm he]
      by_cases hkey : key ∈ t.map Prod.fst
      · rw [if_pos hkey, if_pos (hmem.2 hkey)]
      · rw [if_neg hkey, if_neg fun h => hkey (hmem.1 h), List.cons_append]

theorem Distinct.setItem {t : Items} (h : Distinct t) (key : String) (i : Item) : Distinct (setItem key i t) := by
  unfold Distinct at h ⊢
  rw [keys_setItem]
  split
  · exact h
  · rename_i hkey
    exact List.nodup_append.2 ⟨h, List.nodup_singleton key, fun a ha b hb hab =>
      hkey (List.mem_singleton.1 hb ▸ hab ▸ ha)⟩

/-- the change keeps keys distinct -/
def KeepsDistinct (change : Items → Option Items) : Prop := ∀ t u, Distinct t → change t = some u → Distinct u

theorem keepsDistinct_atHeader {change : Items → Option Items} (hchange : KeepsDistinct change) (path : List String) :
    KeepsDistinct (atHeader change path) := by
  intro t u ht h
  cases path with
  | nil => exact hchange t u ht h
  | cons key path =>
    rw [atHeader] at h
    split at h
    case h_4 => cases h
    all_goals
      obtain ⟨inner, -, rfl⟩ := Option.map_eq_some_iff.1 h
      exact ht.setItem key _

theorem keepsDistinct_setPair (v : Value) (owned : Bool) (path : List String) :
    KeepsDistinct (setPair v owned path) := by
  intro t u ht h
  match path with
  | [] => cases h
  | [key] =>
    rw [setPair] at h
    split at h
    · exact Option.some.inj h ▸ ht.setItem key _
    · cases h
  | key :: next :: path =>
    rw [setPair] at h
    · split at h
      case h_2 => cases h
      case h_5 => cases h
      all_goals
        obtain ⟨inner, -, rfl⟩ := Option.map_eq_some_iff.1 h
        exact ht.setItem key _
    · exact List.cons_ne_nil next path

theorem keepsDistinct_openTable (key : String) : KeepsDistinct (openTable key) := by
  intro t u ht h
  unfold openTable at h
  split at h
  · exact Option.some.inj h ▸ ht.setItem key _
  · exact Option.some.inj h ▸ ht.setItem key _
  · cases h

theorem keepsDistinct_addTable (key : String) : KeepsDistinct (addTable key) := by
  intro t u ht h
  unfold addTable at h
  split at h
  · exact Option.some.inj h ▸ ht.setItem key _
  · exact Option.some.inj h ▸ ht.setItem key _
  · cases h

theorem keepsDistinct_of_changes {s : Statement} {change : Items → Option Items} (h : s.Changes change) :
    KeepsDistinct change := by
  cases h with
  | header path key => exact keepsDistinct_openTable key
  | listHeader path key => exact keepsDistinct_addTable key
  | pair path v => exact keepsDistinct_setPair v true path

/-- **A document that grows has no key twice.** -/
theorem distinct_grow {g g' : Growth} {s : Statement} (h : Distinct g.items) (hgrow : grow g s = some g') :
    Distinct g'.items := by
  obtain ⟨change, path, hchange, hitems⟩ := exists_change_of_grow hgrow
  exact keepsDistinct_atHeader (keepsDistinct_of_changes hchange) path _ _ h hitems

theorem keys_entriesValue (t : Items) : (entriesValue t).map Prod.fst = t.map Prod.fst := by
  induction t with
  | nil => rfl
  | cons e t ih => rw [entriesValue, List.map_cons, ih, List.map_cons]

/-- **The table that a text describes has no key twice.** -/
theorem distinct_of_read {text : String} {entries : List (String × Value)} (h : read? text = some entries) :
    Distinct entries := by
  obtain ⟨statements, -, hdocument⟩ := Option.bind_eq_some_iff.1 h
  obtain ⟨g, hgrow, rfl⟩ := Option.map_eq_some_iff.1 hdocument
  have hitems : Distinct g.items := keeps_foldlM (P := fun g => Distinct g.items)
    (fun _ _ _ _ h hgrow => distinct_grow h hgrow) (g := ⟨[], []⟩) List.nodup_nil hgrow
  unfold Distinct
  rwa [keys_entriesValue]

end CodeSurvey.Toml
