/-
How a project is split into modules.

`IsModule` says which directories are modules of their own: buildable ones of the first two levels that are reached
through no hidden directory and no output directory, and that lie in no other buildable directory below the root.

`modules_partition`: where two or more directories are so, exactly these are the modules, in the order of a walk, each
named by its path from the root with slashes in place of backslashes; else the root is the only module. No module lies
in another, and every buildable directory that a walk of two levels reaches lies in exactly one.

A walk reaches a directory before what it holds, so `absorb` needs to look at earlier directories only: each directory
lies in one that is kept (`exists_absorbing`), and what is kept lies apart (`absorbed_apart`). Hence the outermost are
kept, and no others (`mem_absorbed`).

A walk from a directory meets exactly the entries that stand at its place with some names behind it (`mem_walk`), and
meets them in the order of these names (`walk_rising`). A directory's names are a prefix of those of everything it
holds, so this order visits a directory before what it holds (`lt_of_above`). A pruned walk keeps what has no skipped
entry above it or in its own place (`mem_pruned`).
-/
import CodeSurvey.Modules
import CodeSurvey.Proofs.Project.Admission
import CodeSurvey.Proofs.Project.PathBelow
import Mathlib.Data.List.Pairwise

namespace CodeSurvey

open Text

/-! ## The order of places -/

theorem append_lt_append_iff (place a b : List String) : place ++ a < place ++ b ↔ a < b := by
  induction place with
  | nil => rfl
  | cons name place ih =>
    rw [List.cons_append, List.cons_append, List.cons_lt_cons_iff, ih]
    exact ⟨fun h => h.elim (fun hlt => absurd hlt (String.lt_irrefl name)) And.right, fun h => .inr ⟨rfl, h⟩⟩

theorem nil_lt_of_ne_nil {names : List String} (h : names ≠ []) : [] < names := by
  cases names with
  | nil => exact absurd rfl h
  | cons name names => exact List.nil_lt_cons name names

/-- A place stands before the places below it. -/
theorem lt_of_above {a b : List String} (h : a <+: b) (hne : a ≠ b) : a < b := by
  obtain ⟨rest, rfl⟩ := h
  have hrest : [] < rest := nil_lt_of_ne_nil fun hnil => hne (by rw [hnil, List.append_nil])
  have hlt := (append_lt_append_iff a [] rest).2 hrest
  rwa [List.append_nil] at hlt

theorem not_prefix_of_lt {a b : List String} (h : a < b) : ¬ b <+: a := by
  intro hpre
  by_cases heq : b = a
  · exact OrderedKey.lt_irrefl a (heq ▸ h)
  · exact OrderedKey.lt_irrefl a (OrderedKey.lt_trans h (lt_of_above hpre heq))

namespace FileTree

theorem mem_below (t : FileTree) (place names : List String) (e : Entry) :
    (names, e) ∈ t.below place ↔ names ≠ [] ∧ t.entries.get? (place ++ names) = some e := by
  rw [below, List.mem_filterMap, Ordered.get?_eq_some_iff]
  constructor
  · rintro ⟨⟨p, e'⟩, hmem, hitem⟩
    dsimp only at hitem
    split at hitem
    · rename_i hbelow
      obtain ⟨hpre, hlength⟩ := Bool.and_eq_true_iff.1 hbelow
      obtain ⟨rest, rfl⟩ := List.isPrefixOf_iff_prefix.1 hpre
      obtain ⟨rfl, rfl⟩ := Prod.mk.inj (Option.some.inj hitem)
      rw [List.drop_left]
      exact ⟨fun hnil => by simp [hnil] at hlength, hmem⟩
    · exact nomatch hitem
  · rintro ⟨hne, hmem⟩
    refine ⟨(place ++ names, e), hmem, ?_⟩
    simp [List.isPrefixOf_iff_prefix, hne]

theorem below_rising (t : FileTree) (place : Place) : (t.below place).Pairwise fun a b => a.1 < b.1 := by
  refine List.Pairwise.filterMap _ ?_ t.entries.rising
  rintro ⟨p, e⟩ ⟨q, f⟩ hlt a ha b hb
  dsimp only at hlt ha hb
  split at ha
  · rename_i hp
    split at hb
    · rename_i hq
      obtain ⟨rest, rfl⟩ := List.isPrefixOf_iff_prefix.1 (Bool.and_eq_true_iff.1 hp).1
      obtain ⟨rest', rfl⟩ := List.isPrefixOf_iff_prefix.1 (Bool.and_eq_true_iff.1 hq).1
      obtain rfl := Option.some.inj ha
      obtain rfl := Option.some.inj hb
      rw [List.drop_left, List.drop_left]
      exact (append_lt_append_iff place rest rest').1 hlt
    · exact nomatch hb
  · exact nomatch ha

end FileTree

namespace Disk

variable {d : Disk} {root : FilePath} {place : Place}

/-- **A walk meets what stands below its start.** -/
theorem mem_walk (hplace : d.locate root = .ok place) (hroot : d.tree.entryAt? place = some .directory) (i : Item) :
    i ∈ d.walk root ↔ d.tree.entryAt? (place ++ i.names) = some i.entry := by
  obtain ⟨names, e⟩ := i
  simp only [walk, hplace, hroot, List.mem_cons, List.mem_map]
  by_cases hnil : names = []
  · subst hnil
    have hbelow : ¬ ∃ a ∈ d.tree.below place, (⟨a.1, a.2⟩ : Item) = ⟨[], e⟩ := by
      rintro ⟨⟨names, e'⟩, hmem, heq⟩
      obtain ⟨rfl, rfl⟩ := Item.mk.inj heq
      exact ((FileTree.mem_below _ _ _ _).1 hmem).1 rfl
    rw [or_iff_left hbelow, List.append_nil, hroot, Item.mk.injEq, and_iff_right rfl, Option.some.injEq, eq_comm]
  · have hstart : (⟨names, e⟩ : Item) ≠ ⟨[], .directory⟩ := fun heq => hnil (Item.mk.inj heq).1
    rw [or_iff_right hstart, FileTree.entryAt?, if_neg (by simp [hnil])]
    constructor
    · rintro ⟨⟨names', e'⟩, hmem, heq⟩
      obtain ⟨rfl, rfl⟩ := Item.mk.inj heq
      exact ((FileTree.mem_below _ _ _ _).1 hmem).2
    · intro hget
      exact ⟨(names, e), (FileTree.mem_below _ _ _ _).2 ⟨hnil, hget⟩, rfl⟩

/-- **A walk goes in the order of the names.** -/
theorem walk_rising (d : Disk) (root : FilePath) : (d.walk root).Pairwise fun i j => i.names < j.names := by
  unfold walk
  split
  · exact .nil
  · rename_i place _
    split
    · exact .nil
    · refine List.pairwise_cons.2 ⟨?_, ?_⟩
      · intro i hi
        obtain ⟨⟨names, e⟩, hmem, rfl⟩ := List.mem_map.1 hi
        exact nil_lt_of_ne_nil ((FileTree.mem_below _ _ _ _).1 hmem).1
      · rw [List.pairwise_map]
        exact FileTree.below_rising d.tree place

theorem mem_pruned {skip : Item → Bool} {items : List Item} {i : Item} :
    i ∈ pruned skip items ↔ i ∈ items ∧ ∀ j ∈ items, skip j = true → ¬ j.names <+: i.names := by
  simp [pruned, List.isPrefixOf_iff_prefix]

end Disk

/-! ## Modules -/

/-- the names in the tree are what directories can hold -/
def FileTree.WellNamed (t : FileTree) : Prop := ∀ entry ∈ t.entries.entries, ∀ name ∈ entry.1, FilePath.IsName name

instance (t : FileTree) : Decidable t.WellNamed := inferInstanceAs (Decidable (∀ _ ∈ _, _))

namespace Disk

/-- the names lead from the root to a directory -/
def HoldsDirectory (d : Disk) (root : FilePath) (names : List String) : Prop :=
  ∃ place, d.locate root = .ok place ∧ d.tree.entryAt? (place ++ names) = some .directory

/-- a buildable directory of the first two levels, reached through no directory that is passed over -/
structure IsUnit (d : Disk) (root : FilePath) (names : List String) : Prop where
  depth : 1 ≤ names.length ∧ names.length ≤ 2
  directory : d.HoldsDirectory root names
  reached : ∀ way name, way ++ [name] <+: names → d.HoldsDirectory root (way ++ [name]) →
    Text.startsWith name "." = false ∧ name ∉ outputDirectories
  buildable : d.isBuildable (root.descend names) = true

/-- a unit that lies in no buildable directory below the root -/
def IsModule (d : Disk) (root : FilePath) (names : List String) : Prop :=
  d.IsUnit root names ∧ ∀ above, above <+: names → above ≠ [] → above ≠ names → d.HoldsDirectory root above →
    d.isBuildable (root.descend above) = false

/-! ## Absorption -/

/-- an item fits beside others when it lies in none of them -/
def liesInNone (kept : List Item) (i : Item) : Bool := !kept.any fun f => f.names.isPrefixOf i.names

theorem liesInNone_iff {kept : List Item} {i : Item} :
    liesInNone kept i = true ↔ ∀ f ∈ kept, ¬ f.names <+: i.names := by
  simp [liesInNone, ← List.isPrefixOf_iff_prefix]

theorem liesInNone_eq_false_iff {kept : List Item} {i : Item} :
    liesInNone kept i = false ↔ ∃ f ∈ kept, f.names <+: i.names := by
  simp [liesInNone]

theorem foldl_absorb_eq (items : List Item) : items.foldl absorb [] = letAllIn liesInNone [] items := by
  have hstep : absorb = letIn liesInNone := by
    funext kept i
    cases h : kept.any fun f => f.names.isPrefixOf i.names <;> simp [absorb, letIn, liesInNone, h]
  rw [hstep]
  rfl

theorem absorb_sublist (items : List Item) : (items.foldl absorb []).Sublist items := by
  obtain ⟨came, hall, hsub⟩ := exists_admitted liesInNone [] items
  rw [foldl_absorb_eq, hall]
  exact hsub

/-- Each item lies in one that is kept. -/
theorem exists_absorbing {items : List Item} {i : Item} (hi : i ∈ items) :
    ∃ f ∈ items.foldl absorb [], f.names <+: i.names := by
  obtain ⟨before, after, rfl⟩ := List.append_of_mem hi
  rw [foldl_absorb_eq]
  rcases mem_or_refused liesInNone [] before after i with hin | hrefused
  · exact ⟨i, hin, List.prefix_refl _⟩
  · obtain ⟨f, hf, hpre⟩ := liesInNone_eq_false_iff.1 hrefused
    exact ⟨f, (letAllIn_isFront liesInNone [] before (i :: after)).subset hf, hpre⟩

/-- neither of the items lies in the other -/
def Apart (i j : Item) : Prop := ¬ i.names <+: j.names ∧ ¬ j.names <+: i.names

instance : Std.Symm Apart := ⟨fun _ _ h => h.symm⟩

/-- the items stand in the order of a walk -/
abbrev Rising (items : List Item) : Prop := items.Pairwise fun i j => i.names < j.names

theorem Rising.eq_of_names {items : List Item} (h : Rising items) {i j : Item} (hi : i ∈ items) (hj : j ∈ items)
    (hnames : i.names = j.names) : i = j := by
  by_cases heq : i = j
  · exact heq
  · have hne : items.Pairwise fun i j => i.names ≠ j.names := by
      refine h.imp fun {i j} hlt heq => ?_
      exact OrderedKey.lt_irrefl j.names (heq ▸ hlt)
    have hsymm : Std.Symm fun i j : Item => i.names ≠ j.names := ⟨fun _ _ h => h.symm⟩
    exact absurd hnames (hne.forall hi hj heq)

theorem absorbed_apart {items : List Item} (h : Rising items) : (items.foldl absorb []).Pairwise Apart := by
  have hrising : Rising (items.foldl absorb []) := h.sublist (absorb_sublist items)
  have houter : (items.foldl absorb []).Pairwise fun f i => ¬ f.names <+: i.names := by
    rw [foldl_absorb_eq]
    exact letAllIn_pairwise (fun _ _ hfits => liesInNone_iff.1 hfits) items
  -- one that is kept cannot lie in a later one, since the walk met it first
  exact (houter.and hrising).imp fun {f i} hboth => ⟨hboth.1, not_prefix_of_lt hboth.2⟩

/-- **The outermost items are kept.** -/
theorem mem_absorbed {items : List Item} (h : Rising items) (i : Item) :
    i ∈ items.foldl absorb [] ↔ i ∈ items ∧ ∀ j ∈ items, j.names <+: i.names → j = i := by
  constructor
  · intro hi
    have hmem : i ∈ items := (absorb_sublist items).subset hi
    refine ⟨hmem, fun j hj hji => ?_⟩
    obtain ⟨f, hf, hfj⟩ := exists_absorbing hj
    have hfi : f = i := by
      by_cases heq : f = i
      · exact heq
      · exact absurd (hfj.trans hji) ((absorbed_apart h).forall hf hi heq).1
    subst hfi
    exact h.eq_of_names hj hmem (hji.eq_of_length (Nat.le_antisymm hji.length_le hfj.length_le))
  · rintro ⟨hi, houter⟩
    obtain ⟨f, hf, hfi⟩ := exists_absorbing hi
    exact houter f ((absorb_sublist items).subset hf) hfi ▸ hf

/-! ## Units -/

variable {d : Disk} {root : FilePath} {place : Place}

theorem holdsDirectory_iff (hplace : d.locate root = .ok place) (names : List String) :
    d.HoldsDirectory root names ↔ d.tree.entryAt? (place ++ names) = some .directory := by
  constructor
  · rintro ⟨place', hplace', h⟩
    obtain rfl := Except.ok.inj (hplace.symm.trans hplace')
    exact h
  · exact fun h => ⟨place, hplace, h⟩

theorem isPassedOver_iff (way : List String) (name : String) (e : Entry) :
    isPassedOver ⟨way ++ [name], e⟩ = true ↔
      e = .directory ∧ ¬ (Text.startsWith name "." = false ∧ name ∉ outputDirectories) := by
  cases e <;> simp [isPassedOver, Entry.isDirectory, Decidable.imp_iff_not_or]

/-- the units of two levels as a walk meets them -/
def unitItems (d : Disk) (root : FilePath) : List Item :=
  (pruned isPassedOver (d.walkTo 2 root)).filter fun i =>
    1 ≤ i.depth && i.entry.isDirectory && d.isBuildable (i.path root)

theorem unitItems_rising (d : Disk) (root : FilePath) : Rising (d.unitItems root) :=
  (((d.walk_rising root).filter _).filter _).filter _

theorem mem_walkTo (hplace : d.locate root = .ok place) (hroot : d.tree.entryAt? place = some .directory) (n : Nat)
    (i : Item) : i ∈ d.walkTo n root ↔ d.tree.entryAt? (place ++ i.names) = some i.entry ∧ i.depth ≤ n := by
  simp [walkTo, mem_walk hplace hroot]

theorem mem_unitItems (hplace : d.locate root = .ok place) (hroot : d.tree.entryAt? place = some .directory)
    (i : Item) : i ∈ d.unitItems root ↔ i.entry = .directory ∧ d.IsUnit root i.names := by
  obtain ⟨names, e⟩ := i
  simp only [unitItems, List.mem_filter, mem_pruned, mem_walkTo hplace hroot, Bool.and_eq_true, decide_eq_true_eq]
  constructor
  · rintro ⟨⟨⟨hentry, hdeep⟩, hskip⟩, ⟨hshallow, hdirectory⟩, hbuildable⟩
    have he : e = .directory := by cases e <;> simp_all [Entry.isDirectory]
    subst he
    refine ⟨rfl, ⟨hshallow, hdeep⟩, (holdsDirectory_iff hplace names).2 hentry, ?_, hbuildable⟩
    intro way name hway hheld
    have hitem : d.tree.entryAt? (place ++ (way ++ [name])) = some .directory := (holdsDirectory_iff hplace _).1 hheld
    have hnear : (way ++ [name]).length ≤ 2 := Nat.le_trans hway.length_le hdeep
    have hpassed := mt (hskip ⟨way ++ [name], .directory⟩ ⟨hitem, hnear⟩) (not_not_intro hway)
    rw [isPassedOver_iff, and_iff_right rfl, Decidable.not_not] at hpassed
    exact hpassed
  · rintro ⟨rfl, hunit⟩
    have hentry : d.tree.entryAt? (place ++ names) = some .directory :=
      (holdsDirectory_iff hplace names).1 hunit.directory
    refine ⟨⟨⟨hentry, hunit.depth.2⟩, ?_⟩, ⟨hunit.depth.1, rfl⟩, hunit.buildable⟩
    rintro ⟨above, e⟩ ⟨hitem, -⟩ hpassed hpre
    obtain rfl | ⟨way, name, hconcat⟩ := List.eq_nil_or_concat above
    · simp [isPassedOver] at hpassed
    · obtain rfl : above = way ++ [name] := hconcat.trans List.concat_eq_append
      obtain ⟨rfl, hshut⟩ := (isPassedOver_iff way name e).1 hpassed
      exact hshut (hunit.reached way name hpre ((holdsDirectory_iff hplace _).2 hitem))

/-- A buildable directory above a unit is a unit. -/
theorem IsUnit.above {names above : List String} (h : d.IsUnit root names) (habove : above <+: names) (hne : above ≠ [])
    (hheld : d.HoldsDirectory root above) (hbuildable : d.isBuildable (root.descend above) = true) :
    d.IsUnit root above where
  depth := ⟨List.length_pos_iff.2 hne, Nat.le_trans habove.length_le h.depth.2⟩
  directory := hheld
  reached way name hway hdirectory := h.reached way name (hway.trans habove) hdirectory
  buildable := hbuildable

/-- **What the search keeps are the modules.** -/
theorem mem_buildableDirectories (hplace : d.locate root = .ok place)
    (hroot : d.tree.entryAt? place = some .directory) (i : Item) :
    i ∈ d.buildableDirectories root ↔ i.entry = .directory ∧ d.IsModule root i.names := by
  obtain ⟨names, e⟩ := i
  have hmem := mem_absorbed (d.unitItems_rising root) ⟨names, e⟩
  simp only [mem_unitItems hplace hroot] at hmem
  refine hmem.trans ⟨?_, ?_⟩
  · rintro ⟨⟨hentry, hunit⟩, houter⟩
    refine ⟨hentry, hunit, fun above habove hne hproper hheld => ?_⟩
    rw [Bool.eq_false_iff]
    intro hbuildable
    have heq := houter ⟨above, .directory⟩ ⟨rfl, hunit.above habove hne hheld hbuildable⟩ habove
    exact hproper (Item.mk.inj heq).1
  · rintro ⟨hentry, hunit, halone⟩
    refine ⟨⟨hentry, hunit⟩, ?_⟩
    rintro ⟨above, e'⟩ ⟨hentry', hunit'⟩ hpre
    have hnames : above = names := by
      by_cases heq : above = names
      · exact heq
      · have hne : above ≠ [] := List.length_pos_iff.1 hunit'.depth.1
        have hnot := halone above hpre hne heq hunit'.directory
        exact absurd hunit'.buildable (Bool.eq_false_iff.1 hnot)
    exact Item.mk.injEq .. ▸ ⟨hnames, hentry'.trans hentry.symm⟩

/-! ## The modules of a project -/

/-- the module that stands at the names below the root -/
def moduleAt (root : FilePath) (names : List String) : ModuleRoot :=
  ⟨replace (joined "/" names) "\\" "/", root.descend names⟩

theorem exists_place_of_isDirectory (h : d.isDirectory root = true) :
    ∃ place, d.locate root = .ok place ∧ d.tree.entryAt? place = some .directory :=
  entry_ok_iff.1 (isDirectory_iff_entry.1 h)

theorem relativeName_descend {names : List String} (hroot : ∀ name ∈ root.names, FilePath.IsName name)
    (hnames : ∀ name ∈ names, FilePath.IsName name) (hne : names ≠ []) :
    relativeName root (root.descend names) = replace (joined "/" names) "\\" "/" := by
  rw [relativeName, FilePath.textBelow_descend hroot hnames hne]

theorem IsUnit.isName {names : List String} (h : d.IsUnit root names) (htree : d.tree.WellNamed) :
    ∀ name ∈ names, FilePath.IsName name := by
  obtain ⟨place, -, hentry⟩ := h.directory
  have hne : names ≠ [] := List.length_pos_iff.1 h.depth.1
  rw [FileTree.entryAt?, if_neg (by simp [hne]), Ordered.get?_eq_some_iff] at hentry
  exact fun name hname => htree _ hentry name (List.mem_append_right _ hname)

theorem startsWith_descend (root : FilePath) (a b : List String) :
    (root.descend b).startsWith (root.descend a) = true ↔ a <+: b := by
  have hinj : Function.Injective Component.name := fun _ _ h => Component.name.inj h
  simp only [FilePath.startsWith, FilePath.components, FilePath.descend, List.map_append, List.isPrefixOf_iff_prefix,
    List.prefix_append_right_inj, List.prefix_map_iff_of_injective hinj]

/-- the names of the directories that the search keeps -/
def foundNames (d : Disk) (root : FilePath) : List (List String) := (d.buildableDirectories root).map (·.names)

theorem foundNames_rising (d : Disk) (root : FilePath) : (d.foundNames root).Pairwise (· < ·) := by
  rw [foundNames, List.pairwise_map]
  exact (d.unitItems_rising root).sublist (absorb_sublist _)

theorem foundNames_apart (d : Disk) (root : FilePath) :
    (d.foundNames root).Pairwise fun a b => ¬ a <+: b ∧ ¬ b <+: a := by
  rw [foundNames, List.pairwise_map]
  exact absorbed_apart (d.unitItems_rising root)

theorem mem_foundNames (hroot : d.isDirectory root = true) (names : List String) :
    names ∈ d.foundNames root ↔ d.IsModule root names := by
  obtain ⟨place, hplace, hdirectory⟩ := exists_place_of_isDirectory hroot
  simp only [foundNames, List.mem_map, mem_buildableDirectories hplace hdirectory]
  constructor
  · rintro ⟨i, ⟨-, hmodule⟩, rfl⟩
    exact hmodule
  · exact fun hmodule => ⟨⟨names, .directory⟩, ⟨rfl, hmodule⟩, rfl⟩

/-- Each unit lies in a directory that the search keeps, and in no other. -/
theorem exists_found_above (hroot : d.isDirectory root = true) {names : List String} (h : d.IsUnit root names) :
    ∃ above ∈ d.foundNames root, above <+: names ∧ ∀ other ∈ d.foundNames root, other <+: names → other = above := by
  obtain ⟨place, hplace, hdirectory⟩ := exists_place_of_isDirectory hroot
  obtain ⟨f, hf, hpre⟩ := exists_absorbing ((mem_unitItems hplace hdirectory ⟨names, .directory⟩).2 ⟨rfl, h⟩)
  refine ⟨f.names, List.mem_map_of_mem hf, hpre, fun other hother hbefore => ?_⟩
  obtain ⟨g, hg, rfl⟩ := List.mem_map.1 hother
  by_cases heq : g = f
  · rw [heq]
  · -- of two directories above one place, one lies in the other
    obtain ⟨hgf, hfg⟩ := (absorbed_apart (d.unitItems_rising root)).forall hg hf heq
    rcases List.prefix_or_prefix_of_prefix hbefore hpre with hnested | hnested
    · exact absurd hnested hgf
    · exact absurd hnested hfg

theorem modules_eq_of_found (htree : d.tree.WellNamed) (hnames : ∀ name ∈ root.names, FilePath.IsName name)
    (hroot : d.isDirectory root = true) :
    d.modules true root = .ok (if 2 ≤ (d.foundNames root).length then (d.foundNames root).map (moduleAt root)
      else [⟨moduleName root, root⟩]) := by
  have hmap : (d.buildableDirectories root).map (fun i => ⟨relativeName root (i.path root), i.path root⟩) =
      (d.foundNames root).map (moduleAt root) := by
    rw [foundNames, List.map_map]
    refine List.map_congr_left fun i hi => ?_
    have hunit : d.IsUnit root i.names := ((mem_foundNames hroot i.names).1 (List.mem_map_of_mem hi)).1
    have hne : i.names ≠ [] := List.length_pos_iff.1 hunit.depth.1
    rw [Item.path, relativeName_descend hnames (hunit.isName htree) hne]
    rfl
  have hlength : (d.buildableDirectories root).length = (d.foundNames root).length := (List.length_map ..).symm
  rw [modules, hroot, Bool.not_true, if_neg Bool.false_ne_true]
  simp only [if_true, hmap, hlength]
  split
  · rename_i hfew
    rw [if_neg (Nat.not_le.2 hfew)]
  · rename_i hmany
    rw [if_pos (Nat.not_lt.1 hmany)]

/-- **A project is split into its outermost units.** -/
theorem modules_partition (d : Disk) (root : FilePath) (htree : d.tree.WellNamed)
    (hnames : ∀ name ∈ root.names, FilePath.IsName name) (hroot : d.isDirectory root = true) :
    ∃ found : List (List String), found.Pairwise (· < ·) ∧ (∀ names, names ∈ found ↔ d.IsModule root names) ∧
      ∃ ms, d.modules true root = .ok ms ∧
        ms = (if 2 ≤ found.length then found.map (moduleAt root) else [⟨moduleName root, root⟩]) ∧
        (ms.Pairwise fun m n => m.path.startsWith n.path = false ∧ n.path.startsWith m.path = false) ∧
        ∀ names, d.IsUnit root names → ∃ m ∈ ms, (root.descend names).startsWith m.path = true ∧
          ∀ n ∈ ms, (root.descend names).startsWith n.path = true → n = m := by
  refine ⟨d.foundNames root, d.foundNames_rising root, mem_foundNames hroot, _,
    modules_eq_of_found htree hnames hroot, rfl, ?_⟩
  by_cases hmany : 2 ≤ (d.foundNames root).length
  · rw [if_pos hmany]
    constructor
    · rw [List.pairwise_map]
      refine (d.foundNames_apart root).imp fun {a b} hapart => ?_
      simpa only [moduleAt, Bool.eq_false_iff, ne_eq, startsWith_descend] using hapart.symm
    · intro names hunit
      obtain ⟨above, hfound, hpre, honly⟩ := exists_found_above hroot hunit
      refine ⟨moduleAt root above, List.mem_map_of_mem hfound, (startsWith_descend root above names).2 hpre, ?_⟩
      intro n hn hstarts
      obtain ⟨other, hother, rfl⟩ := List.mem_map.1 hn
      rw [honly other hother ((startsWith_descend root other names).1 hstarts)]
  · rw [if_neg hmany]
    refine ⟨List.pairwise_singleton _ _, fun names hunit => ⟨_, List.mem_cons_self, ?_, ?_⟩⟩
    · have hself : root.descend [] = root := by simp [FilePath.descend]
      have hstarts := (startsWith_descend root [] names).2 List.nil_prefix
      rwa [hself] at hstarts
    · exact fun n hn _ => List.mem_singleton.1 hn

/-- a project with `app` and `app-core`, a unit inside `app` and one in an output directory -/
def nestedUnits : Disk where
  tree := ⟨.ofList [(["p"], .directory), (["p", "app"], .directory), (["p", "app", "pom.xml"], .file []),
    (["p", "app", "core"], .directory), (["p", "app", "core", "pom.xml"], .file []), (["p", "app-core"], .directory),
    (["p", "app-core", "src"], .directory), (["p", "target"], .directory), (["p", "target", "classes"], .directory),
    (["p", "target", "classes", "pom.xml"], .file [])]⟩
  here := []
  home := none
  programs := []
  temp := []
  executable := []

theorem modules_partition_nestedUnits :
    nestedUnits.tree.WellNamed ∧ nestedUnits.isDirectory (.ofText "/p") = true ∧
      ∃ ms, nestedUnits.modules true (.ofText "/p") = .ok ms ∧
        ms = ["app", "app-core"].map (fun name => ⟨name, (FilePath.ofText "/p").descend [name]⟩) ∧
        ms.Pairwise fun m n => m.path.startsWith n.path = false ∧ n.path.startsWith m.path = false := by
  have htree : nestedUnits.tree.WellNamed := by decide +kernel
  have hroot : nestedUnits.isDirectory (.ofText "/p") = true := by decide +kernel
  have hmodules : nestedUnits.modules true (.ofText "/p") =
      .ok (["app", "app-core"].map fun name => ⟨name, (FilePath.ofText "/p").descend [name]⟩) := by rfl
  obtain ⟨_, -, -, ms, hms, -, hapart, -⟩ := modules_partition nestedUnits (.ofText "/p") htree nofun hroot
  exact ⟨htree, hroot, ms, hms, Except.ok.inj (hms.symm.trans hmodules), hapart⟩

/-- a project with a backslash in the name of a directory -/
def slashedUnits : Disk where
  tree := ⟨.ofList [(["p"], .directory), (["p", "a\\b"], .directory), (["p", "a\\b", "pom.xml"], .file []),
    (["p", "c"], .directory), (["p", "c", "pom.xml"], .file [])]⟩
  here := []
  home := none
  programs := []
  temp := []
  executable := []

/-- A module is not always shown by its path from the root: a backslash in a name is shown as a slash. -/
theorem modules_slashedUnits :
    ¬ ∃ ms, slashedUnits.modules true (.ofText "/p") = .ok ms ∧
      ∀ m ∈ ms, m.path.textBelow? (.ofText "/p") = some m.name := by
  rintro ⟨ms, hms, hnamed⟩
  have hmodules : slashedUnits.modules true (.ofText "/p") = .ok
      [⟨"a/b", (FilePath.ofText "/p").descend ["a\\b"]⟩, ⟨"c", (FilePath.ofText "/p").descend ["c"]⟩] := by
    rfl
  obtain rfl := Except.ok.inj (hms.symm.trans hmodules)
  have hbelow : ((FilePath.ofText "/p").descend ["a\\b"]).textBelow? (.ofText "/p") = some "a\\b" := by
    decide +kernel
  have hname := hbelow.symm.trans (hnamed _ List.mem_cons_self)
  exact absurd hname (by decide)

end Disk

end CodeSurvey
