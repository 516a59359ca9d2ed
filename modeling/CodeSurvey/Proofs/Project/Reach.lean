/-
Where paths lead.

A path that leads to a place leads to the one that its steps spell (`target_of_locate`), and names put behind the path
stand behind the place (`target_descend`). `Stands` says what is found at names below a path; a walk meets exactly what
stands so below its start (`mem_walk_iff`). An entry whose shown name ends as names of files do has this name as the last
step of its path (`fileName_path`).
-/
import CodeSurvey.Proofs.Project.Partition

namespace CodeSurvey

open Text

namespace Disk

variable {d : Disk}

/-! ## Places -/

/-- the place that one step leads to, whatever stands there -/
def stepTarget (place : Place) : Component → Place
  | .root => []
  | .here => place
  | .up => place.dropLast
  | .name s => place ++ [s]

theorem target_eq (d : Disk) (p : FilePath) : d.target p = p.components.foldl stepTarget d.here := by
  rfl

/-- A step that leads on or up is one from a directory. -/
theorem step_ok_iff {place place' : Place} {c : Component} : d.step place c = .ok place' ↔
    stepTarget place c = place' ∧ (c ≠ .root → c ≠ .here → d.tree.requireDirectory place = .ok ()) ∧
      ∀ name, c = .name name → FileTree.requireFit name = .ok () := by
  cases c with
  | root => simp [step, stepTarget]
  | here => simp [step, stepTarget]
  | up =>
    simp only [step, stepTarget, map_ok_iff, ne_eq, reduceCtorEq, not_false_eq_true, forall_const]
    constructor
    · rintro ⟨_, hdirectory, rfl⟩
      exact ⟨rfl, hdirectory, by simp⟩
    · rintro ⟨rfl, hdirectory, -⟩
      exact ⟨(), hdirectory, rfl⟩
  | name name =>
    simp only [step, stepTarget, then_ok_iff, Except.ok.injEq, Component.name.injEq, forall_eq', ne_eq, reduceCtorEq,
      not_false_eq_true, forall_const]
    constructor
    · rintro ⟨hdirectory, hfit, rfl⟩
      exact ⟨rfl, hdirectory, hfit⟩
    · rintro ⟨rfl, hdirectory, hfit⟩
      exact ⟨hdirectory, hfit, rfl⟩

theorem foldl_stepTarget {steps : List Component} {place place' : Place}
    (h : steps.foldlM d.step place = .ok place') : steps.foldl stepTarget place = place' := by
  induction steps generalizing place with
  | nil => exact Except.ok.inj h
  | cons c steps ih =>
    rw [List.foldlM_cons] at h
    obtain ⟨next, hstep, hsteps⟩ := bind_ok_iff.1 h
    rw [List.foldl_cons, (step_ok_iff.1 hstep).1]
    exact ih hsteps

theorem target_of_reach {p : FilePath} {place : Place} (h : d.reach p = .ok place) : d.target p = place := by
  rw [target_eq]
  exact foldl_stepTarget (reach_ok_iff.1 h).2

theorem target_of_locate {p : FilePath} {place : Place} (h : d.locate p = .ok place) : d.target p = place :=
  target_of_reach (locate_ok_iff.1 h).1

theorem target_descend (d : Disk) (p : FilePath) (names : List String) :
    d.target (p.descend names) = d.target p ++ names := by
  have hnames : ∀ place : Place, (names.map Component.name).foldl stepTarget place = place ++ names := by
    induction names with
    | nil => exact fun place => (List.append_nil place).symm
    | cons name names ih =>
      intro place
      rw [List.map_cons, List.foldl_cons, ih]
      simp [stepTarget]
  rw [target_eq, target_eq, FilePath.components, FilePath.descend, List.map_append, ← List.append_assoc,
    List.foldl_append, hnames]
  rfl

/-! ## Entries below a path -/

/-- the entry that stands at the names below the path -/
def Stands (d : Disk) (root : FilePath) (names : List String) (e : Entry) : Prop :=
  ∃ place, d.locate root = .ok place ∧ d.tree.entryAt? (place ++ names) = some e

/-- **A walk meets what stands below its start**, if something stands at the start. -/
theorem mem_walk_iff (d : Disk) (root : FilePath) (i : Item) :
    i ∈ d.walk root ↔ (∃ e, d.Stands root [] e) ∧ d.Stands root i.names i.entry := by
  unfold walk Stands
  cases hplace : d.locate root with
  | error fault => simp
  | ok place =>
    simp only [Except.ok.injEq, exists_eq_left', List.append_nil]
    cases hstart : d.tree.entryAt? place with
    | none => simp
    | some e =>
      obtain ⟨names, entry⟩ := i
      simp only [Option.some.injEq, exists_eq', true_and, List.mem_cons, List.mem_map, Item.mk.injEq, Prod.exists]
      constructor
      · rintro (⟨rfl, rfl⟩ | ⟨_, _, hbelow, rfl, rfl⟩)
        · rw [List.append_nil, hstart]
        · obtain ⟨hne, hget⟩ := (FileTree.mem_below _ _ _ _).1 hbelow
          rw [FileTree.entryAt?, if_neg (by simp [hne]), hget]
      · intro hentry
        by_cases hnil : names = []
        · subst hnil
          rw [List.append_nil, hstart] at hentry
          exact .inl ⟨rfl, (Option.some.inj hentry).symm⟩
        · rw [FileTree.entryAt?, if_neg (by simp [hnil])] at hentry
          exact .inr ⟨names, entry, (FileTree.mem_below _ _ _ _).2 ⟨hnil, hentry⟩, rfl, rfl⟩

theorem isDirectory_iff (d : Disk) (p : FilePath) : d.isDirectory p = true ↔ d.Stands p [] .directory := by
  simp only [isDirectory_iff_entry, entry_ok_iff, Stands, List.append_nil]

end Disk

/-! ## Names of files -/

/-- What follows the last separator is lengthened by what is put behind the text. -/
theorem splitBy_append_of_none {β : Type} (sep : β → Bool) (front : List β) {rest : List β}
    (h : ∀ c ∈ rest, sep c = false) :
    ∃ parts last, splitBy sep (front ++ rest) = parts ++ [last ++ rest] := by
  induction front with
  | nil => exact ⟨[], [], by rw [List.nil_append, splitBy_of_none h]; rfl⟩
  | cons c front ih =>
    obtain ⟨parts, last, hsplit⟩ := ih
    by_cases hc : sep c = true
    · refine ⟨[] :: parts, last, ?_⟩
      rw [List.cons_append, splitBy_sep hc, hsplit, List.cons_append]
    · cases parts with
      | nil =>
        refine ⟨[], c :: last, ?_⟩
        rw [List.cons_append, splitBy_cons (Bool.eq_false_iff.2 hc) hsplit]
        rfl
      | cons part parts =>
        refine ⟨(c :: part) :: parts, last, ?_⟩
        rw [List.cons_append, splitBy_cons (Bool.eq_false_iff.2 hc) hsplit]
        rfl

namespace FilePath

/-- an ending that only names have: longer than inner dots, without a slash -/
structure EndsName (ending : String) : Prop where
  long : 2 < ending.toList.length
  closed : '/' ∉ ending.toList

theorem component_of_long {part : String} (h : 2 < part.toList.length) : component? part = some (.name part) := by
  have hne : part ≠ "" ∧ part ≠ "." ∧ part ≠ ".." := by
    refine ⟨?_, ?_, ?_⟩ <;> (rintro rfl; exact absurd h (by decide))
  simp [component?, hne]

/-- A path whose text ends as names do has a last name. -/
theorem fileName_of_endsWith {p : FilePath} {ending : String} (hname : EndsName ending) (hnames : p.names = [])
    (h : endsWith p.text ending = true) : ∃ s, p.fileName = some s := by
  obtain ⟨head, names⟩ := p
  obtain rfl : names = [] := hnames
  obtain ⟨front, hfront⟩ := List.isSuffixOf_iff_suffix.1 h
  have hclosed : ∀ c ∈ ending.toList, (c == '/') = false := fun c hc =>
    beq_eq_false_iff_ne.2 fun heq => hname.closed (heq ▸ hc)
  obtain ⟨parts, last, hsplit⟩ := splitBy_append_of_none (· == '/') front hclosed
  -- the last part between slashes is a step of its own
  obtain ⟨part, hpart⟩ : ∃ part, part = String.ofList (last ++ ending.toList) := ⟨_, rfl⟩
  have hparts : split head '/' = parts.map String.ofList ++ [part] := by
    have hhead : head.toList = front ++ ending.toList := hfront.symm
    rw [split, hhead, hsplit, List.map_append, hpart]
    rfl
  have hlast : component? part = some (.name part) := by
    refine component_of_long ?_
    have hlong := hname.long
    rw [hpart, String.toList_ofList, List.length_append]
    omega
  have hsteps : (componentsOfText head).getLast? = some (.name part) := by
    simp only [componentsOfText, hparts, List.filterMap_append, List.filterMap_cons, hlast, List.filterMap_nil]
    split
    · rw [← List.cons_append, List.getLast?_concat]
    · split
      · rw [← List.cons_append, List.getLast?_concat]
      · rw [List.getLast?_concat]
  have hcomponents : (FilePath.mk head []).components = componentsOfText head := List.append_nil _
  refine ⟨part, ?_⟩
  rw [fileName, hcomponents, hsteps]

theorem fileName_descend (p : FilePath) {names : List String} {name : String} (h : names.getLast? = some name) :
    (p.descend names).fileName = some name := by
  have hlast : (p.descend names).components.getLast? = some (.name name) := by
    simp [components, descend, List.getLast?_append, h]
  rw [fileName, hlast]

end FilePath

/-- An entry whose shown name ends as names do has this name. -/
theorem Disk.Item.fileName_path {i : Item} {start : FilePath} {ending : String} (hname : FilePath.EndsName ending)
    (h : endsWith (i.name start) ending = true) : (i.path start).fileName = some (i.name start) := by
  obtain ⟨names, e⟩ := i
  cases hlast : names.getLast? with
  | some name =>
    have hshown : Item.name ⟨names, e⟩ start = name := by rw [Item.name, hlast]; rfl
    rw [hshown, Item.path, FilePath.fileName_descend start hlast]
  | none =>
    obtain rfl := List.getLast?_eq_none_iff.1 hlast
    have hpath : Item.path ⟨[], e⟩ start = start := by simp [Item.path, FilePath.descend]
    rw [hpath]
    cases hfile : start.fileName with
    | some s => simp [Item.name, hfile]
    | none =>
      have hshown : Item.name ⟨[], e⟩ start = start.text := by simp [Item.name, hfile]
      rw [hshown] at h
      cases hnames : start.names with
      | nil =>
        obtain ⟨s, hs⟩ := FilePath.fileName_of_endsWith hname hnames h
        exact absurd (hs.symm.trans hfile) (Option.some_ne_none s)
      | cons name more =>
        obtain ⟨s, hs⟩ : ∃ s, start.names.getLast? = some s := ⟨_, by rw [hnames]; exact List.getLast?_cons⟩
        have hself : (⟨start.head, []⟩ : FilePath).descend start.names = start := by simp [FilePath.descend]
        have hsome := FilePath.fileName_descend ⟨start.head, []⟩ hs
        rw [hself] at hsome
        exact absurd (hsome.symm.trans hfile) (Option.some_ne_none s)

theorem Disk.Item.name_eq_of_fileName {i : Item} {start : FilePath} {name : String}
    (h : (i.path start).fileName = some name) : i.name start = name := by
  obtain ⟨names, e⟩ := i
  cases hlast : names.getLast? with
  | some last =>
    have hsome := FilePath.fileName_descend start hlast
    rw [Item.path, hsome] at h
    rw [Item.name, hlast]
    exact Option.some.inj h
  | none =>
    obtain rfl := List.getLast?_eq_none_iff.1 hlast
    have hpath : Item.path ⟨[], e⟩ start = start := by simp [Item.path, FilePath.descend]
    rw [hpath] at h
    simp [Item.name, h]

end CodeSurvey
