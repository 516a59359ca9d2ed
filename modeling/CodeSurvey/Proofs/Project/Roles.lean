/-
The table of roles.

A run of insertions starts with the empty table. What one insertion says and changes (`insert_fst_iff`, `insert_held`)
gives what a whole run leaves: each class has the entry of its first insertion (`get?_run_eq_some_iff`). Every class of
a table has one role, so the classes of the four roles part the table (`exists_role_iff`, `role_unique`), and as many
classes have a role as the counts say (`size_classesWith`).

The table of a module is the run over its source files in walk order, so all of this is true of it, and each class has
the role and the path of the first file that declares it (`get?_classifyModule_eq_some_iff`). `roles_first` states all
of it.
-/
import Mathlib.Data.List.Basic
import CodeSurvey.Source.Files

namespace CodeSurvey

/-- how many classes have the role -/
def RoleCounts.of (n : RoleCounts) : Role → Nat
  | .entryPoint => n.entryPoints
  | .component => n.components
  | .dataAccess => n.dataAccess
  | .unclassified => n.unclassified

/-- how many classes have any role -/
def RoleCounts.total (n : RoleCounts) : Nat := n.entryPoints + n.components + n.dataAccess + n.unclassified

theorem RoleCounts.of_add (n : RoleCounts) (role role' : Role) :
    (n.add role).of role' = n.of role' + if role = role' then 1 else 0 := by
  cases role <;> cases role' <;> rfl

theorem RoleCounts.total_add (n : RoleCounts) (role : Role) : (n.add role).total = n.total + 1 := by
  cases role <;> simp only [add, total] <;> omega

namespace RoleAssignment

variable {a : RoleAssignment} {name : String} {entry : RoleEntry}

/-! ## One insertion -/

/-- the table after an insertion -/
def step (a : RoleAssignment) (found : String × RoleEntry) : RoleAssignment := (a.insert found.1 found.2).2

/-- **An insertion is new exactly if its class is not there.** -/
theorem insert_fst_iff : (a.insert name entry).1 = true ↔ a.get? name = none := by
  unfold insert get? Ordered.contains
  cases a.entries.get? name <;> simp

/-- **An insertion of a class that is there changes nothing.** -/
theorem insert_held (h : (a.insert name entry).1 = false) : (a.insert name entry).2 = a := by
  unfold insert at h ⊢
  split at h
  · rename_i hheld
    rw [if_pos hheld]
  · cases h

theorem entries_step (a : RoleAssignment) (found : String × RoleEntry) :
    (a.step found).entries = a.entries.insertNew found.1 found.2 := by
  unfold step insert Ordered.insertNew
  split <;> rfl

/-! ## Runs -/

/-- the table after insertions in this order -/
def run (steps : List (String × RoleEntry)) : RoleAssignment := steps.foldl step .empty

theorem run_concat (steps : List (String × RoleEntry)) (found : String × RoleEntry) :
    run (steps ++ [found]) = (run steps).step found := by
  simp [run]

theorem entries_foldl_step (steps : List (String × RoleEntry)) (a : RoleAssignment) :
    (steps.foldl step a).entries = steps.foldl (fun t e => t.insertNew e.1 e.2) a.entries := by
  induction steps generalizing a with
  | nil => rfl
  | cons found steps ih => rw [List.foldl_cons, ih, entries_step, List.foldl_cons]

theorem get?_run (steps : List (String × RoleEntry)) (name : String) : (run steps).get? name = steps.lookup name := by
  rw [get?, run, entries_foldl_step, Ordered.get?_foldl_insertNew]
  exact Option.none_or

theorem forall_bne_iff {steps : List (String × RoleEntry)} :
    (∀ found ∈ steps, (name != found.1) = true) ↔ name ∉ steps.map Prod.fst := by
  simp only [bne_iff_ne, List.mem_map, not_exists, not_and]
  constructor
  · intro h found hfound hname
    exact h found hfound hname.symm
  · intro h found hfound hname
    exact h found hfound hname.symm

/-- **A class has the entry of its first insertion.** -/
theorem get?_run_eq_some_iff {steps : List (String × RoleEntry)} :
    (run steps).get? name = some entry ↔
      ∃ front back, steps = front ++ (name, entry) :: back ∧ name ∉ front.map Prod.fst := by
  simp only [get?_run, List.lookup_eq_some_iff, forall_bne_iff]

theorem get?_run_eq_none_iff {steps : List (String × RoleEntry)} :
    (run steps).get? name = none ↔ name ∉ steps.map Prod.fst := by
  rw [get?_run, List.lookup_eq_none_iff, forall_bne_iff]

/-! ## The classes of each role -/

/-- a class is in the table exactly if it is one of the classes of some role -/
theorem exists_role_iff (a : RoleAssignment) (name : String) :
    (∃ role, name ∈ (a.classesWith role).toList) ↔ a.get? name ≠ none := by
  simp only [mem_classesWith, Option.ne_none_iff_exists']
  constructor
  · rintro ⟨role, entry, h, -⟩
    exact ⟨entry, h⟩
  · rintro ⟨entry, h⟩
    exact ⟨entry.role, entry, h, rfl⟩

/-- **No class has two roles.** -/
theorem role_unique {role role' : Role} (h : name ∈ (a.classesWith role).toList)
    (h' : name ∈ (a.classesWith role').toList) : role = role' := by
  obtain ⟨entry, hentry, rfl⟩ := (mem_classesWith a role name).1 h
  obtain ⟨entry', hentry', rfl⟩ := (mem_classesWith a role' name).1 h'
  rw [hentry] at hentry'
  cases hentry'
  rfl

theorem of_foldl_add (es : List (String × RoleEntry)) (n : RoleCounts) (role : Role) :
    (es.foldl (fun n e => n.add e.2.role) n).of role = n.of role + (es.filter fun e => e.2.role == role).length := by
  induction es generalizing n with
  | nil => rfl
  | cons e es ih =>
    rw [List.foldl_cons, ih, RoleCounts.of_add, List.filter_cons]
    by_cases h : e.2.role = role
    · simp [h]; omega
    · simp [h]

theorem total_foldl_add (es : List (String × RoleEntry)) (n : RoleCounts) :
    (es.foldl (fun n e => n.add e.2.role) n).total = n.total + es.length := by
  induction es generalizing n with
  | nil => rfl
  | cons e es ih => rw [List.foldl_cons, ih, RoleCounts.total_add, List.length_cons]; omega

/-- **As many classes have a role as the counts say.** -/
theorem size_classesWith (a : RoleAssignment) (role : Role) : (a.classesWith role).size = a.counts.of role := by
  have hzero : RoleCounts.zero.of role = 0 := by cases role <;> rfl
  rw [counts, of_foldl_add, hzero, Nat.zero_add]
  simp [classesWith, Ordered.size, Ordered.map, Ordered.filter]

/-- **The counts add up to the size of the table.** -/
theorem total_counts (a : RoleAssignment) : a.counts.total = a.size := by
  rw [counts, total_foldl_add]
  simp [RoleCounts.total, RoleCounts.zero, size, Ordered.size]

end RoleAssignment

/-! ## The classes of a module -/

namespace Disk

variable {d : Disk} {root file : FilePath} {name text : String} {entry : RoleEntry}

/-- the file is read as a text whose first type has the name -/
def Declares (d : Disk) (file : FilePath) (name text : String) : Prop :=
  d.normalizedText file = .ok text ∧ Source.typeName text = some name

theorem classOfFile_eq_some_iff : d.classOfFile root file = some (name, entry) ↔
    ∃ text, d.Declares file name text ∧ entry = ⟨Role.classify (pathBelow root file) text, file⟩ := by
  unfold classOfFile Declares
  cases d.normalizedText file with
  | error fault => simp
  | ok text =>
    cases hname : Source.typeName text with
    | none => simp [hname]
    | some first => simp [hname, eq_comm]

theorem classifyModule_eq (d : Disk) (root : FilePath) :
    d.classifyModule root = RoleAssignment.run ((d.javaFiles root).filterMap (d.classOfFile root)) :=
  rfl

/-- a class is found in files exactly if one of them declares it -/
theorem mem_found_iff {files : List FilePath} :
    name ∈ (files.filterMap (d.classOfFile root)).map Prod.fst ↔ ∃ f ∈ files, ∃ t, d.Declares f name t := by
  simp only [List.mem_map, List.mem_filterMap]
  constructor
  · rintro ⟨⟨_, entry⟩, ⟨f, hf, hfound⟩, rfl⟩
    obtain ⟨t, hdeclares, -⟩ := classOfFile_eq_some_iff.1 hfound
    exact ⟨f, hf, t, hdeclares⟩
  · rintro ⟨f, hf, t, hdeclares⟩
    exact ⟨_, ⟨f, hf, classOfFile_eq_some_iff.2 ⟨t, hdeclares, rfl⟩⟩, rfl⟩

/-- **A class of a module has the role and the path of the first file in walk order that declares it.** -/
theorem get?_classifyModule_eq_some_iff : (d.classifyModule root).get? name = some entry ↔
    ∃ front file back text, d.javaFiles root = front ++ file :: back ∧ d.Declares file name text ∧
      (∀ f ∈ front, ∀ t, ¬ d.Declares f name t) ∧ entry = ⟨Role.classify (pathBelow root file) text, file⟩ := by
  have hfirst : ∀ files : List FilePath, name ∉ (files.filterMap (d.classOfFile root)).map Prod.fst ↔
      ∀ f ∈ files, ∀ t, ¬ d.Declares f name t := by
    intro files
    rw [mem_found_iff]
    simp
  rw [classifyModule_eq, RoleAssignment.get?_run_eq_some_iff]
  constructor
  · rintro ⟨found, later, hsteps, hnew⟩
    obtain ⟨before, files, hfiles, rfl, hrest⟩ := List.filterMap_eq_append_iff.1 hsteps
    obtain ⟨skipped, file, back, rfl, hskipped, hfile, -⟩ := List.filterMap_eq_cons_iff.1 hrest
    obtain ⟨text, hdeclares, rfl⟩ := classOfFile_eq_some_iff.1 hfile
    refine ⟨before ++ skipped, file, back, text, by rw [hfiles, List.append_assoc], hdeclares, ?_, rfl⟩
    intro f hf t ht
    rcases List.mem_append.1 hf with hf | hf
    · exact (hfirst before).1 hnew f hf t ht
    · have hnone := hskipped f hf
      rw [classOfFile_eq_some_iff.2 ⟨t, ht, rfl⟩] at hnone
      cases hnone
  · rintro ⟨front, file, back, text, hfiles, hdeclares, hnone, rfl⟩
    refine ⟨_, back.filterMap (d.classOfFile root), ?_, (hfirst front).2 hnone⟩
    rw [hfiles, List.filterMap_append, List.filterMap_cons, classOfFile_eq_some_iff.2 ⟨text, hdeclares, rfl⟩]

end Disk

namespace RoleAssignment

/-- **The first classification of a name counts.** In every run of insertions into an empty table, an insertion is new
exactly if its class was not inserted before, and one that is not new changes nothing; each class has the entry of its
first insertion. The classes of the four roles are apart from one another and together the inserted ones, as many of
each role as the counts say, and the counts add up to the size. The table of a module is such a run over its source
files, and each class has the role and the path of the first file in walk order that declares it. -/
theorem roles_first :
    (∀ steps name entry,
      (((run steps).insert name entry).1 = true ↔ name ∉ steps.map Prod.fst) ∧
      (((run steps).insert name entry).1 = false → ((run steps).insert name entry).2 = run steps) ∧
      run (steps ++ [(name, entry)]) = ((run steps).insert name entry).2) ∧
    (∀ steps name entry, (run steps).get? name = some entry ↔
      ∃ front back, steps = front ++ (name, entry) :: back ∧ name ∉ front.map Prod.fst) ∧
    (∀ steps,
      (∀ name role role', name ∈ ((run steps).classesWith role).toList →
        name ∈ ((run steps).classesWith role').toList → role = role') ∧
      (∀ name, (∃ role, name ∈ ((run steps).classesWith role).toList) ↔ name ∈ steps.map Prod.fst) ∧
      (∀ role, ((run steps).classesWith role).size = (run steps).counts.of role) ∧
      (run steps).counts.total = (run steps).size) ∧
    ∀ (d : Disk) (root : FilePath),
      d.classifyModule root = run ((d.javaFiles root).filterMap (d.classOfFile root)) ∧
      ∀ name entry, (d.classifyModule root).get? name = some entry ↔
        ∃ front file back text, d.javaFiles root = front ++ file :: back ∧ d.Declares file name text ∧
          (∀ f ∈ front, ∀ t, ¬ d.Declares f name t) ∧
          entry = ⟨Role.classify (Disk.pathBelow root file) text, file⟩ := by
  refine ⟨?_, fun _ _ _ => get?_run_eq_some_iff, ?_, ?_⟩
  · intro steps name entry
    exact ⟨insert_fst_iff.trans get?_run_eq_none_iff, insert_held, run_concat steps (name, entry)⟩
  · intro steps
    refine ⟨fun _ _ _ => role_unique, ?_, size_classesWith _, total_counts _⟩
    intro name
    rw [exists_role_iff, Ne, get?_run_eq_none_iff, not_not]
  · intro d root
    exact ⟨d.classifyModule_eq root, fun _ _ => Disk.get?_classifyModule_eq_some_iff⟩

end RoleAssignment

end CodeSurvey
