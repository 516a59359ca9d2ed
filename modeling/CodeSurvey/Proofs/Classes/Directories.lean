/-
Where the classes of a module are looked for.

Candidates are the conventional places first, then the directories that `IsDiscovered` describes, in the order of a walk.
They come in one after the other (`classDirectories_eq`): a candidate comes in when it is a directory with a class file
below it (`HoldsClassFile`) and lies neither in, around nor at one of those that are there.

`classDirectories_apart`: so the directories that came in stand in the order of the candidates, each with a class file
below it, and their subtrees share nothing; a candidate with a class file that did not come in lies in, around or at one
that stands before it. Since no place is in two of the subtrees, a scan of the directories meets each class file once
(`scan_nodup`).
-/
import CodeSurvey.Classes.ClassGraph
import CodeSurvey.Proofs.Project.Admission
import CodeSurvey.Proofs.Project.Reach
import Mathlib.Data.List.Nodup

namespace CodeSurvey

open Text

namespace Disk

variable {d : Disk} {root : FilePath}

/-! ## Class files of a directory -/

/-- a class file stands below the directory -/
def HoldsClassFile (d : Disk) (directory : FilePath) : Prop :=
  d.Stands directory [] .directory ∧ ∃ names content, d.Stands directory names (.file content) ∧
    (directory.descend names).extension = some "class"

theorem mem_classFiles {directory : FilePath} (h : d.Stands directory [] .directory) (file : FilePath) :
    file ∈ d.classFiles directory ↔ ∃ names content, d.Stands directory names (.file content) ∧
      (directory.descend names).extension = some "class" ∧ directory.descend names = file := by
  simp only [classFiles, List.mem_filter, List.mem_map, mem_walk_iff, and_iff_right (Exists.intro _ h), beq_iff_eq]
  constructor
  · rintro ⟨⟨⟨names, e⟩, ⟨hstands, hfile⟩, rfl⟩, hclass⟩
    cases e with
    | file content => exact ⟨names, content, hstands, hclass, rfl⟩
    | directory => exact nomatch hfile
    | void => exact nomatch hfile
  · rintro ⟨names, content, hstands, hclass, rfl⟩
    exact ⟨⟨⟨names, .file content⟩, ⟨hstands, rfl⟩, rfl⟩, hclass⟩

theorem holdsClassFile_iff (d : Disk) (directory : FilePath) :
    d.HoldsClassFile directory ↔ d.isDirectory directory = true ∧ (d.classFiles directory).isEmpty = false := by
  rw [isDirectory_iff, HoldsClassFile]
  refine and_congr_right fun h => ?_
  rw [Bool.eq_false_iff, ne_eq, List.isEmpty_iff, List.eq_nil_iff_forall_not_mem]
  simp only [mem_classFiles h, not_forall, not_not]
  constructor
  · rintro ⟨names, content, hstands, hclass⟩
    exact ⟨_, names, content, hstands, hclass, rfl⟩
  · rintro ⟨_, names, content, hstands, hclass, -⟩
    exact ⟨names, content, hstands, hclass⟩

/-! ## Discovered directories -/

/-- a directory not deeper than the depth, behind no hidden name, whose name says that it holds classes -/
structure IsDiscovered (d : Disk) (root : FilePath) (depth : Nat) (names : List String) : Prop where
  start : ∃ e, d.Stands root [] e
  directory : d.Stands root names .directory
  near : names.length ≤ depth
  reached : ∀ way name e, way ++ [name] <+: names → d.Stands root (way ++ [name]) e → startsWith name "." = false
  named : ∃ name, (root.descend names).fileName = some name ∧ endsWith name "classes" = true

/-- the names of the directories that the search discovers -/
def discovered (d : Disk) (root : FilePath) (depth : Nat) : List (List String) :=
  ((pruned isHidden (d.walkTo depth root)).filter fun i =>
    i.entry.isDirectory && endsWith (i.name root) "classes").map (·.names)

theorem namedForClasses_eq (d : Disk) (root : FilePath) (depth : Nat) :
    d.namedForClasses root depth = (d.discovered root depth).map root.descend := by
  rw [namedForClasses, discovered, List.map_map]
  rfl

theorem discovered_rising (d : Disk) (root : FilePath) (depth : Nat) : (d.discovered root depth).Pairwise (· < ·) := by
  rw [discovered, List.pairwise_map]
  exact (((d.walk_rising root).filter _).filter _).filter _

theorem isHidden_concat (way : List String) (name : String) (e : Entry) :
    isHidden ⟨way ++ [name], e⟩ = startsWith name "." := by
  simp [isHidden]

theorem endsName_classes : FilePath.EndsName "classes" := ⟨by decide, by decide⟩

theorem named_iff (root : FilePath) (i : Item) : endsWith (i.name root) "classes" = true ↔
    ∃ name, (i.path root).fileName = some name ∧ endsWith name "classes" = true := by
  constructor
  · exact fun h => ⟨_, Item.fileName_path endsName_classes h, h⟩
  · rintro ⟨name, hname, hends⟩
    rwa [Item.name_eq_of_fileName hname]

theorem mem_discovered (d : Disk) (root : FilePath) (depth : Nat) (names : List String) :
    names ∈ d.discovered root depth ↔ d.IsDiscovered root depth names := by
  simp only [discovered, List.mem_map, List.mem_filter, mem_pruned, walkTo, mem_walk_iff, decide_eq_true_eq,
    Bool.and_eq_true, named_iff]
  constructor
  · rintro ⟨⟨names, e⟩, ⟨⟨⟨⟨hstart, hstands⟩, hnear⟩, hskip⟩, hdirectory, hnamed⟩, rfl⟩
    have he : e = .directory := by cases e <;> simp_all [Entry.isDirectory]
    subst he
    refine ⟨hstart, hstands, hnear, fun way name e hway hstands => ?_, hnamed⟩
    have hdepth : (way ++ [name]).length ≤ depth := Nat.le_trans hway.length_le hnear
    rw [← isHidden_concat way name e, Bool.eq_false_iff]
    exact fun hhidden => hskip ⟨way ++ [name], e⟩ ⟨⟨hstart, hstands⟩, hdepth⟩ hhidden hway
  · intro h
    refine ⟨⟨names, .directory⟩, ⟨⟨⟨⟨h.start, h.directory⟩, h.near⟩, ?_⟩, rfl, h.named⟩, rfl⟩
    rintro ⟨above, e⟩ ⟨⟨-, hstands⟩, -⟩ hhidden hpre
    obtain rfl | ⟨way, name, rfl⟩ := List.eq_nil_or_concat' above
    · simp [isHidden] at hhidden
    · rw [isHidden_concat, h.reached way name e hpre hstands] at hhidden
      exact absurd hhidden Bool.false_ne_true

/-! ## What comes in -/

/-- a candidate fits beside directories when it holds a class file and is nested with none of them -/
def fitsBeside (d : Disk) (found : List FilePath) (candidate : FilePath) : Bool :=
  d.isDirectory candidate && !(found.any fun f => nested (d.target f) (d.target candidate))
    && !(d.classFiles candidate).isEmpty

theorem classDirectories_eq (d : Disk) (root : FilePath) (depth : Nat) : d.classDirectories root depth =
    letAllIn d.fitsBeside [] (classPlaces.map root.join ++ (d.discovered root depth).map root.descend) := by
  rw [classDirectories, classCandidates, namedForClasses_eq]
  rfl

/-- neither path leads into what is below the other, nor do they lead to one place -/
def Separate (d : Disk) (f g : FilePath) : Prop := ¬ d.target f <+: d.target g ∧ ¬ d.target g <+: d.target f

theorem nested_eq_false {f g : FilePath} : nested (d.target f) (d.target g) = false ↔ d.Separate f g := by
  simp [nested, Separate, ← Bool.not_eq_true, List.isPrefixOf_iff_prefix]

theorem fitsBeside_iff {found : List FilePath} {candidate : FilePath} :
    d.fitsBeside found candidate = true ↔
      d.HoldsClassFile candidate ∧ ∀ f ∈ found, d.Separate f candidate := by
  simp only [fitsBeside, holdsClassFile_iff, Bool.and_eq_true, Bool.not_eq_true', List.any_eq_false,
    Bool.not_eq_true, nested_eq_false]
  exact and_right_comm

theorem fitsBeside_of_mem (found : List FilePath) (f : FilePath) (h : f ∈ found) : d.fitsBeside found f = false := by
  rw [Bool.eq_false_iff]
  exact fun hfits => ((fitsBeside_iff.1 hfits).2 f h).1 (List.prefix_refl _)

theorem fitsBeside_append (found more : List FilePath) (f : FilePath) (h : d.fitsBeside found f = false) :
    d.fitsBeside (found ++ more) f = false := by
  rw [Bool.eq_false_iff] at h ⊢
  refine fun hfits => h (fitsBeside_iff.2 ?_)
  obtain ⟨hholds, hall⟩ := fitsBeside_iff.1 hfits
  exact ⟨hholds, fun g hg => hall g (List.mem_append_left more hg)⟩

/-! ## Scans -/

theorem nodup_classFiles (d : Disk) (directory : FilePath) : ((d.classFiles directory).map d.target).Nodup := by
  have hnames : (d.walk directory).Pairwise fun i j => i.names ≠ j.names := by
    refine (d.walk_rising directory).imp fun {i j} hlt heq => ?_
    exact OrderedKey.lt_irrefl j.names (heq ▸ hlt)
  have hall : (((d.walk directory).map (·.path directory)).map d.target).Nodup := by
    rw [List.Nodup, List.pairwise_map, List.pairwise_map]
    refine hnames.imp fun {i j} hne heq => hne ?_
    rw [Item.path, Item.path, target_descend, target_descend] at heq
    exact List.append_cancel_left heq
  refine hall.sublist (List.Sublist.map _ ?_)
  exact List.filter_sublist.trans (List.filter_sublist.map _)

theorem target_of_mem_classFiles {directory file : FilePath} (h : file ∈ d.classFiles directory) :
    d.target directory <+: d.target file := by
  obtain ⟨i, -, rfl⟩ := List.mem_map.1 (List.mem_filter.1 h).1
  exact ⟨i.names, (target_descend d directory i.names).symm⟩

/-- **A scan of separate directories meets each file once.** -/
theorem scan_nodup {directories : List FilePath} (h : directories.Pairwise d.Separate) :
    ((ClassGraph.scan d directories).map fun file => d.target file.1).Nodup := by
  have hscan : ((ClassGraph.scan d directories).map fun file => d.target file.1) =
      directories.flatMap fun directory => (d.classFiles directory).map d.target := by
    rw [ClassGraph.scan, List.map_flatMap]
    simp only [List.map_map]
    rfl
  rw [hscan, List.nodup_flatMap]
  refine ⟨fun directory _ => nodup_classFiles d directory, h.imp fun {f g} hseparate place hf hg => ?_⟩
  obtain ⟨file, hfile, rfl⟩ := List.mem_map.1 hf
  obtain ⟨other, hother, heq⟩ := List.mem_map.1 hg
  -- a place below both would put one of them below the other
  have hfirst : d.target f <+: d.target file := target_of_mem_classFiles hfile
  have hsecond : d.target g <+: d.target file := heq ▸ target_of_mem_classFiles hother
  exact (List.prefix_or_prefix_of_prefix hfirst hsecond).elim hseparate.1 hseparate.2

/-! ## The directories of a module -/

/-- **The class directories of a module share nothing, and no candidate with a class file is missed.** -/
theorem classDirectories_apart (d : Disk) (root : FilePath) (depth : Nat) :
    ∃ discovered : List (List String), discovered.Pairwise (· < ·) ∧
      (∀ names, names ∈ discovered ↔ d.IsDiscovered root depth names) ∧
      let candidates := classPlaces.map root.join ++ discovered.map root.descend
      let found := d.classDirectories root depth
      found.Sublist candidates.eraseDups ∧
        (∀ f ∈ found, d.locate f = .ok (d.target f) ∧ d.HoldsClassFile f) ∧
        found.Pairwise d.Separate ∧
        (∀ before c after, candidates = before ++ c :: after → d.HoldsClassFile c →
          c ∈ found ∨ ∃ f ∈ found, f ∈ before ∧ (d.target f <+: d.target c ∨ d.target c <+: d.target f)) ∧
        ((ClassGraph.scan d found).map fun file => d.target file.1).Nodup := by
  refine ⟨d.discovered root depth, d.discovered_rising root depth, d.mem_discovered root depth, ?_⟩
  intro candidates found
  have hfound : found = letAllIn d.fitsBeside [] candidates := d.classDirectories_eq root depth
  have hseparate : found.Pairwise d.Separate := by
    rw [hfound]
    refine letAllIn_pairwise (R := d.Separate) ?_ candidates
    intro kept candidate hfits
    exact (fitsBeside_iff.1 hfits).2
  refine ⟨?_, fun f hf => ?_, hseparate, ?_, scan_nodup hseparate⟩
  · rw [hfound]
    exact letAllIn_sublist_eraseDups fitsBeside_of_mem fitsBeside_append candidates
  · rw [hfound] at hf
    obtain ⟨front, back, hsplit⟩ := List.append_of_mem hf
    have hholds : d.HoldsClassFile f :=
      (fitsBeside_iff.1 (fits_of_admitted hsplit (Nat.zero_le _))).1
    obtain ⟨place, hplace, -⟩ := hholds.1
    exact ⟨by rw [hplace, target_of_locate hplace], hholds⟩
  · intro before c after hsplit hholds
    rw [hfound, hsplit]
    refine (mem_or_refused d.fitsBeside [] before after c).imp id fun hrefused => ?_
    -- it holds a class file, so it was refused because of a directory that was there
    have hnot : ¬ ∀ f ∈ letAllIn d.fitsBeside [] before, d.Separate f c := fun hall =>
      Bool.eq_false_iff.1 hrefused (fitsBeside_iff.2 ⟨hholds, hall⟩)
    simp only [not_forall] at hnot
    obtain ⟨f, hf, hnested⟩ := hnot
    obtain ⟨came, hcame, hsub⟩ := exists_admitted d.fitsBeside [] before
    have hbefore : f ∈ before := by
      rw [hcame, List.nil_append] at hf
      exact hsub.subset hf
    refine ⟨f, (letAllIn_isFront d.fitsBeside [] before (c :: after)).subset hf, hbefore, ?_⟩
    rw [Separate, ← not_or, Decidable.not_not] at hnested
    exact hnested

end Disk

end CodeSurvey
