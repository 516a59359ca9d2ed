/-
Class paths with and without a limit.

`IsCacheJar` says which entries of a cache can come onto a class path: those that a walk of ten levels meets and whose
name is that of a library which a source asks for. Without a limit, they come in behind the jars of the module, cache by
cache and in the order of a walk, each unless a jar of its artifact is there (`isNew`).

`build_eq_take`: a class path with a limit is the front of this list, as long as the limit says. So two limits give a
list and a front of it, no jar of a cache repeats an artifact, and where the limit is not reached each such entry has its
artifact on the list. The search stops at the limit and remembers artifacts in a set; `takeNew_eq` ties the set to the
jars that are listed and the room that is left to their number.
-/
import CodeSurvey.Compile.Classpath
import CodeSurvey.Proofs.Project.Admission
import CodeSurvey.Proofs.Project.Reach

namespace CodeSurvey.Classpath

open Text

/-! ## What sources ask for -/

/-- a word in one of the sources asks for jars that are named so -/
def AsksFor (d : Disk) (sources : List FilePath) (name : String) : Prop :=
  ∃ source ∈ sources, ∃ text, d.sourceText source = .ok text ∧
    ∃ row ∈ keywordRows, (∃ word ∈ row.1, contains text word = true) ∧ ∃ start ∈ row.2, startsWith name start = true

theorem mem_startsOfText (text start : String) : start ∈ startsOfText text ↔
    ∃ row ∈ keywordRows, (∃ word ∈ row.1, contains text word = true) ∧ start ∈ row.2 := by
  simp only [startsOfText, List.mem_flatMap, List.mem_filter, List.any_eq_true, and_assoc]

theorem mem_starts (d : Disk) (sources : List FilePath) (start : String) : start ∈ (starts d sources).toList ↔
    ∃ source ∈ sources, ∃ text, d.sourceText source = .ok text ∧ start ∈ startsOfText text := by
  simp only [starts, NameSet.mem_toList_ofList, List.mem_flatMap, List.mem_filterMap]
  constructor
  · rintro ⟨text, ⟨source, hsource, hread⟩, hstart⟩
    cases hok : d.sourceText source with
    | error fault => simp [hok, Except.toOption] at hread
    | ok read =>
      obtain rfl : read = text := by simpa [hok, Except.toOption] using hread
      exact ⟨source, hsource, read, hok, hstart⟩
  · rintro ⟨source, hsource, text, hok, hstart⟩
    exact ⟨text, ⟨source, hsource, by rw [hok]; rfl⟩, hstart⟩

theorem asksFor_iff (d : Disk) (sources : List FilePath) (name : String) :
    AsksFor d sources name ↔ (starts d sources).toList.any (startsWith name) = true := by
  simp only [List.any_eq_true, mem_starts, mem_startsOfText, AsksFor]
  constructor
  · rintro ⟨source, hsource, text, hread, row, hrow, hword, start, hstart, hname⟩
    exact ⟨start, ⟨source, hsource, text, hread, row, hrow, hword, hstart⟩, hname⟩
  · rintro ⟨start, ⟨source, hsource, text, hread, row, hrow, hword, hstart⟩, hname⟩
    exact ⟨source, hsource, text, hread, row, hrow, hword, start, hstart, hname⟩

/-! ## Jars of a cache -/

/-- an entry of the cache, not deeper than jars lie, with the name of a library that a source asks for -/
structure IsCacheJar (d : Disk) (sources : List FilePath) (cache : FilePath) (names : List String) : Prop where
  directory : d.Stands cache [] .directory
  near : names.length ≤ cacheDepth
  stands : ∃ e, d.Stands cache names e
  asked : ∃ name, (cache.descend names).fileName = some name ∧ isLibrary name = true ∧ AsksFor d sources name

/-- a walk's entry has the name of a library that a source asks for -/
def isAsked (d : Disk) (sources : List FilePath) (cache : FilePath) (i : Disk.Item) : Bool :=
  isLibrary (i.name cache) && (starts d sources).toList.any (startsWith (i.name cache))

/-- the names of the jars of a cache in walk order -/
def jarsBelow (d : Disk) (sources : List FilePath) (cache : FilePath) : List (List String) :=
  ((if d.isDirectory cache then d.walkTo cacheDepth cache else []).filter (isAsked d sources cache)).map (·.names)

theorem jarsBelow_rising (d : Disk) (sources : List FilePath) (cache : FilePath) :
    (jarsBelow d sources cache).Pairwise (· < ·) := by
  rw [jarsBelow, List.pairwise_map]
  refine List.Pairwise.filter _ ?_
  split
  · exact (d.walk_rising cache).filter _
  · exact .nil

theorem endsName_jar : FilePath.EndsName ".jar" := ⟨by decide, by decide⟩

theorem endsWith_of_isLibrary {name : String} (h : isLibrary name = true) : endsWith name ".jar" = true := by
  simp only [isLibrary, Bool.and_eq_true] at h
  exact h.1.1

theorem isAsked_iff (d : Disk) (sources : List FilePath) (cache : FilePath) (i : Disk.Item) :
    isAsked d sources cache i = true ↔
      ∃ name, (i.path cache).fileName = some name ∧ isLibrary name = true ∧ AsksFor d sources name := by
  rw [isAsked, Bool.and_eq_true, ← asksFor_iff]
  constructor
  · rintro ⟨hlibrary, hasked⟩
    exact ⟨_, Disk.Item.fileName_path endsName_jar (endsWith_of_isLibrary hlibrary), hlibrary, hasked⟩
  · rintro ⟨name, hname, hlibrary, hasked⟩
    rw [Disk.Item.name_eq_of_fileName hname]
    exact ⟨hlibrary, hasked⟩

theorem mem_jarsBelow (d : Disk) (sources : List FilePath) (cache : FilePath) (names : List String) :
    names ∈ jarsBelow d sources cache ↔ IsCacheJar d sources cache names := by
  rw [jarsBelow, List.mem_map]
  simp only [List.mem_filter, isAsked_iff]
  constructor
  · rintro ⟨⟨names, e⟩, ⟨hmem, hasked⟩, rfl⟩
    split at hmem
    · rename_i hcache
      rw [Disk.walkTo, List.mem_filter, Disk.mem_walk_iff, decide_eq_true_eq] at hmem
      exact ⟨(d.isDirectory_iff cache).1 hcache, hmem.2, ⟨e, hmem.1.2⟩, hasked⟩
    · exact absurd hmem List.not_mem_nil
  · intro h
    obtain ⟨e, hstands⟩ := h.stands
    refine ⟨⟨names, e⟩, ⟨?_, h.asked⟩, rfl⟩
    rw [if_pos ((d.isDirectory_iff cache).2 h.directory), Disk.walkTo, List.mem_filter, Disk.mem_walk_iff,
      decide_eq_true_eq]
    exact ⟨⟨⟨_, h.directory⟩, hstands⟩, h.near⟩

/-- the jars of all caches -/
def jarsOf (d : Disk) (sources caches : List FilePath) : List FilePath :=
  caches.flatMap fun cache => (jarsBelow d sources cache).map cache.descend

theorem cacheJars_eq (d : Disk) (sources caches : List FilePath) :
    cacheJars d caches (starts d sources) = caches.flatMap fun cache =>
      (((if d.isDirectory cache then d.walkTo cacheDepth cache else []).filter (isAsked d sources cache)).map
        fun i => (i.name cache, i.path cache)) := by
  induction caches with
  | nil => rfl
  | cons cache caches ih =>
    rw [List.flatMap_cons, ← ih]
    by_cases hcache : d.isDirectory cache = true
    · rw [if_pos hcache, cacheJars, List.filter_cons_of_pos hcache, List.flatMap_cons, List.filter_map]
      rfl
    · rw [if_neg hcache, cacheJars, List.filter_cons_of_neg hcache]
      rfl

theorem map_snd_cacheJars (d : Disk) (sources caches : List FilePath) :
    (cacheJars d caches (starts d sources)).map (·.2) = jarsOf d sources caches := by
  rw [cacheJars_eq, jarsOf, List.map_flatMap]
  simp only [jarsBelow, List.map_map]
  rfl

theorem fileName_of_mem_cacheJars {d : Disk} {sources caches : List FilePath} {j : String × FilePath}
    (h : j ∈ cacheJars d caches (starts d sources)) : j.2.fileName = some j.1 := by
  rw [cacheJars_eq, List.mem_flatMap] at h
  obtain ⟨cache, -, h⟩ := h
  obtain ⟨i, hi, rfl⟩ := List.mem_map.1 h
  have hasked : isAsked d sources cache i = true := (List.mem_filter.1 hi).2
  exact Disk.Item.fileName_path endsName_jar (endsWith_of_isLibrary (Bool.and_eq_true_iff.1 hasked).1)

/-! ## Jars come in -/

/-- the artifact that the name of a jar's path tells -/
def artifactOf (p : FilePath) : Option String := p.fileName.map artifact

/-- no listed jar has the artifact of the jar -/
def isNew (listed : List FilePath) (jar : FilePath) : Bool := !listed.any fun p => artifactOf p = artifactOf jar

theorem isNew_iff {listed : List FilePath} {jar : FilePath} :
    isNew listed jar = true ↔ ∀ p ∈ listed, artifactOf p ≠ artifactOf jar := by
  simp [isNew]

theorem isNew_eq_false_iff {listed : List FilePath} {jar : FilePath} :
    isNew listed jar = false ↔ ∃ p ∈ listed, artifactOf p = artifactOf jar := by
  simp [isNew]

theorem contains_artifacts (listed : List FilePath) {name : String} {jar : FilePath} (h : jar.fileName = some name) :
    (artifacts listed).contains (artifact name) = !isNew listed jar := by
  have hjar : artifactOf jar = some (artifact name) := by rw [artifactOf, h]; rfl
  rw [Bool.eq_iff_iff, Bool.not_eq_true', isNew_eq_false_iff, hjar, artifacts, NameSet.contains_ofList,
    List.mem_filterMap]
  rfl

theorem artifacts_concat (listed : List FilePath) {name : String} {jar : FilePath} (h : jar.fileName = some name) :
    artifacts (listed ++ [jar]) = (artifacts listed).add (artifact name) := by
  have hjar : [jar].filterMap (fun p => p.fileName.map artifact) = [artifact name] := by simp [h]
  rw [artifacts, List.filterMap_append, hjar, NameSet.ofList_concat]
  rfl

/-- **What the search takes is the front of what comes in**: as many jars as there is room for. -/
theorem takeNew_eq {jars : List (String × FilePath)} (h : ∀ j ∈ jars, j.2.fileName = some j.1) (listed : List FilePath)
    (room : Nat) : listed ++ takeNew (artifacts listed) room jars =
      (letAllIn isNew listed (jars.map (·.2))).take (listed.length + room) := by
  induction jars generalizing listed room with
  | nil =>
    have hnone : takeNew (artifacts listed) room [] = [] := by cases room <;> rfl
    rw [hnone, List.append_nil]
    exact (List.take_of_length_le (Nat.le_add_right _ _)).symm
  | cons j jars ih =>
    obtain ⟨name, jar⟩ := j
    have hname : jar.fileName = some name := h (name, jar) List.mem_cons_self
    have hrest : ∀ j ∈ jars, j.2.fileName = some j.1 := fun j hj => h j (List.mem_cons_of_mem _ hj)
    rw [List.map_cons]
    cases room with
    | zero =>
      obtain ⟨came, hcame⟩ := first_isFront isNew listed (jar :: jars.map (·.2))
      rw [← hcame, Nat.add_zero, List.take_left]
      exact List.append_nil listed
    | succ room =>
      rw [takeNew, contains_artifacts listed hname, letAllIn_cons]
      cases hnew : isNew listed jar with
      | false =>
        rw [letIn_of_not_fits hnew, Bool.not_false, if_pos rfl]
        exact ih hrest listed (room + 1)
      | true =>
        have hlength : listed.length + (room + 1) = (listed ++ [jar]).length + room := by
          rw [List.length_append, List.length_singleton]
          omega
        rw [letIn_of_fits hnew, Bool.not_true, if_neg Bool.false_ne_true, hlength, ← ih hrest,
          artifacts_concat listed hname, List.append_assoc, List.singleton_append]

/-! ## The class path of a module -/

/-- the class path without a limit -/
def whole (d : Disk) (caches : List FilePath) (root : FilePath) (sources : List FilePath) : List FilePath :=
  letAllIn isNew (moduleJars d root) (jarsOf d sources caches)

theorem jarsOf_of_no_starts {d : Disk} {sources : List FilePath} (h : (starts d sources).size = 0)
    (caches : List FilePath) : jarsOf d sources caches = [] := by
  have hempty : (starts d sources).toList = [] := by
    rw [NameSet.toList, Ordered.keys, List.map_eq_nil_iff]
    exact List.length_eq_zero_iff.1 h
  rw [jarsOf, List.flatMap_eq_nil_iff]
  intro cache _
  rw [List.map_eq_nil_iff, List.eq_nil_iff_forall_not_mem]
  intro names hnames
  obtain ⟨name, -, -, hasked⟩ := ((mem_jarsBelow d sources cache names).1 hnames).asked
  rw [asksFor_iff, hempty] at hasked
  exact absurd hasked Bool.false_ne_true

theorem build_eq (d : Disk) (caches : List FilePath) (limit : Nat) (root : FilePath) (sources : List FilePath) :
    build d caches limit root sources = (whole d caches root sources).take limit := by
  unfold build
  by_cases hnone : (starts d sources).size = 0
  · rw [if_pos hnone, whole, jarsOf_of_no_starts hnone]
    rfl
  · rw [if_neg hnone, takeNew_eq fun j hj => fileName_of_mem_cacheJars hj, map_snd_cacheJars, whole]
    by_cases hroom : (moduleJars d root).length ≤ limit
    · rw [List.take_of_length_le hroom, Nat.add_sub_cancel' hroom]
    · -- the jars of the module fill the class path, so nothing comes in behind them
      have hlength : ((moduleJars d root).take limit).length = limit := by
        rw [List.length_take, Nat.min_eq_left (Nat.le_of_not_le hroom)]
      obtain ⟨came, hcame⟩ := first_isFront isNew ((moduleJars d root).take limit) (jarsOf d sources caches)
      obtain ⟨all, hall⟩ := first_isFront isNew (moduleJars d root) (jarsOf d sources caches)
      rw [hlength, Nat.sub_self, Nat.add_zero, ← hcame, ← hall, List.take_append_of_le_length (Nat.le_of_not_le hroom),
        List.take_append_of_le_length (Nat.le_of_eq hlength.symm), List.take_take, Nat.min_self]

/-- **A class path is the front of the one without a limit**, as long as the limit says. -/
theorem build_eq_take (d : Disk) (caches : List FilePath) (root : FilePath) (sources : List FilePath) :
    ∃ jars : FilePath → List (List String),
      (∀ cache, (jars cache).Pairwise (· < ·) ∧ ∀ names, names ∈ jars cache ↔ IsCacheJar d sources cache names) ∧
      let unlimited := letAllIn isNew (moduleJars d root) (caches.flatMap fun cache => (jars cache).map cache.descend)
      ∀ limit, let listed := build d caches limit root sources
        listed = unlimited.take limit ∧ listed.length ≤ limit ∧
        (∀ more, limit ≤ more → listed <+: build d caches more root sources) ∧
        (∀ (front : List FilePath) jar back, listed = front ++ jar :: back → (moduleJars d root).length ≤ front.length →
          ∀ p ∈ front, artifactOf p ≠ artifactOf jar) ∧
        (listed.length < limit → ∀ cache ∈ caches, ∀ names, IsCacheJar d sources cache names →
          ∃ p ∈ listed, artifactOf p = artifactOf (cache.descend names)) := by
  refine ⟨jarsBelow d sources, fun cache => ⟨jarsBelow_rising d sources cache, mem_jarsBelow d sources cache⟩, ?_⟩
  intro unlimited limit listed
  have hlisted : listed = unlimited.take limit := build_eq d caches limit root sources
  refine ⟨hlisted, ?_, fun more hmore => ?_, ?_, fun hroom cache hcache names hjar => ?_⟩
  · rw [hlisted]
    exact List.length_take_le _ _
  · rw [hlisted, build_eq]
    exact List.take_prefix_take_left hmore
  · intro front jar back hsplit hbehind
    have hunlimited : unlimited = front ++ jar :: (back ++ unlimited.drop limit) := by
      rw [← List.cons_append, ← List.append_assoc, ← hsplit, hlisted, List.take_append_drop]
    exact isNew_iff.1 (fits_of_admitted hunlimited hbehind)
  · have hall : listed = unlimited := by
      rw [hlisted, List.length_take] at hroom
      rw [hlisted, List.take_of_length_le (by omega)]
    have hmem : cache.descend names ∈ jarsOf d sources caches :=
      List.mem_flatMap.2 ⟨cache, hcache, List.mem_map_of_mem ((mem_jarsBelow d sources cache names).2 hjar)⟩
    obtain ⟨before, after, hsplit⟩ := List.append_of_mem hmem
    have hunlimited : unlimited = letAllIn isNew (moduleJars d root) (before ++ cache.descend names :: after) :=
      congrArg (letAllIn isNew (moduleJars d root)) hsplit
    rw [hall, hunlimited]
    rcases mem_or_refused isNew (moduleJars d root) before after (cache.descend names) with hin | hrefused
    · exact ⟨_, hin, rfl⟩
    · obtain ⟨p, hp, hsame⟩ := isNew_eq_false_iff.1 hrefused
      exact ⟨p, (letAllIn_isFront isNew _ before _).subset hp, hsame⟩

/-! ## A jar that lies too deep -/

/-- the directories between a cache and a jar in the eleventh level -/
def deepWay : List String := ["a", "b", "c", "d", "e", "f", "g", "h", "i", "j"]

/-- a source and a cache that holds the jar -/
def deepEntries : List (Place × Entry) :=
  ((["c"] :: (List.range 10).map fun n => "c" :: deepWay.take (n + 1)).map fun place => (place, .directory)) ++
    [("c" :: deepWay ++ ["spring-deep-1.0.jar"], .file []), (["m"], .directory),
      (["m", "App.java"], .file (encode "import org.springframework.A;"))]

def deepDisk : Disk where
  tree := ⟨deepEntries, by decide +kernel⟩
  here := []
  home := none
  programs := []
  temp := []
  executable := []

/-- Not every library of a cache has its artifact on a class path that has room: one in the eleventh level has not. -/
theorem build_deepDisk :
    let cache := FilePath.ofText "/c"
    let sources := [FilePath.ofText "/m/App.java"]
    let listed := build deepDisk [cache] 10 (.ofText "/m") sources
    ¬ (listed.length < 10 → ∀ names, (∃ e, deepDisk.Stands cache names e) →
      (∃ name, (cache.descend names).fileName = some name ∧ isLibrary name = true ∧ AsksFor deepDisk sources name) →
        ∃ p ∈ listed, artifactOf p = artifactOf (cache.descend names)) := by
  intro cache sources listed hall
  have hlisted : listed = [] := by decide +kernel
  have hasked : AsksFor deepDisk sources "spring-deep-1.0.jar" := (asksFor_iff _ _ _).2 (by decide +kernel)
  have hwalk : (⟨deepWay ++ ["spring-deep-1.0.jar"], .file []⟩ : Disk.Item) ∈ deepDisk.walk cache := by decide +kernel
  have hstands : deepDisk.Stands cache (deepWay ++ ["spring-deep-1.0.jar"]) (.file []) :=
    ((deepDisk.mem_walk_iff cache _).1 hwalk).2
  have hname : (cache.descend (deepWay ++ ["spring-deep-1.0.jar"])).fileName = some "spring-deep-1.0.jar" := by
    decide +kernel
  have hroom : listed.length < 10 := by rw [hlisted]; decide
  obtain ⟨p, hp, -⟩ := hall hroom _ ⟨_, hstands⟩ ⟨_, hname, by decide +kernel, hasked⟩
  rw [hlisted] at hp
  exact nomatch hp

end CodeSurvey.Classpath
