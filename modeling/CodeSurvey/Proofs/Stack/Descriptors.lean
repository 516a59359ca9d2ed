/-
The file that describes a project, and the file that is opened for it.

The search for a description takes the shallowest file whose name is right up to the case of its letters, and hands on
the directory only; whoever reads the description puts the name together again. The two meet in one file exactly when
the file has the usual name (`NamedExactly`): `pom.xml`; or `build.gradle`; or `build.gradle.kts` where nothing else
stands in the way as `build.gradle`. `POM.XML` is found and then looked for in vain.

`stackSummary_agrees`: what is opened is what was found just when the name is exact; and where all descriptions that
the search can meet are legible, a summary says that it could not be read just when no regular file stands where one is
opened. `stackSummary_upperCase` is a project with a legible `POM.XML`.
-/
import CodeSurvey.Proofs.Project.Trimmed
import CodeSurvey.Stack.Detect

namespace CodeSurvey

open Text
open FilePath (IsName)

theorem mem_of_shallowest {items : List Disk.Item} {i : Disk.Item} (h : shallowest items = some i) : i ∈ items := by
  induction items generalizing i with
  | nil => cases h
  | cons first items ih =>
    unfold shallowest at h
    cases hrest : shallowest items with
    | none =>
      rw [hrest] at h
      exact Option.some.inj h ▸ List.mem_cons_self
    | some j =>
      rw [hrest] at h
      dsimp only at h
      split at h
      · exact Option.some.inj h ▸ List.mem_cons_of_mem _ (ih hrest)
      · exact Option.some.inj h ▸ List.mem_cons_self

namespace Disk

variable {d : Disk} {path : FilePath}

/-! ## What is found -/

/-- the name is one of the names up to the case of letters -/
def isLike (names : List String) (name : String) : Bool := names.any (eqIgnoreAsciiCase name)

/-- the file by which the description is chosen -/
def matched (d : Disk) (path : FilePath) : Option Item :=
  (d.findFile path ["pom.xml"]).or (d.findFile path scriptNames)

/-- the file that is opened for a description in a directory -/
def opened (d : Disk) : Description → Option FilePath
  | .maven directory => some (directory.child "pom.xml")
  | .gradle directory => some (d.scriptIn directory)
  | .package _ => none

/-- the name is the one that is opened in the directory of the description -/
def NamedExactly (d : Disk) : Description → String → Prop
  | .maven _, name => name = "pom.xml"
  | .gradle directory, name =>
    name = "build.gradle" ∨ (name = "build.gradle.kts" ∧ d.exists? (directory.child "build.gradle") = false)
  | .package _, _ => False

theorem findFile_met {names : List String} {i : Item} (h : d.findFile path names = some i) :
    i ∈ d.walkTo descriptionDepth path ∧ i.entry.isFile = true ∧ isLike names (i.name path) = true := by
  obtain ⟨hmem, htest⟩ := List.mem_filter.1 (mem_of_shallowest h)
  obtain ⟨hfile, hnamed⟩ := Bool.and_eq_true_iff.1 htest
  exact ⟨hmem, hfile, hnamed⟩

theorem isFile_iff (d : Disk) (p : FilePath) : d.isFile p = true ↔ ∃ content, d.entry p = .ok (.file content) := by
  unfold isFile
  cases hentry : d.entry p with
  | error fault => simp
  | ok e => cases e <;> simp [Entry.isFile]

theorem file_below {i : Item} (hmem : i ∈ d.walk path) (hfile : i.entry.isFile = true) (hpath : d.isFile path = false) :
    i.names ≠ [] := by
  intro hnil
  obtain ⟨-, place, hplace, hentry⟩ := (d.mem_walk_iff path i).1 hmem
  rw [hnil, List.append_nil] at hentry
  have hstart : d.entry path = .ok i.entry := entry_ok_iff.2 ⟨place, hplace, hentry⟩
  have hisFile : d.isFile path = true := by simp [isFile, hstart, hfile]
  exact absurd hpath (by rw [hisFile]; decide)

/-- A description with a file to open comes from a file below the project, and names its directory. -/
theorem exists_matched {description : Description} (hdescription : d.description path = some description)
    {file : FilePath} (hopened : d.opened description = some file) :
    ∃ i, d.matched path = some i ∧ i ∈ d.walkTo descriptionDepth path ∧ i.entry.isFile = true ∧ i.names ≠ [] ∧
      ((description = .maven (directoryOf path i) ∧ isLike ["pom.xml"] (i.name path) = true) ∨
        (description = .gradle (directoryOf path i) ∧ isLike scriptNames (i.name path) = true)) := by
  unfold Disk.description at hdescription
  split at hdescription
  · split at hdescription
    · obtain rfl := Option.some.inj hdescription
      cases hopened
    · cases hdescription
  · rename_i hpath
    have hbelow : ∀ i ∈ d.walkTo descriptionDepth path, i.entry.isFile = true → i.names ≠ [] := fun i hmem hfile =>
      file_below (List.mem_filter.1 hmem).1 hfile (Bool.eq_false_iff.2 hpath)
    split at hdescription
    · rename_i i hpom
      obtain ⟨hmem, hfile, hlike⟩ := findFile_met hpom
      exact ⟨i, by rw [matched, hpom]; rfl, hmem, hfile, hbelow i hmem hfile,
        .inl ⟨(Option.some.inj hdescription).symm, hlike⟩⟩
    · rename_i hpom
      split at hdescription
      · rename_i i hscript
        obtain ⟨hmem, hfile, hlike⟩ := findFile_met hscript
        exact ⟨i, by rw [matched, hpom, hscript]; rfl, hmem, hfile, hbelow i hmem hfile,
          .inr ⟨(Option.some.inj hdescription).symm, hlike⟩⟩
      · split at hdescription
        · obtain rfl := Option.some.inj hdescription
          cases hopened
        · cases hdescription

/-! ## What is opened -/

theorem target_directoryOf (d : Disk) (hnames : ∀ name ∈ path.names, IsName name) (i : Item) :
    d.target (directoryOf path i) = d.target path ++ i.names.dropLast := by
  unfold directoryOf
  split
  · rename_i hshort
    have hnone : i.names.dropLast = [] := List.eq_nil_of_length_eq_zero (by rw [List.length_dropLast]; omega)
    rw [hnone, List.append_nil, target_eq, target_eq, FilePath.components_trimmed hnames]
  · exact d.target_descend path _

/-- A name put behind a directory that is handed on leads where it would beside the item. -/
theorem target_beside (d : Disk) (hnames : ∀ name ∈ path.names, IsName name) (i : Item) (name : String) :
    d.target ((directoryOf path i).child name) = d.target path ++ (i.names.dropLast ++ [name]) := by
  rw [← List.append_assoc, ← target_directoryOf d hnames i]
  exact d.target_descend (directoryOf path i) [name]

theorem name_of_concat (path : FilePath) {i : Item} {above : List String} {name : String}
    (h : i.names = above ++ [name]) : i.name path = name := by
  rw [Item.name, h, List.getLast?_concat]
  rfl

theorem exists_concat (path : FilePath) {i : Item} (h : i.names ≠ []) :
    i.names = i.names.dropLast ++ [i.name path] := by
  have hlast : i.names = i.names.dropLast ++ [i.names.getLast h] := (List.dropLast_append_getLast h).symm
  rw [name_of_concat path hlast]
  exact hlast

/-- The item's own name leads to the item. -/
theorem entry_beside (hnames : ∀ name ∈ path.names, IsName name) {i : Item} (hne : i.names ≠ [])
    (hname : i.name path ≠ "") (hfile : d.isFile (i.path path) = true) :
    d.entry ((directoryOf path i).child (i.name path)) = d.entry (i.path path) := by
  have hconcat := exists_concat path hne
  unfold directoryOf
  split
  · rename_i hshort
    have hnone : i.names.dropLast = [] := List.eq_nil_of_length_eq_zero (by rw [List.length_dropLast]; omega)
    rw [hnone, List.nil_append] at hconcat
    have hpath : i.path path = path.child (i.name path) := congrArg path.descend hconcat
    obtain ⟨content, hcontent⟩ := (d.isFile_iff _).1 hfile
    rw [hpath] at hcontent ⊢
    obtain ⟨q, hlocate, -⟩ := entry_ok_iff.1 hcontent
    exact entry_child_trimmed d hnames hname (reach_ok_iff.1 (locate_ok_iff.1 hlocate).1).1
  · have hpath : (path.descend i.names.dropLast).child (i.name path) = i.path path := by
      rw [Item.path, FilePath.descend, FilePath.descend, FilePath.child, List.append_assoc, ← hconcat]
    rw [hpath]

/-- the path leads to the item, a regular file -/
def LeadsTo (d : Disk) (path : FilePath) (i : Item) (file : FilePath) : Prop :=
  d.isFile file = true ∧ d.target file = d.target (i.path path)

/-- A name beside the item leads to the item just when it is the item's own. -/
theorem leadsTo_beside_iff (hnames : ∀ name ∈ path.names, IsName name) {i : Item} (hne : i.names ≠ [])
    (hfile : d.isFile (i.path path) = true) {name : String} (hname : name ≠ "") :
    d.LeadsTo path i ((directoryOf path i).child name) ↔ i.name path = name := by
  constructor
  · rintro ⟨-, htarget⟩
    rw [target_beside d hnames, Item.path, target_descend, List.append_right_inj] at htarget
    exact name_of_concat path htarget.symm
  · rintro rfl
    refine ⟨?_, ?_⟩
    · obtain ⟨content, hcontent⟩ := (d.isFile_iff _).1 hfile
      rw [isFile_iff, entry_beside hnames hne hname hfile]
      exact ⟨content, hcontent⟩
    · rw [target_beside d hnames, Item.path, target_descend, ← exists_concat path hne]

theorem exists?_iff (d : Disk) (p : FilePath) : d.exists? p = true ↔ ∃ e, d.entry p = .ok e := by
  unfold exists?
  cases hentry : d.entry p <;> simp [Except.toBool]

theorem leadsTo_script_iff (hnames : ∀ name ∈ path.names, IsName name) {i : Item} (hne : i.names ≠ [])
    (hfile : d.isFile (i.path path) = true) :
    d.LeadsTo path i (d.scriptIn (directoryOf path i)) ↔
      d.NamedExactly (.gradle (directoryOf path i)) (i.name path) := by
  have hgroovy : d.LeadsTo path i ((directoryOf path i).child "build.gradle") ↔ i.name path = "build.gradle" :=
    leadsTo_beside_iff hnames hne hfile (by decide)
  have hkotlin : d.LeadsTo path i ((directoryOf path i).child "build.gradle.kts") ↔ i.name path = "build.gradle.kts" :=
    leadsTo_beside_iff hnames hne hfile (by decide)
  unfold scriptIn NamedExactly
  cases hexists : d.exists? ((directoryOf path i).child "build.gradle") with
  | true => simp [hgroovy, hexists]
  | false =>
    -- the item itself is not `build.gradle`, for this would be there then
    have hnot : i.name path ≠ "build.gradle" := by
      intro hname
      obtain ⟨content, hcontent⟩ := (d.isFile_iff _).1 (hgroovy.2 hname).1
      rw [(d.exists?_iff _).2 ⟨_, hcontent⟩] at hexists
      cases hexists
    simp [hkotlin, hnot, hexists]

/-! ## Legible descriptions -/

/-- the entry can be read as a text that passes the test; a directory is no description -/
def readsAs (good : String → Bool) : Entry → Bool
  | .directory => true
  | .file content => (decode? content).any good
  | .void => false

/-- the descriptions that a search can meet are readable and well-formed -/
structure Legible (d : Disk) (path : FilePath) : Prop where
  poms : ∀ i ∈ d.walkTo descriptionDepth path, isLike ["pom.xml"] (i.name path) = true →
    readsAs (fun text => (Pom.summarize text).toBool) i.entry = true
  scripts : ∀ i ∈ d.walkTo descriptionDepth path, isLike scriptNames (i.name path) = true →
    readsAs (fun _ => true) i.entry = true
  archive : d.isFile path = true → isArchiveName path = true → (d.packageInArchive path).toBool = true
  manifests : ∀ i ∈ d.walkTo 6 path, i.entry.isFile = true →
    endsWith (replace (joined "/" i.names) "\\" "/") Package.manifestName = true → (d.textOf (i.path path)).toBool = true

instance (d : Disk) (path : FilePath) : Decidable (d.Legible path) :=
  decidable_of_iff
    ((∀ i ∈ d.walkTo descriptionDepth path, isLike ["pom.xml"] (i.name path) = true →
        readsAs (fun text => (Pom.summarize text).toBool) i.entry = true) ∧
      (∀ i ∈ d.walkTo descriptionDepth path, isLike scriptNames (i.name path) = true →
        readsAs (fun _ => true) i.entry = true) ∧
      (d.isFile path = true → isArchiveName path = true → (d.packageInArchive path).toBool = true) ∧
      ∀ i ∈ d.walkTo 6 path, i.entry.isFile = true →
        endsWith (replace (joined "/" i.names) "\\" "/") Package.manifestName = true →
          (d.textOf (i.path path)).toBool = true)
    ⟨fun ⟨poms, scripts, archive, manifests⟩ => ⟨poms, scripts, archive, manifests⟩,
      fun h => ⟨h.poms, h.scripts, h.archive, h.manifests⟩⟩

/-- What stands beside an item that the search met is met too. -/
theorem met_beside (hnames : ∀ name ∈ path.names, IsName name) {i : Item} (hmem : i ∈ d.walkTo descriptionDepth path)
    (hne : i.names ≠ []) {name : String} {e : Entry}
    (hentry : d.entry ((directoryOf path i).child name) = .ok e) :
    (⟨i.names.dropLast ++ [name], e⟩ : Item) ∈ d.walkTo descriptionDepth path := by
  obtain ⟨hwalk, hdepth⟩ := List.mem_filter.1 hmem
  obtain ⟨hstart, place, hplace, -⟩ := (d.mem_walk_iff path i).1 hwalk
  refine List.mem_filter.2 ⟨(d.mem_walk_iff path _).2 ⟨hstart, place, hplace, ?_⟩, ?_⟩
  · obtain ⟨q, hlocate, hat⟩ := entry_ok_iff.1 hentry
    have hq : q = place ++ (i.names.dropLast ++ [name]) := by
      rw [← target_of_locate hlocate, target_beside d hnames, target_of_locate hplace]
    rw [← hq, hat]
  · have hlength : 0 < i.names.length := List.length_pos_iff.2 hne
    have hnear : i.names.length ≤ descriptionDepth := of_decide_eq_true hdepth
    refine decide_eq_true (show (i.names.dropLast ++ [name]).length ≤ descriptionDepth from ?_)
    rw [List.length_append, List.length_dropLast, List.length_singleton]
    omega

theorem textOf_iff (d : Disk) (file : FilePath) {good : String → Bool}
    (h : ∀ e, d.entry file = .ok e → readsAs good e = true) :
    d.isFile file = true ∧ (∃ text, d.textOf file = .ok text ∧ good text = true) ∨
      d.isFile file = false ∧ ∃ fault, d.textOf file = .error fault := by
  cases hentry : d.entry file with
  | error fault =>
    refine .inr ⟨by simp [isFile, hentry], .io fault, ?_⟩
    simp [textOf, readText, readBytes, hentry, bind, Except.bind]
  | ok e =>
    have hreads := h e hentry
    cases e with
    | directory =>
      refine .inr ⟨by simp [isFile, hentry, Entry.isFile], .io .isDirectory, ?_⟩
      simp [textOf, readText, readBytes, hentry, Entry.content?, bind, Except.bind]
    | void => cases hreads
    | file content =>
      cases htext : decode? content with
      | none => simp [readsAs, htext] at hreads
      | some text =>
        refine .inl ⟨by simp [isFile, hentry, Entry.isFile], text, ?_, by simpa [readsAs, htext] using hreads⟩
        simp [textOf, readText, readBytes, hentry, Entry.content?, htext, bind, Except.bind]

theorem summaryOf_package (hlegible : d.Legible path) {place : FilePath}
    (hdescription : d.description path = some (.package place)) :
    ∃ package : Package, d.summaryOf (.package place) = .ok package.summary := by
  have hplace : place = path ∧ (d.isFile path = true → isArchiveName path = true) := by
    unfold Disk.description at hdescription
    split at hdescription
    · split at hdescription
      · rename_i harchive
        exact ⟨(Description.package.inj (Option.some.inj hdescription)).symm, fun _ => harchive⟩
      · cases hdescription
    · rename_i hpath
      split at hdescription
      · cases Option.some.inj hdescription
      · split at hdescription
        · cases Option.some.inj hdescription
        · split at hdescription
          · exact ⟨(Description.package.inj (Option.some.inj hdescription)).symm, fun h => absurd h hpath⟩
          · cases hdescription
  obtain ⟨rfl, harchive⟩ := hplace
  simp only [summaryOf]
  split
  · rename_i hfile
    have hread := hlegible.archive hfile (harchive hfile)
    cases hpackage : d.packageInArchive place with
    | error e => simp [hpackage, Except.toBool] at hread
    | ok package => exact ⟨package, rfl⟩
  · unfold packageInDirectory
    dsimp only
    split
    · rename_i i hmanifest
      have hfound := List.mem_filter.1 (List.mem_of_find?_eq_some hmanifest)
      have htest := List.find?_some hmanifest
      have hread := hlegible.manifests i hfound.1 hfound.2 htest
      cases htext : d.textOf (i.path place) with
      | error e => simp [htext, Except.toBool] at hread
      | ok text => exact ⟨_, rfl⟩
    · exact ⟨_, rfl⟩

/-- A Maven description is read just when a regular file stands in its place. -/
theorem summaryOf_maven (hnames : ∀ name ∈ path.names, IsName name) (hlegible : d.Legible path) {directory : FilePath}
    (hdescription : d.description path = some (.maven directory)) :
    (d.isFile (directory.child "pom.xml") = true ∧
        ∃ s, d.summaryOf (.maven directory) = .ok s ∧ s.kind ≠ .unreadable) ∨
      d.isFile (directory.child "pom.xml") = false ∧ ∃ e, d.summaryOf (.maven directory) = .error e := by
  have hopened : d.opened (.maven directory) = some (directory.child "pom.xml") := rfl
  obtain ⟨i, -, hmem, -, hne, hkind⟩ := exists_matched hdescription hopened
  obtain ⟨heq, -⟩ := hkind.resolve_right fun h => Description.noConfusion h.1
  obtain rfl := Description.maven.inj heq
  have hreads : ∀ e, d.entry ((directoryOf path i).child "pom.xml") = .ok e →
      readsAs (fun text => (Pom.summarize text).toBool) e = true := by
    intro e hentry
    refine hlegible.poms _ (met_beside hnames hmem hne hentry) ?_
    rw [name_of_concat path rfl]
    decide
  rcases d.textOf_iff _ hreads with ⟨hfile, text, htext, hgood⟩ | ⟨hfile, fault, htext⟩
  · cases hsummary : Pom.summarize text with
    | error e => simp [hsummary, Except.toBool] at hgood
    | ok s =>
      refine .inl ⟨hfile, s, by simp [summaryOf, htext, hsummary, Except.bind], ?_⟩
      unfold Pom.summarize at hsummary
      split at hsummary
      · obtain rfl := Except.ok.inj hsummary
        exact (by decide : ProjectKind.maven ≠ .unreadable)
      · cases hsummary
  · exact .inr ⟨hfile, fault, by simp [summaryOf, htext, Except.bind]⟩

/-- and so is a Gradle one -/
theorem summaryOf_gradle (hnames : ∀ name ∈ path.names, IsName name) (hlegible : d.Legible path)
    {directory : FilePath} (hdescription : d.description path = some (.gradle directory)) :
    (d.isFile (d.scriptIn directory) = true ∧
        ∃ s, d.summaryOf (.gradle directory) = .ok s ∧ s.kind ≠ .unreadable) ∨
      d.isFile (d.scriptIn directory) = false ∧ ∃ e, d.summaryOf (.gradle directory) = .error e := by
  have hopened : d.opened (.gradle directory) = some (d.scriptIn directory) := rfl
  obtain ⟨i, -, hmem, -, hne, hkind⟩ := exists_matched hdescription hopened
  obtain ⟨heq, -⟩ := hkind.resolve_left fun h => Description.noConfusion h.1
  obtain rfl := Description.gradle.inj heq
  have hreads : ∀ e, d.entry (d.scriptIn (directoryOf path i)) = .ok e → readsAs (fun _ => true) e = true := by
    intro e hentry
    unfold scriptIn at hentry
    split at hentry
    all_goals
      refine hlegible.scripts _ (met_beside hnames hmem hne hentry) ?_
      rw [name_of_concat path rfl]
      decide
  rcases d.textOf_iff _ hreads with ⟨hfile, text, htext, -⟩ | ⟨hfile, fault, htext⟩
  · refine .inl ⟨hfile, BuildScript.summarize text, by simp [summaryOf, htext, Except.map], ?_⟩
    exact (by decide : ProjectKind.gradle ≠ .unreadable)
  · exact .inr ⟨hfile, fault, by simp [summaryOf, htext, Except.map]⟩

/-- Where descriptions are legible, one cannot be read just when no regular file stands where it is opened. -/
theorem summaryOf_iff (hnames : ∀ name ∈ path.names, IsName name) (hlegible : d.Legible path)
    {description : Description} (hdescription : d.description path = some description) :
    (∃ s, d.summaryOf description = .ok s ∧ s.kind ≠ .unreadable ∧
        ∀ file, d.opened description = some file → d.isFile file = true) ∨
      ∃ e file, d.summaryOf description = .error e ∧ d.opened description = some file ∧ d.isFile file = false := by
  cases description with
  | maven directory =>
    rcases summaryOf_maven hnames hlegible hdescription with ⟨hfile, s, hs, hkind⟩ | ⟨hfile, e, he⟩
    · exact .inl ⟨s, hs, hkind, fun file h => Option.some.inj h ▸ hfile⟩
    · exact .inr ⟨e, _, he, rfl, hfile⟩
  | gradle directory =>
    rcases summaryOf_gradle hnames hlegible hdescription with ⟨hfile, s, hs, hkind⟩ | ⟨hfile, e, he⟩
    · exact .inl ⟨s, hs, hkind, fun file h => Option.some.inj h ▸ hfile⟩
    · exact .inr ⟨e, _, he, rfl, hfile⟩
  | package place =>
    obtain ⟨package, hpackage⟩ := summaryOf_package hlegible hdescription
    refine .inl ⟨package.summary, hpackage, ?_, fun file h => absurd h.symm (Option.some_ne_none file)⟩
    exact (by decide : ProjectKind.jar ≠ .unreadable)

theorem exists_of_description {description : Description} (h : d.description path = some description) :
    d.exists? path = true := by
  have hwalk : ∀ i, i ∈ d.walk path → d.exists? path = true := by
    intro i hi
    obtain ⟨⟨e, place, hplace, hentry⟩, -⟩ := (d.mem_walk_iff path i).1 hi
    rw [List.append_nil] at hentry
    exact (d.exists?_iff path).2 ⟨e, entry_ok_iff.2 ⟨place, hplace, hentry⟩⟩
  unfold Disk.description at h
  split at h
  · rename_i hfile
    obtain ⟨content, hcontent⟩ := (d.isFile_iff path).1 hfile
    exact (d.exists?_iff path).2 ⟨_, hcontent⟩
  · split at h
    · rename_i i hfound
      exact hwalk i (List.mem_filter.1 (findFile_met hfound).1).1
    · split at h
      · rename_i i hfound
        exact hwalk i (List.mem_filter.1 (findFile_met hfound).1).1
      · split at h
        · rename_i hartifacts
          obtain ⟨i, hi, -⟩ := List.any_eq_true.1 hartifacts
          exact hwalk i (List.mem_filter.1 hi).1
        · cases h

theorem kind_stackSummary (d : Disk) (path : FilePath) : (d.stackSummary path).kind =
    if d.exists? path then
      match d.description path with
      | none => .unknown
      | some description => ((d.summaryOf description).toOption.getD (.empty .unreadable)).kind
    else .notFound := by
  unfold stackSummary
  cases d.exists? path with
  | false => rfl
  | true =>
    cases d.description path <;> cases d.isDirectory path <;> rfl

/-- **What is opened is what was found just when the name is exact; and where descriptions are legible, a summary says
that it could not be read just when no regular file stands where the description is opened.** -/
theorem stackSummary_agrees (hnames : ∀ name ∈ path.names, IsName name) :
    (∀ description file, d.description path = some description → d.opened description = some file →
      ∃ i, d.matched path = some i ∧ i ∈ d.walkTo descriptionDepth path ∧ i.entry.isFile = true ∧
        (d.isFile (i.path path) = true →
          (d.LeadsTo path i file ↔ d.NamedExactly description (i.name path)))) ∧
    (d.Legible path →
      ((d.stackSummary path).kind = .unreadable ↔ ∃ description file, d.description path = some description ∧
        d.opened description = some file ∧ d.isFile file = false)) := by
  constructor
  · intro description file hdescription hopened
    obtain ⟨i, hmatched, hmem, hfile, hne, hkind⟩ := exists_matched hdescription hopened
    refine ⟨i, hmatched, hmem, hfile, fun hpath => ?_⟩
    rcases hkind with ⟨rfl, -⟩ | ⟨rfl, -⟩
    · obtain rfl := Option.some.inj hopened
      exact leadsTo_beside_iff hnames hne hpath (by decide)
    · obtain rfl := Option.some.inj hopened
      exact leadsTo_script_iff hnames hne hpath
  · intro hlegible
    rw [kind_stackSummary]
    cases hdescription : d.description path with
    | none => cases d.exists? path <;> simp
    | some description =>
      rw [exists_of_description hdescription, if_pos rfl]
      rcases summaryOf_iff hnames hlegible hdescription with ⟨s, hs, hkind, hfile⟩ | ⟨e, file, he, hopened, hfile⟩
      · simp only [hs, Except.toOption, Option.getD_some, hkind, false_iff]
        rintro ⟨description', file, heq, hopened, hnot⟩
        obtain rfl := Option.some.inj heq
        rw [hfile file hopened] at hnot
        cases hnot
      · simp only [he, Except.toOption, Option.getD_none]
        exact ⟨fun _ => ⟨description, file, rfl, hopened, hfile⟩, fun _ => rfl⟩

/-! ## Two projects -/

/-- a disk with one file in `app` -/
def oneDescription (name content : String) : Disk where
  tree := ⟨Ordered.ofList [(["app"], .directory), (["app", name], .file (encode content))]⟩
  here := []
  home := none
  programs := []
  temp := []
  executable := []

/-- a path with slashes behind it; the description has its usual name -/
theorem stackSummary_exact :
    let d := oneDescription "pom.xml" "<project/>"
    let path := FilePath.ofText "./app//"
    let found : Item := ⟨["pom.xml"], .file (encode "<project/>")⟩
    d.matched path = some found ∧ d.LeadsTo path found ((FilePath.ofText "./app").child "pom.xml") ∧
      (d.stackSummary path).kind ≠ .unreadable := by
  intro d path found
  have hnames : ∀ name ∈ path.names, IsName name := fun _ h => absurd h List.not_mem_nil
  have hdescription : d.description path = some (.maven (.ofText "./app")) := by decide +kernel
  have hmatched : d.matched path = some found := by decide +kernel
  have hlegible : d.Legible path := by decide +kernel
  obtain ⟨hagrees, hreads⟩ : _ ∧ (d.Legible path → _) := stackSummary_agrees hnames
  obtain ⟨i, hi, -, -, hleads⟩ := hagrees _ _ hdescription rfl
  obtain rfl := Option.some.inj (hmatched.symm.trans hi)
  have hthere := (hleads (by decide +kernel)).2 (name_of_concat path (List.nil_append _).symm)
  refine ⟨hmatched, hthere, fun hkind => ?_⟩
  obtain ⟨description, file, heq, hopened, hnot⟩ := (hreads hlegible).1 hkind
  obtain rfl := Option.some.inj (hdescription.symm.trans heq)
  obtain rfl := Option.some.inj hopened
  rw [hthere.1] at hnot
  cases hnot

/-- the description is legible, and is looked for under its usual name -/
theorem stackSummary_upperCase :
    let d := oneDescription "POM.XML" "<project/>"
    let path := FilePath.ofText "app"
    d.Legible path ∧ d.description path = some (.maven path) ∧ d.isFile (path.child "pom.xml") = false ∧
      (d.stackSummary path).kind = .unreadable := by
  decide +kernel

end Disk

end CodeSurvey
