/-
What a document of settings gives.

`Given` are settings as a document may give them, each of them or not, and `Given.config` is the configuration that has
these and every other setting by default. `Given.In` says that a table gives exactly these: each setting at most once,
under its name or another name that it has, in the sections under their names; all else in the table is free. The names
are written out here, so that they can be compared with what users are told.

`ofTable_given`: such a table is read as this configuration, unless it has a section under both of its names; one that
has is refused (`ofTable_of_both`).
-/
import Mathlib.Data.List.Forall2
import CodeSurvey.Config
import CodeSurvey.Proofs.Toml.Documents

namespace CodeSurvey

open Toml (Value)

/-- settings, each given or not; paths as they are written -/
structure Given where
  outputDir : Option String := none
  autoTune : Option Bool := none
  maxClasses : Option Nat := none
  packageCap : Option Nat := none
  scanDepth : Option Nat := none
  compileTimeoutMinutes : Option UInt64 := none
  detectMultiModule : Option Bool := none
  maxWorkers : Option Nat := none
  useMavenWrapper : Option Bool := none
  useGradleWrapper : Option Bool := none
  fallbackToJavac : Option Bool := none
  cleanBeforeCompile : Option Bool := none
  skipTests : Option Bool := none
  dependencyCacheDirs : Option (List String) := none
  maxClasspathJars : Option Nat := none
  enabled : Option Bool := none
  ignorePatterns : Option (List String) := none

namespace Given

/-- the configuration with the given settings, and the default for every other one -/
def config (g : Given) : Config :=
  let d := Config.default
  { general :=
      { outputDir := (g.outputDir.map .ofText).getD d.general.outputDir
        autoTune := g.autoTune.getD d.general.autoTune }
    structures :=
      { maxClasses := g.maxClasses.getD d.structures.maxClasses
        packageCap := g.packageCap.getD d.structures.packageCap
        scanDepth := g.scanDepth.getD d.structures.scanDepth }
    execution :=
      { compileTimeoutMinutes := g.compileTimeoutMinutes.getD d.execution.compileTimeoutMinutes
        detectMultiModule := g.detectMultiModule.getD d.execution.detectMultiModule
        maxWorkers := g.maxWorkers.getD d.execution.maxWorkers
        useMavenWrapper := g.useMavenWrapper.getD d.execution.useMavenWrapper
        useGradleWrapper := g.useGradleWrapper.getD d.execution.useGradleWrapper
        fallbackToJavac := g.fallbackToJavac.getD d.execution.fallbackToJavac
        cleanBeforeCompile := g.cleanBeforeCompile.getD d.execution.cleanBeforeCompile
        skipTests := g.skipTests.getD d.execution.skipTests
        dependencyCacheDirs :=
          (g.dependencyCacheDirs.map (·.map .ofText)).getD d.execution.dependencyCacheDirs
        maxClasspathJars := g.maxClasspathJars.getD d.execution.maxClasspathJars }
    sequence :=
      { enabled := g.enabled.getD d.sequence.enabled
        ignorePatterns := g.ignorePatterns.getD d.sequence.ignorePatterns } }

end Given

/-! ## Tables that give settings -/

/-- what the entries have under the names is the value, once, or nothing if there is none -/
def Sets (entries : List (String × Value)) (names : List String) (v : Option Value) : Prop :=
  (entries.filter fun e => names.contains e.1).map Prod.snd = v.toList

/-- a list of texts as a document has it -/
def textList (ss : List String) : Value := .array (ss.map .text)

namespace Given

structure InGeneral (g : Given) (entries : List (String × Value)) : Prop where
  outputDir : Sets entries ["output_dir"] (g.outputDir.map .text)
  autoTune : Sets entries ["auto_tune"] (g.autoTune.map .boolean)

structure InStructure (g : Given) (entries : List (String × Value)) : Prop where
  maxClasses : Sets entries ["max_classes", "max_class_count", "limit_classes"] (g.maxClasses.map Config.count)
  packageCap : Sets entries ["package_cap", "max_packages"] (g.packageCap.map Config.count)
  scanDepth : Sets entries ["scan_depth", "max_scan_depth"] (g.scanDepth.map Config.count)

structure InExecution (g : Given) (entries : List (String × Value)) : Prop where
  compileTimeoutMinutes : Sets entries ["compile_timeout_minutes", "compile_timeout", "timeout_minutes"]
    (g.compileTimeoutMinutes.map fun n => Config.count n.toNat)
  detectMultiModule : Sets entries ["detect_multi_module"] (g.detectMultiModule.map .boolean)
  maxWorkers : Sets entries ["max_workers"] (g.maxWorkers.map Config.count)
  useMavenWrapper : Sets entries ["use_maven_wrapper"] (g.useMavenWrapper.map .boolean)
  useGradleWrapper : Sets entries ["use_gradle_wrapper"] (g.useGradleWrapper.map .boolean)
  fallbackToJavac : Sets entries ["fallback_to_javac", "fallback_to_java_compiler"] (g.fallbackToJavac.map .boolean)
  cleanBeforeCompile : Sets entries ["clean_before_compile"] (g.cleanBeforeCompile.map .boolean)
  skipTests : Sets entries ["skip_tests"] (g.skipTests.map .boolean)
  dependencyCacheDirs : Sets entries ["dependency_cache_dirs"] (g.dependencyCacheDirs.map textList)
  maxClasspathJars : Sets entries ["max_classpath_jars"] (g.maxClasspathJars.map Config.count)

structure InSequence (g : Given) (entries : List (String × Value)) : Prop where
  enabled : Sets entries ["enabled"] (g.enabled.map .boolean)
  ignorePatterns : Sets entries ["ignore_patterns", "ignored_patterns", "ignore_list"] (g.ignorePatterns.map textList)

end Given

/-- the entries of all sections under the names -/
def sectionEntries (entries : List (String × Value)) (names : List String) : List (String × Value) :=
  (entries.filter fun e => names.contains e.1).flatMap fun e =>
    match e.2 with
    | .table part => part
    | _ => []

/-- the table gives exactly the settings, and what it has under other names is free -/
structure Given.In (g : Given) (entries : List (String × Value)) : Prop where
  tables : ∀ e ∈ entries, e.1 ∈ ["general", "structure", "uml", "execution", "sequence"] → ∃ part, e.2 = .table part
  general : g.InGeneral (sectionEntries entries ["general"])
  structures : g.InStructure (sectionEntries entries ["structure", "uml"])
  execution : g.InExecution (sectionEntries entries ["execution"])
  sequence : g.InSequence (sectionEntries entries ["sequence"])

/-! ## Reading -/

namespace Config

theorem valueOf_of_sets {entries : List (String × Value)} {names : List String} {v : Option Value}
    (h : Sets entries names v) : valueOf? entries names = some v := by
  unfold Sets at h
  unfold valueOf?
  split
  · rename_i hnone
    rw [hnone] at h
    cases v with
    | none => rfl
    | some v => exact absurd h (by simp)
  · rename_i e hone
    rw [hone] at h
    cases v with
    | none => exact absurd h (by simp)
    | some v => exact congrArg (fun v => some (some v)) (List.cons.inj h).1
  · rename_i hnone hone
    cases v with
    | none => exact absurd (List.map_eq_nil_iff.1 h) hnone
    | some v =>
      obtain ⟨e, he, -⟩ := List.map_eq_singleton_iff.1 h
      exact absurd he (hone e)

/-- the values of settings that are set -/
theorem settings_of_sets {entries : List (String × Value)} (names : List (List String)) {vs : List (Option Value)}
    (h : List.Forall₂ (Sets entries) names vs) : settings? names (.table entries) = some vs := by
  show names.mapM (valueOf? entries) = some vs
  induction h with
  | nil => rfl
  | cons hset hsets ih =>
    rw [List.mapM_cons, valueOf_of_sets hset, ih]
    rfl

theorem readCount_count (n : Nat) : readCount (count n) = some n := by
  rw [count, readCount, if_pos (Int.natCast_nonneg n), Int.toNat_natCast]

theorem readList_texts {α : Type} (read : Value → Option α) (f : String → α) (h : ∀ s, read (.text s) = some (f s))
    (ss : List String) : readList read (textList ss) = some (ss.map f) := by
  show (ss.map Value.text).mapM read = some (ss.map f)
  induction ss with
  | nil => rfl
  | cons s ss ih =>
    rw [List.map_cons, List.mapM_cons, h, ih]
    rfl

/-! A given value is taken as it is, and the default where none is given. -/

theorem take_given {α β : Type} (read : Value → Option α) {write : β → Value} (f : β → α)
    (h : ∀ b, read (write b) = some (f b)) (standard : α) (given : Option β) :
    take read standard (given.map write) = some ((given.map f).getD standard) := by
  cases given with
  | none => rfl
  | some b => exact h b

theorem take_bool (standard : Bool) (given : Option Bool) :
    take readBool standard (given.map .boolean) = some (given.getD standard) := by
  simpa using take_given readBool id (fun _ => rfl) standard given

theorem take_count (standard : Nat) (given : Option Nat) :
    take readCount standard (given.map count) = some (given.getD standard) := by
  simpa using take_given readCount id readCount_count standard given

theorem take_minutes (standard : UInt64) (given : Option UInt64) :
    take (fun v => (readCount v).map UInt64.ofNat) standard (given.map fun n => count n.toNat) =
      some (given.getD standard) := by
  have hread (n : UInt64) : (readCount (count n.toNat)).map UInt64.ofNat = some n := by
    rw [readCount_count, Option.map_some, UInt64.ofNat_toNat]
  simpa using take_given (fun v => (readCount v).map UInt64.ofNat) id hread standard given

theorem take_path (standard : FilePath) (given : Option String) :
    take readPath standard (given.map .text) = some ((given.map .ofText).getD standard) :=
  take_given readPath .ofText (fun _ => rfl) standard given

theorem take_paths (standard : List FilePath) (given : Option (List String)) :
    take (readList readPath) standard (given.map textList) = some ((given.map (·.map .ofText)).getD standard) :=
  take_given (readList readPath) (·.map .ofText) (readList_texts readPath .ofText fun _ => rfl) standard given

theorem take_texts (standard : List String) (given : Option (List String)) :
    take (readList readText) standard (given.map textList) = some (given.getD standard) := by
  have hlist (ss : List String) : readList readText (textList ss) = some ss := by
    simpa using readList_texts readText id (fun _ => rfl) ss
  simpa using take_given (readList readText) id hlist standard given

/-! The sections. -/

variable {g : Given} {entries : List (String × Value)}

theorem readGeneral_given (h : g.InGeneral entries) : readGeneral (.table entries) = some g.config.general := by
  have hsettings := settings_of_sets generalNames (.cons h.outputDir (.cons h.autoTune .nil))
  rw [readGeneral, hsettings]
  simp [take_path, take_bool, Given.config]

theorem readStructure_given (h : g.InStructure entries) :
    readStructure (.table entries) = some g.config.structures := by
  have hsettings := settings_of_sets structureNames
    (.cons h.maxClasses (.cons h.packageCap (.cons h.scanDepth .nil)))
  rw [readStructure, hsettings]
  simp [take_count, Given.config]

theorem readExecution_given (h : g.InExecution entries) : readExecution (.table entries) = some g.config.execution := by
  have hsettings := settings_of_sets executionNames
    (.cons h.compileTimeoutMinutes (.cons h.detectMultiModule (.cons h.maxWorkers (.cons h.useMavenWrapper
      (.cons h.useGradleWrapper (.cons h.fallbackToJavac (.cons h.cleanBeforeCompile (.cons h.skipTests
        (.cons h.dependencyCacheDirs (.cons h.maxClasspathJars .nil))))))))))
  rw [readExecution, hsettings]
  simp [take_minutes, take_bool, take_count, take_paths, Given.config]

theorem readSequence_given (h : g.InSequence entries) : readSequence (.table entries) = some g.config.sequence := by
  have hsettings := settings_of_sets sequenceNames (.cons h.enabled (.cons h.ignorePatterns .nil))
  rw [readSequence, hsettings]
  simp [take_bool, take_texts, Given.config]

/-- a section that stands at most once is read as the settings that it gives -/
theorem take_section {α : Type} {read : Value → Option α} {standard result : α} {names : List String}
    {gives : List (String × Value) → Prop} (hread : ∀ {part}, gives part → read (.table part) = some result)
    (hnone : read (.table []) = some standard) (hkeys : Toml.Distinct entries)
    (hone : ∀ a ∈ names, ∀ b ∈ names, a ∈ entries.map Prod.fst → b ∈ entries.map Prod.fst → a = b)
    (htables : ∀ e ∈ entries, e.1 ∈ names → ∃ part, e.2 = .table part) (hgives : gives (sectionEntries entries names)) :
    ∃ v, Sets entries names v ∧ take read standard v = some result := by
  have hmem : ∀ e ∈ entries.filter fun e => names.contains e.1, e ∈ entries ∧ e.1 ∈ names := fun e he => by
    simpa using he
  have hdistinct : ((entries.filter fun e => names.contains e.1).map Prod.fst).Nodup :=
    List.Nodup.sublist (List.filter_sublist.map Prod.fst) hkeys
  unfold sectionEntries at hgives
  unfold Sets
  match hfilter : entries.filter fun e => names.contains e.1 with
  | [] =>
    rw [hfilter] at hgives
    exact ⟨none, by rw [hfilter]; rfl, hnone.symm.trans (hread hgives)⟩
  | [e] =>
    obtain ⟨hentry, hname⟩ := hmem e (hfilter ▸ List.mem_cons_self)
    obtain ⟨part, hpart⟩ := htables e hentry hname
    rw [hfilter] at hgives
    simp only [List.flatMap_cons, List.flatMap_nil, List.append_nil, hpart] at hgives
    exact ⟨some (.table part), by rw [hfilter, List.map_singleton, hpart]; rfl, hread hgives⟩
  | e :: e' :: more =>
    obtain ⟨hentry, hname⟩ := hmem e (hfilter ▸ List.mem_cons_self)
    obtain ⟨hentry', hname'⟩ := hmem e' (hfilter ▸ List.mem_cons_of_mem e List.mem_cons_self)
    have hsame := hone _ hname _ hname' (List.mem_map_of_mem hentry) (List.mem_map_of_mem hentry')
    rw [hfilter, List.map_cons, List.map_cons, hsame] at hdistinct
    exact absurd List.mem_cons_self (List.nodup_cons.1 hdistinct).1

/-- **A table is read as the configuration with the settings that it gives**, and the default for every other one. -/
theorem ofTable_given (h : g.In entries) (hkeys : Toml.Distinct entries)
    (hone : ¬ ("structure" ∈ entries.map Prod.fst ∧ "uml" ∈ entries.map Prod.fst)) :
    ofTable entries = some g.config := by
  have halone : ∀ name : String, ∀ a ∈ [name], ∀ b ∈ [name], a ∈ entries.map Prod.fst → b ∈ entries.map Prod.fst →
      a = b := by
    intro name a ha b hb _ _
    rw [List.mem_singleton.1 ha, List.mem_singleton.1 hb]
  have hpair : ∀ a ∈ ["structure", "uml"], ∀ b ∈ ["structure", "uml"], a ∈ entries.map Prod.fst →
      b ∈ entries.map Prod.fst → a = b := by
    intro a ha b hb hina hinb
    simp only [List.mem_cons, List.not_mem_nil, or_false] at ha hb
    rcases ha with rfl | rfl <;> rcases hb with rfl | rfl
    · rfl
    · exact absurd ⟨hina, hinb⟩ hone
    · exact absurd ⟨hinb, hina⟩ hone
    · rfl
  have htables : ∀ names, names ⊆ ["general", "structure", "uml", "execution", "sequence"] →
      ∀ e ∈ entries, e.1 ∈ names → ∃ part, e.2 = .table part :=
    fun names hnames e he hname => h.tables e he (hnames hname)
  obtain ⟨general, hgeneral, htakeGeneral⟩ :=
    take_section readGeneral_given rfl hkeys (halone _) (htables _ (by simp)) h.general
  obtain ⟨structures, hstructures, htakeStructures⟩ :=
    take_section readStructure_given rfl hkeys hpair (htables _ (by simp)) h.structures
  obtain ⟨execution, hexecution, htakeExecution⟩ :=
    take_section readExecution_given rfl hkeys (halone _) (htables _ (by simp)) h.execution
  obtain ⟨sequence, hsequence, htakeSequence⟩ :=
    take_section readSequence_given rfl hkeys (halone _) (htables _ (by simp)) h.sequence
  have hsettings := settings_of_sets sectionNames
    (.cons hgeneral (.cons hstructures (.cons hexecution (.cons hsequence .nil))))
  rw [ofTable, hsettings]
  simp [htakeGeneral, htakeStructures, htakeExecution, htakeSequence]

/-- **A table with a section under both of its names is refused.** -/
theorem ofTable_of_both (h : "structure" ∈ entries.map Prod.fst) (h' : "uml" ∈ entries.map Prod.fst) :
    ofTable entries = none := by
  obtain ⟨e, he, hname⟩ := List.mem_map.1 h
  obtain ⟨e', he', hname'⟩ := List.mem_map.1 h'
  have hmem : e ∈ entries.filter (fun e => ["structure", "uml"].contains e.1) ∧
      e' ∈ entries.filter (fun e => ["structure", "uml"].contains e.1) := by
    simp [he, he', hname, hname']
  have hvalue : valueOf? entries ["structure", "uml"] = none := by
    unfold valueOf?
    split
    · rename_i hnone
      exact absurd (hnone ▸ hmem.1) List.not_mem_nil
    · rename_i only hone
      rw [hone, List.mem_singleton, List.mem_singleton] at hmem
      obtain ⟨rfl, rfl⟩ := hmem
      exact absurd (hname.symm.trans hname') (by decide)
    · rfl
  have hsettings : settings? sectionNames (.table entries) = none := by
    show sectionNames.mapM (valueOf? entries) = none
    rw [sectionNames, List.mapM_cons, List.mapM_cons, hvalue]
    cases valueOf? entries ["general"] <;> rfl
  rw [ofTable, hsettings]
  rfl

end Config

end CodeSurvey
