/-
What an analysis does to a disk.

Build commands run in the directory of their module, and what they do to the tree is up to them; but the program itself
stays where it is, so a relative path means the same place before an analysis and after it (`analyze_here`). Only
builds change anything: a project of one module that has nothing to be built with is analyzed without a trace
(`analyze_bare`).
-/
import CodeSurvey.Proofs.Analysis.RunHistory
import CodeSurvey.Proofs.Project.Writing

namespace CodeSurvey

theorem Disk.remove_here {d d' : Disk} {p : FilePath} (h : d.remove p = .ok d') : d'.here = d.here := by
  obtain ⟨_, _, -, -, -, rfl⟩ := remove_ok_iff.1 h
  rfl

theorem BuildCommand.run_here (c : BuildCommand) (directory : FilePath) (limit : Nat) (d : Disk) :
    (c.run directory limit d).2.here = d.here := by
  unfold run
  split <;> rfl

namespace Toolchain

theorem attempt_here {d : Disk} {r : Except IoFault Disk} {next : Disk → Except SurveyError Unit × Disk}
    (h : ∀ d', r = .ok d' → (next d').2.here = d.here) : (attempt d r next).2.here = d.here := by
  cases r with
  | error fault => rfl
  | ok d' => exact h d' rfl

theorem compileSources_here (s : CompileSettings) (javac root : FilePath) (sources : List FilePath) (d : Disk) :
    (compileSources s javac root sources d).2.here = d.here := by
  unfold compileSources
  refine attempt_here fun made hmade => ?_
  obtain ⟨t, -, rfl⟩ := Disk.makeDirectories_ok hmade
  refine attempt_here fun written hwritten => ?_
  obtain ⟨t', -, rfl⟩ := Disk.write_ok hwritten
  -- the argument file is taken away where that is possible
  have hremoved (after : Disk) (file : FilePath) : ((after.remove file).toOption.getD after).here = after.here := by
    cases hremove : after.remove file with
    | error fault => rfl
    | ok gone => exact Disk.remove_here hremove
  exact (hremoved _ _).trans (BuildCommand.run_here _ _ _ _)

/-- a strategy that leaves the program in its directory -/
def Stays (s : Strategy) : Prop := ∀ d root, (s.run d root).2.here = d.here

theorem wrapperStrategy_stays (name : String) (script? : Disk → FilePath → Option FilePath) (limit : Nat)
    (args : List String) : Stays (wrapperStrategy name script? limit args) := by
  intro d root
  simp only [wrapperStrategy]
  split
  · exact BuildCommand.run_here _ _ _ _
  · rfl

theorem toolStrategy_stays (name program : String) (described : Disk → FilePath → Bool) (limit : Nat)
    (args : List String) : Stays (toolStrategy name program described limit args) := by
  intro d root
  simp only [toolStrategy]
  split
  · exact BuildCommand.run_here _ _ _ _
  · rfl

theorem javacStrategy_stays (s : CompileSettings) : Stays (javacStrategy s) := by
  intro d root
  simp only [javacStrategy]
  split
  · rfl
  · split
    · rfl
    · split
      · rfl
      · exact compileSources_here _ _ _ _ _

theorem strategies_stay (c : Config) (home : Option FilePath) : ∀ s ∈ strategies c home, Stays s := by
  intro s hs
  simp only [strategies, List.mem_append, List.mem_singleton, List.mem_ite_nil_right] at hs
  rcases hs with (((⟨-, rfl⟩ | rfl) | ⟨-, rfl⟩) | rfl) | ⟨-, rfl⟩
  · exact wrapperStrategy_stays _ _ _ _
  · exact toolStrategy_stays _ _ _ _ _
  · exact wrapperStrategy_stays _ _ _ _
  · exact toolStrategy_stays _ _ _ _ _
  · exact javacStrategy_stays _

theorem tryAll_here {depth : Nat} {root : FilePath} {ss : List Strategy} (h : ∀ s ∈ ss, Stays s)
    (attempts : List String) (d : Disk) : (Cascade.tryAll depth root attempts ss d).2.here = d.here := by
  induction ss generalizing attempts d with
  | nil => rfl
  | cons s ss ih =>
    have hrest := fun attempts d => ih (fun s hs => h s (List.mem_cons_of_mem _ hs)) attempts d
    have hrun := h s List.mem_cons_self d root
    unfold Cascade.tryAll
    split
    · exact hrest _ _
    · split
      · rename_i heq
        rw [hrest, ← hrun, heq]
      · rename_i heq
        split
        · rw [hrest, ← hrun, heq]
        · rw [← hrun, heq]

theorem compile_here (c : Config) (root : FilePath) (d : Disk) : (compile c root d).2.here = d.here := by
  unfold compile Cascade.compile
  split
  · exact tryAll_here (strategies_stay c d.home) _ _
  · rfl

end Toolchain

theorem analyzeModule_here (c : Config) (m : ModuleRoot) (d : Disk) : (analyzeModule c m d).2.here = d.here := by
  have hcompiled := Toolchain.compile_here c m.path d
  have hgraph : (GraphSide.ofModule c m.path d).2.here = d.here := by
    unfold GraphSide.ofModule
    split <;> (rename_i heq; rw [heq] at hcompiled; exact hcompiled)
  unfold analyzeModule
  split
  · exact hgraph
  · rfl

theorem Workers.finish_here {work : ModuleRoot → Disk → ModuleReport × Disk}
    (hwork : ∀ m d, (work m d).2.here = d.here) (modules : List ModuleRoot) (order : List Nat) (d : Disk) :
    (finish work modules order d).2.here = d.here := by
  induction order generalizing d with
  | nil => rfl
  | cons i order ih =>
    unfold finish
    split
    · exact ih d
    · exact (ih _).trans (hwork _ d)

namespace Surveyor

theorem report_here (c : Config) (root : FilePath) (d : Disk) : (report c root d).2.here = d.here := by
  unfold report
  dsimp only
  split
  · rfl
  · exact Workers.finish_here (analyzeModule_here c) _ _ d

/-- **An analysis leaves the program in its directory.** -/
theorem analyze_here (s : Surveyor) (d : Disk) (root : FilePath) (options : RunOptions) :
    (s.analyze d root options).2.2.here = d.here := by
  unfold analyze
  dsimp only
  split
  · rfl
  · exact report_here _ root d

end Surveyor

/-! ## Projects without a build -/

/-- no wrapper script in the project, and no installed tools -/
structure Disk.Bare (d : Disk) (root : FilePath) : Prop where
  mavenWrapper : d.isFile (root.child "mvnw") = false
  gradleWrapper : d.isFile (root.child "gradlew") = false
  tools : d.programs = []

instance (d : Disk) (root : FilePath) : Decidable (d.Bare root) :=
  decidable_of_iff (d.isFile (root.child "mvnw") = false ∧ d.isFile (root.child "gradlew") = false ∧ d.programs = [])
    ⟨fun h => ⟨h.1, h.2.1, h.2.2⟩, fun h => ⟨h.mavenWrapper, h.gradleWrapper, h.tools⟩⟩

namespace Toolchain

theorem applies_of_bare {d : Disk} {root : FilePath} (h : d.Bare root) (c : Config) (home : Option FilePath) :
    ∀ s ∈ strategies c home, s.applies d root = false := by
  have htool (name : String) : tool? d name = none := by simp [tool?, Shell.findProgram, h.tools]
  have hwrapper (name : String) (hfile : d.isFile (root.child name) = false) : wrapper? d root name = none := by
    rw [wrapper?, hfile]
    rfl
  have hmaven : mavenWrapper? d root = none := hwrapper _ h.mavenWrapper
  have hgradle : gradleWrapper? d root = none := hwrapper _ h.gradleWrapper
  intro s hs
  simp only [strategies, List.mem_append, List.mem_singleton, List.mem_ite_nil_right] at hs
  rcases hs with (((⟨-, rfl⟩ | rfl) | ⟨-, rfl⟩) | rfl) | ⟨-, rfl⟩
  · simp [wrapperStrategy, hmaven]
  · simp [toolStrategy, htool]
  · simp [wrapperStrategy, hgradle]
  · simp [toolStrategy, htool]
  · simp [javacStrategy, htool]

theorem compile_of_bare {d : Disk} {root : FilePath} (h : d.Bare root) (c : Config) : (compile c root d).2 = d := by
  have hidle : ∀ (depth : Nat) (attempts : List String) (ss : List Strategy), (∀ s ∈ ss, s.applies d root = false) →
      (Cascade.tryAll depth root attempts ss d).2 = d := by
    intro depth attempts ss hss
    induction ss with
    | nil => rfl
    | cons s ss ih =>
      obtain ⟨hfirst, hrest⟩ := List.forall_mem_cons.1 hss
      rw [Cascade.tryAll, hfirst, Bool.not_false, if_pos rfl]
      exact ih hrest
  unfold compile Cascade.compile
  split
  · exact hidle _ _ _ (applies_of_bare h c d.home)
  · rfl

end Toolchain

/-- **A project of one module that has nothing to be built with is analyzed without a trace on the disk.** -/
theorem Surveyor.analyze_bare (s : Surveyor) {d : Disk} {root : FilePath} {options : RunOptions}
    (hsingle : options.singleModule = true) (h : d.Bare root) : (s.analyze d root options).2.2 = d := by
  rw [analyze_eq]
  cases hconfig : s.effective d root options with
  | error e => rfl
  | ok c =>
    have hdetect := effective_singleModule hsingle hconfig
    show (report c root d).2 = d
    unfold report
    rw [hdetect]
    cases hmodules : d.modules false root with
    | error e => rfl
    | ok modules =>
      have hroot : modules = [⟨moduleName root, root⟩] := by
        unfold Disk.modules at hmodules
        split at hmodules
        · cases hmodules
        · simpa [eq_comm] using hmodules
      have hmodule (m : ModuleRoot) (hm : m.path = root) : (analyzeModule c m d).2 = d := by
        have hcompiled : (Toolchain.compile c m.path d).2 = d := Toolchain.compile_of_bare (hm ▸ h) c
        have hgraph : (GraphSide.ofModule c m.path d).2 = d := by
          unfold GraphSide.ofModule
          split <;> (rename_i heq; rw [heq] at hcompiled; exact hcompiled)
        unfold analyzeModule
        split
        · exact hgraph
        · rfl
      rw [hroot]
      exact hmodule _ rfl

end CodeSurvey
