/-
Analysis of modules.

A module is analyzed on two sides: it is compiled and its classes make a graph, and its sources are traced as they
were before. What goes wrong on one side leaves the other as it is. Each module has a worker, and workers finish in
any order; `collect` puts their reports back into the order of the modules, with a failed report for a worker that was
lost.
-/
import CodeSurvey.Compile.Toolchain
import CodeSurvey.Report.Basic
import CodeSurvey.Trace.Tracer

namespace CodeSurvey

/-! ## The two sides of a module -/

/-- what compiling a module gave -/
structure GraphSide where
  graph : Option ClassGraph
  compiledWith : Option String
  problem : Option String

/-- what tracing a module gave -/
structure TraceSide where
  roles : RoleCounts
  sequences : Sequences
  problem : Option String

namespace GraphSide

/-- the graph of the compiled classes; an empty one where they cannot be decoded -/
def ofOutput (c : Config) (d : Disk) (output : CompiledOutput) : GraphSide :=
  match ClassGraph.extract d c.structures output.classDirectories with
  | .ok graph => ⟨some graph, some output.strategy, none⟩
  | .error e => ⟨some .empty, some output.strategy, some e.message⟩

/-- compiles the module and reads its classes -/
def ofModule (c : Config) (root : FilePath) (d : Disk) : GraphSide × Disk :=
  match Toolchain.compile c root d with
  | (.ok output, d) => (ofOutput c d output, d)
  | (.error e, d) => (⟨none, none, some e.message⟩, d)

end GraphSide

namespace TraceSide

/-- nothing traced -/
def empty (problem : Option String) : TraceSide := ⟨.zero, Ordered.empty, problem⟩

/-- the roles and sequences of the sources below the module's source directory -/
def traced (c : Config) (root : FilePath) (d : Disk) : Except SurveyError TraceSide :=
  match d.sourceDirectory root with
  | none => .error (.resourceNotFound (root.child "src"))
  | some directory => do
    let roles := d.classifyModule directory
    let ignored ← IgnoreList.read c.sequence.ignorePatterns
    .ok ⟨roles.counts, (Tracer.mk (d.sources directory) directory ignored).traceModule roles, none⟩

/-- traces the module where the configuration asks for it -/
def ofModule (c : Config) (root : FilePath) (d : Disk) : TraceSide :=
  if c.sequence.enabled then
    match traced c root d with
    | .ok side => side
    | .error e => empty (some e.message)
  else empty none

end TraceSide

/-! ## One module -/

/-- how far two sides came -/
def ModuleStatus.ofProblems : Option String → Option String → ModuleStatus
  | none, none => .complete
  | some _, some _ => .failed
  | _, _ => .incomplete

/-- the report that two sides make -/
def ModuleReport.ofSides (m : ModuleRoot) (g : GraphSide) (t : TraceSide) : ModuleReport where
  name := m.name
  root := m.path
  status := .ofProblems g.problem t.problem
  classGraph := g.graph
  compiledWith := g.compiledWith
  graphProblem := g.problem
  roles := t.roles
  sequences := t.sequences
  problems := g.problem.toList ++ t.problem.toList

/-- the report of a module, and the disk after its compilation -/
def analyzeModule (c : Config) (m : ModuleRoot) (d : Disk) : ModuleReport × Disk :=
  if d.isDirectory m.path then
    let (graph, after) := GraphSide.ofModule c m.path d
    (.ofSides m graph (TraceSide.ofModule c m.path d), after)
  else (.failed m (SurveyError.resourceNotFound m.path).message, d)

/-! ## All modules -/

namespace Workers

/-- what is said of a worker that was lost -/
def lost : String := "module worker terminated abnormally"

/-- a report for each module, in their order, from those that finished with their numbers -/
def collect (modules : List ModuleRoot) (finished : List (Nat × ModuleReport)) : List ModuleReport :=
  let slots := finished.foldl (fun slots f => slots.set f.1 (some f.2)) (List.replicate modules.length none)
  (slots.zip modules).map fun (slot, m) => slot.getD (.failed m lost)

/-- what the workers with the given numbers find, one after the other, and the disk after them -/
def finish (work : ModuleRoot → Disk → ModuleReport × Disk) (modules : List ModuleRoot) :
    List Nat → Disk → List (Nat × ModuleReport) × Disk
  | [], d => ([], d)
  | i :: order, d =>
    match modules[i]? with
    | none => finish work modules order d
    | some m =>
      let (report, d) := work m d
      let (more, d) := finish work modules order d
      ((i, report) :: more, d)

/-- the reports of the modules when their workers finish in the order, and the disk after them -/
def run (work : ModuleRoot → Disk → ModuleReport × Disk) (modules : List ModuleRoot) (order : List Nat) (d : Disk) :
    List ModuleReport × Disk :=
  let (finished, d) := finish work modules order d
  (collect modules finished, d)

end Workers

/-- the reports of all modules -/
def analyzeModules (c : Config) (modules : List ModuleRoot) (d : Disk) : List ModuleReport × Disk :=
  Workers.run (analyzeModule c) modules (List.range modules.length) d

end CodeSurvey
