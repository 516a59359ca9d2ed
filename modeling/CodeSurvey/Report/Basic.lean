/-
Reports of an analysis.

A report holds the technology stack of a project and what was found in each module: the graph of its compiled classes
and the sequences of its entry points. The two are found on their own, so a module can have one of them and not the
other; `problems` says what went wrong.
-/
import CodeSurvey.Classes.ClassGraph
import CodeSurvey.Modules
import CodeSurvey.Stack.Summary
import CodeSurvey.Trace.Sequence

namespace CodeSurvey

/-- how far the analysis of a module came -/
inductive ModuleStatus where
  /-- graph and sequences were found -/
  | complete
  /-- one of them is missing -/
  | incomplete
  | failed
  deriving DecidableEq, Repr

/-- the name of the status in reports -/
def ModuleStatus.name : ModuleStatus → String
  | .complete => "Success"
  | .incomplete => "Partial"
  | .failed => "Failed"

/-- the sequences of each entry point -/
abbrev Sequences := Ordered String (List CallSequence)

/-- what was found in one module -/
structure ModuleReport where
  name : String
  root : FilePath
  status : ModuleStatus
  classGraph : Option ClassGraph
  /-- the strategy that compiled the classes -/
  compiledWith : Option String
  /-- why there is no graph, or an empty one -/
  graphProblem : Option String
  roles : RoleCounts
  sequences : Sequences
  problems : List String

namespace ModuleReport

/-- the report of a module that could not be analyzed at all -/
def failed (m : ModuleRoot) (problem : String) : ModuleReport where
  name := m.name
  root := m.path
  status := .failed
  classGraph := none
  compiledWith := none
  graphProblem := none
  roles := .zero
  sequences := Ordered.empty
  problems := [problem]

/-- how many classes the graph has -/
def classCount (m : ModuleReport) : Nat := (m.classGraph.map (·.classes.length)).getD 0

/-- how many operations were traced -/
def operationCount (m : ModuleReport) : Nat := m.sequences.entries.foldl (fun n e => n + e.2.length) 0

end ModuleReport

/-- what was found in a project -/
structure Report where
  root : FilePath
  stack : StackSummary
  modules : List ModuleReport

/-- the first module of the name -/
def Report.module? (r : Report) (name : String) : Option ModuleReport := r.modules.find? (·.name == name)

end CodeSurvey
