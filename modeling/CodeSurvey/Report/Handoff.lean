/-
Writing a report into a directory.

The directory gets the whole report, the technology stack, and a directory for each module. A failed module has only
its problems there; any other module has its sequences and its graph, or the problems in place of the graph. The
documents are written in a fixed order, and the first one that cannot be written ends the handoff with the earlier
ones in place.
-/
import CodeSurvey.Report.Document

namespace CodeSurvey

/-- one step of a handoff -/
inductive HandoffStep where
  | directory (p : FilePath)
  | document (p : FilePath) (value : JsonValue)

namespace HandoffStep

/-- the disk after the step -/
def apply (d : Disk) : HandoffStep → Except RunError Disk
  | .directory p =>
    match d.makeDirectories p with
    | .ok d => .ok d
    | .error fault => .error (.directoryNotCreated p fault)
  | .document p value =>
    match d.write p (Text.encode value.pretty) with
    | .ok d => .ok d
    | .error fault => .error (.fileNotWritten p (.io fault))

/-- the disk after the steps, up to the first one that fails -/
def applyAll (d : Disk) : List HandoffStep → Except RunError Unit × Disk
  | [] => (.ok (), d)
  | s :: rest =>
    match s.apply d with
    | .ok d => applyAll d rest
    | .error e => (.error e, d)

end HandoffStep

namespace ModuleReport

/-- the documents of a module, by their names in its directory -/
def handedOver (m : ModuleReport) : List (String × JsonValue) :=
  if m.status = .failed then [("error.json", m.problemDocument)]
  else
    match m.classGraph, m.graphProblem with
    | some graph, none => [("class-graph.json", graph.document), ("sequences.json", Sequences.document m.sequences)]
    | _, _ => [("class-graph.error.json", m.problemDocument), ("sequences.json", Sequences.document m.sequences)]

/-- the steps that write a module below the directory -/
def handoff (m : ModuleReport) (output : FilePath) : List HandoffStep :=
  let directory := output.join m.name
  .directory directory :: m.handedOver.map fun (name, value) => .document (directory.child name) value

end ModuleReport

namespace Report

/-- the steps that write a report into the directory -/
def handoff (r : Report) (output : FilePath) : List HandoffStep :=
  [.directory output, .document (output.child "report.json") r.document,
      .document (output.child "tech-stack.json") r.stack.document]
    ++ r.modules.flatMap fun m => m.handoff output

/-- writes the report into the directory -/
def writeTo (r : Report) (output : FilePath) (d : Disk) : Except RunError Unit × Disk :=
  HandoffStep.applyAll d (r.handoff output)

end Report

end CodeSurvey
