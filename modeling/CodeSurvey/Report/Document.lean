/-
Reports as JSON documents.

Each part of a report is an object whose fields have fixed names and a fixed order. Sets are lists in name order, tables
are objects in key order, and what is missing is null.
-/
import CodeSurvey.JsonValue
import CodeSurvey.Report.Basic

namespace CodeSurvey

open JsonValue

/-- the name of the role in reports -/
def Role.name : Role → String
  | .entryPoint => "EntryPoint"
  | .component => "Component"
  | .dataAccess => "DataAccess"
  | .unclassified => "Unclassified"

/-- the name of the end in reports -/
def Terminal.name : Terminal → String
  | .dataAccess => "DataAccess"
  | .deadEnd => "DeadEnd"

def RoleCounts.document (n : RoleCounts) : JsonValue :=
  .object [("entry_points", .count n.entryPoints), ("components", .count n.components),
    ("data_access", .count n.dataAccess), ("unclassified", .count n.unclassified)]

def Operation.document (o : Operation) : JsonValue :=
  .object [("name", .text o.name), ("request_type", ofOption .text o.requestType),
    ("request_fields", texts o.requestFields), ("response_type", ofOption .text o.responseType),
    ("response_status", ofOption .text o.responseStatus)]

def Edge.document (e : Edge) : JsonValue :=
  .object [("caller", .text e.caller), ("callee", .text e.callee), ("method", .text e.method), ("label", .text e.label),
    ("callee_role", .text e.calleeRole.name)]

def CallSequence.document (s : CallSequence) : JsonValue :=
  .object [("operation", s.operation.document), ("edges", .list (s.edges.map Edge.document)),
    ("terminal", .text s.terminal.name)]

def Sequences.document (s : Sequences) : JsonValue :=
  .object (s.entries.map fun (name, sequences) => (name, .list (sequences.map CallSequence.document)))

def ClassNode.document (n : ClassNode) : JsonValue :=
  .object [("name", .text n.name), ("superclass", ofOption .text n.superclass),
    ("interfaces", texts n.interfaces.toList)]

def ClassGraph.document (g : ClassGraph) : JsonValue :=
  .object [("classes", .list (g.classes.map ClassNode.document)), ("packages", texts g.packages.toList),
    ("truncated", .bool g.truncated)]

def StackSummary.document (s : StackSummary) : JsonValue :=
  .object [("project_type", .text s.kind.name), ("language_version", ofOption .text s.languageVersion),
    ("framework_version", ofOption .text s.frameworkVersion), ("runtime_version", ofOption .text s.runtimeVersion),
    ("architecture", ofOption .text s.architecture),
    ("dependencies", .object (s.dependencies.entries.map fun (name, version) => (name, .text version)))]

def ModuleReport.document (m : ModuleReport) : JsonValue :=
  .object [("name", .text m.name), ("root", .text m.root.text), ("status", .text m.status.name),
    ("class_graph", ofOption ClassGraph.document m.classGraph), ("compiled_with", ofOption .text m.compiledWith),
    ("structure_error", ofOption .text m.graphProblem), ("roles", m.roles.document),
    ("sequences", Sequences.document m.sequences), ("problems", texts m.problems)]

/-- what is told in place of a result that is missing -/
def ModuleReport.problemDocument (m : ModuleReport) : JsonValue :=
  .object [("module", .text m.name), ("status", .text m.status.name), ("problems", texts m.problems)]

def Report.document (r : Report) : JsonValue :=
  .object [("root", .text r.root.text), ("tech_stack", r.stack.document),
    ("modules", .list (r.modules.map ModuleReport.document))]

end CodeSurvey
