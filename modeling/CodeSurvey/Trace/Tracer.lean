/-
Call sequences from entry points through components into data access.

Tracing is lexical. In the body of an operation every `receiver.method(` is a call; the receiver is resolved by the
injection map of its file, else by its name among the components, else among data access. A call of a component is
followed into the body of that method, in the component itself or in one that implements it, and there calls of data
access are taken; chains stop after these two hops. An edge found again adds nothing, and its component is not followed
again.
-/
import CodeSurvey.Trace.Endpoint
import CodeSurvey.Trace.IgnoreList

namespace CodeSurvey

open Text

/-- what a trace is made from: sources, their root, and names that never become edges -/
structure Tracer where
  sources : Sources
  root : FilePath
  ignored : IgnoreList

/-- the classes of a module by role -/
structure ModuleView where
  roles : RoleAssignment
  components : NameSet
  dataAccess : NameSet
  /-- what an entry point may call -/
  reachable : NameSet

def ModuleView.of (roles : RoleAssignment) : ModuleView where
  roles := roles
  components := roles.classesWith .component
  dataAccess := roles.classesWith .dataAccess
  reachable := (roles.classesWith .component).union (roles.classesWith .dataAccess)

namespace Tracer

/-- a call: group 1 the receiver, group 2 the method -/
def callPattern : Pattern :=
  .wordEdge ++ .group 1 .word ++ .gap ++ .lit "." ++ .gap ++ .group 2 .word ++ .gap ++ .lit "("

/-- receivers that mean the class itself -/
def selfReceivers : List String := ["this", "super"]

/-- the receivers and methods of the calls in a body, in order, without calls on the class itself and ignored names -/
def calls (ignored : IgnoreList) (body : String) : List (String × String) :=
  ((callPattern.findAll body).map fun m => (m.group 1, m.group 2)).filter fun c =>
    !(selfReceivers.contains c.1 || ignored.ignores c.2)

/-- the text names the interface in a list of implemented ones -/
def declaresImplements (normalized interface : String) : Bool :=
  ((splitAtText "implements".toList 0 normalized.toList).drop 1).any fun tail =>
    (splitBy (fun c => !(isAlphanumeric c || c == '_' || c == '.')) (tail.takeWhile (· != '\x7b'))).any fun token =>
      afterLast (String.ofList token) '.' == interface

/-- another component's code may stand for the component's: it has the same core, or declares to implement it -/
def standsFor (t : Tracer) (view : ModuleView) (component other : String) : Bool :=
  let wanted := Names.core component
  (!wanted.isEmpty && Names.core other == wanted) ||
    match view.roles.get? other with
    | some entry =>
      match t.sources.read entry.path with
      | .ok text => declaresImplements text component
      | .error _ => false
    | none => false

/-- the component, then the other components whose code may stand for it -/
def implementations (t : Tracer) (view : ModuleView) (component : String) : List String :=
  component :: (view.components.toList.filter fun c => c != component && t.standsFor view component c)

/-- the data access that the method's body in one class calls; none where the class has no such body -/
def dataCalls? (t : Tracer) (view : ModuleView) (method candidate : String) : Option (List (String × String)) :=
  (view.roles.get? candidate).bind fun entry =>
    match t.sources.read entry.path with
    | .error _ => none
    | .ok text =>
      (Source.bodyOf (Source.methods text) method).map fun body =>
        let injections := Injection.resolve text (some candidate) view.dataAccess
        (calls t.ignored body).filterMap fun (receiver, called) =>
          ((injections.get? receiver).or (Names.resolve receiver view.dataAccess)).map fun target => (target, called)

/-- the edges of the second hop: from the component into data access -/
def secondHop (t : Tracer) (view : ModuleView) (component method : String) : List Edge :=
  (((t.implementations view component).findSome? (t.dataCalls? view method)).getD []).map fun (target, called) =>
    Edge.make component target called .dataAccess

/-- the class that a receiver in an entry point refers to -/
def target? (view : ModuleView) (injections : InjectionMap) (receiver : String) : Option String :=
  ((injections.get? receiver).or (Names.resolve receiver view.components)).or
    (Names.resolve receiver view.dataAccess)

/-- the edges with those of one call in an entry point -/
def addCall (t : Tracer) (view : ModuleView) (entryPoint : String) (injections : InjectionMap) (s : EdgeSet)
    (call : String × String) : EdgeSet :=
  match target? view injections call.1 with
  | none => s
  | some target =>
    let role := view.roles.roleOf target
    let edge := Edge.make entryPoint target call.2 role
    if !role.isActive || s.holds edge then s
    else if role = .component then (t.secondHop view target call.2).foldl EdgeSet.push (s.push edge)
    else s.push edge

/-- the edges of a body of an entry point -/
def traceBody (t : Tracer) (view : ModuleView) (entryPoint : String) (injections : InjectionMap) (body : String) :
    EdgeSet :=
  (calls t.ignored body).foldl (t.addCall view entryPoint injections) .empty

/-- one sequence for each operation of an entry point -/
def traceOperations (t : Tracer) (roles : RoleAssignment) (entryPoint : String) :
    Except SurveyError (List CallSequence) :=
  match (roles.get? entryPoint).filter (·.role = .entryPoint) with
  | none => .error (.resourceNotFound (t.root.join (entryPoint ++ ".java")))
  | some entry =>
    (t.sources.read entry.path).map fun text =>
      let view := ModuleView.of roles
      let methods := Source.methods text
      let injections := Injection.resolve text (some entryPoint) view.reachable
      (Endpoint.operations t.sources entryPoint methods).map fun operation =>
        .ofEdges operation <|
          match Source.bodyOf methods operation.name with
          | some body => t.traceBody view entryPoint injections body
          | none => .empty

/-- the sequences of every entry point; one whose source cannot be read is passed over -/
def traceModule (t : Tracer) (roles : RoleAssignment) : Ordered String (List CallSequence) :=
  (roles.classesWith .entryPoint).toList.foldl (fun traced name =>
    match t.traceOperations roles name with
    | .ok sequences => traced.insert name sequences
    | .error _ => traced) Ordered.empty

end Tracer

end CodeSurvey
