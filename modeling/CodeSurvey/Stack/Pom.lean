/-
Maven project descriptions.

A description is a document, read as a fold over its events with the path of open elements. Only what stands directly in
the project counts: its version, its parent, its properties and its dependencies; the same names at other places say
nothing. In versions a placeholder is replaced by the property of its name, once; unknown ones stay.
-/
import CodeSurvey.Error
import CodeSurvey.Pattern.Search
import CodeSurvey.Stack.Summary
import CodeSurvey.Xml

namespace CodeSurvey

open Text

/-- what names an artifact; a later text replaces an earlier one -/
structure Coordinates where
  group : Option String
  artifact : Option String
  version : Option String
  deriving DecidableEq, Repr

/-- what a summary needs of a project description -/
structure Pom where
  properties : Ordered String String
  version : Option String
  parent : Coordinates
  /-- in document order -/
  dependencies : List Coordinates

/-- a description read up to some event -/
structure PomReading where
  pom : Pom
  /-- names of the open elements, the innermost first -/
  path : List String
  /-- the dependency that is open -/
  pending : Option Coordinates

namespace Coordinates

def empty : Coordinates := ⟨none, none, none⟩

/-- the coordinates with the text of an element -/
def set (c : Coordinates) (element text : String) : Coordinates :=
  if element == "groupId" then { c with group := some text }
  else if element == "artifactId" then { c with artifact := some text }
  else if element == "version" then { c with version := some text }
  else c

end Coordinates

namespace Pom

def empty : Pom := ⟨Ordered.empty, none, .empty, []⟩

/-- where dependencies stand -/
def dependenciesPath : List String := ["dependencies", "project"]

/-- the reading after a text -/
def readText (r : PomReading) (text : String) : PomReading :=
  match r.path with
  | [element, parentName] =>
    if element == "version" && parentName == "project" then { r with pom := { r.pom with version := some text } } else r
  | [element, parentName, project] =>
    if project != "project" then r
    else if parentName == "properties" then
      { r with pom := { r.pom with properties := r.pom.properties.insert element text } }
    else if parentName == "parent" then { r with pom := { r.pom with parent := r.pom.parent.set element text } }
    else r
  | element :: "dependency" :: above =>
    if above == dependenciesPath then { r with pending := r.pending.map (·.set element text) } else r
  | _ => r

/-- the reading after an event -/
def read (r : PomReading) : Xml.Event → PomReading
  | .opened name =>
    let pending := if name == "dependency" && r.path == dependenciesPath then some .empty else r.pending
    { r with path := name :: r.path, pending := pending }
  | .closed =>
    if r.path == "dependency" :: dependenciesPath then
      { r with
        path := r.path.drop 1
        pending := none
        pom := { r.pom with dependencies := r.pom.dependencies ++ r.pending.toList } }
    else { r with path := r.path.drop 1 }
  | .text s => readText r s

/-- the description that a document's events tell -/
def ofEvents (events : List Xml.Event) : Pom := (events.foldl read ⟨empty, [], none⟩).pom

/-- a placeholder: group 1 its name -/
def placeholder : Pattern :=
  .lit "$\x7b" ++ .group 1 (.some1 (Pattern.except "\x7d")) ++ .lit "\x7d"

/-- what a placeholder's name stands for -/
def value? (p : Pom) (name : String) : Option String :=
  if name == "project.version" || name == "version" then p.version
  else if name == "project.parent.version" then p.parent.version
  else p.properties.get? name

/-- the text with placeholders replaced -/
def resolve (p : Pom) (text : String) : String :=
  placeholder.replaceAll (fun m => (p.value? (m.group 1)).getD (String.ofList m.text)) text

/-- properties that give the language version, first one first -/
def languageProperties : List String :=
  ["java.version", "maven.compiler.release", "maven.compiler.source", "maven.compiler.target"]

/-- the group of the runtime -/
def runtimeGroup : String := "org.springframework.boot"

def languageVersion (p : Pom) : Option String :=
  (languageProperties.findSome? p.properties.get?).map p.resolve

/-- the version of a parent that is the runtime, else the one that a property gives -/
def runtimeVersion (p : Pom) : Option String :=
  let ofParent := if p.parent.group == some runtimeGroup then p.parent.version else none
  let ofProperty := (p.properties.get? "spring-boot.version").filter fun v => !(trimmed v).isEmpty
  (ofParent.or ofProperty).map p.resolve

/-- the name and the version of a dependency that has both parts of a name -/
def dependency? (p : Pom) (c : Coordinates) : Option (String × String) := do
  let group ← c.group
  let artifact ← c.artifact
  return (group ++ ":" ++ artifact, (c.version.map p.resolve).getD StackSummary.unspecified)

/-- the version of each dependency; of two with one name the later counts -/
def resolvedDependencies (p : Pom) : Dependencies := Ordered.ofList (p.dependencies.filterMap p.dependency?)

def summary (p : Pom) : StackSummary :=
  .ofVersions .maven p.languageVersion p.runtimeVersion p.resolvedDependencies

/-- the summary of a document -/
def summarize (document : String) : Except SurveyError StackSummary :=
  match Xml.events? document with
  | some events => .ok (ofEvents events).summary
  | none => .error (.descriptor document)

end Pom

end CodeSurvey
