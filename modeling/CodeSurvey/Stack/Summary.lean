/-
Summaries of a technology stack.

A summary names the kind of project, the versions found and each dependency with its version. `frameworkVersion` takes
the version of the framework's own libraries, else the one of its runtime.
-/
import CodeSurvey.Ordered
import CodeSurvey.Text.Case
import CodeSurvey.Text.Words

namespace CodeSurvey

open Text

/-- what describes a project -/
inductive ProjectKind where
  | maven
  | gradle
  | jar
  /-- nothing that is known -/
  | unknown
  /-- there is no project -/
  | notFound
  /-- the description is there but cannot be read -/
  | unreadable
  deriving DecidableEq, Repr

/-- the name of the kind in reports -/
def ProjectKind.name : ProjectKind → String
  | .maven => "Maven"
  | .gradle => "Gradle"
  | .jar => "Jar"
  | .unknown => "Unknown"
  | .notFound => "NotFound"
  | .unreadable => "Error"

/-- a version for each dependency -/
abbrev Dependencies := Ordered String String

/-- the technology stack of a project -/
structure StackSummary where
  kind : ProjectKind
  languageVersion : Option String
  frameworkVersion : Option String
  runtimeVersion : Option String
  architecture : Option String
  dependencies : Dependencies

namespace StackSummary

/-- nothing but the kind -/
def empty (kind : ProjectKind) : StackSummary := ⟨kind, none, none, none, none, Ordered.empty⟩

/-- the version of a dependency that has none -/
def unspecified : String := "unspecified"

/-- a library of the framework itself -/
def isFrameworkCore (coordinate : String) : Bool :=
  contains coordinate "spring-core" || contains coordinate "spring-context"

/-- the first version of the framework's own libraries, else the runtime's -/
def frameworkVersionOf (dependencies : Dependencies) (runtime : Option String) : Option String :=
  ((dependencies.entries.find? fun e => isFrameworkCore e.1 && !eqIgnoreAsciiCase e.2 unspecified).map (·.2)).or runtime

/-- the summary of a described project -/
def ofVersions (kind : ProjectKind) (language runtime : Option String) (dependencies : Dependencies) :
    StackSummary where
  kind := kind
  languageVersion := language
  frameworkVersion := frameworkVersionOf dependencies runtime
  runtimeVersion := runtime
  architecture := none
  dependencies := dependencies

end StackSummary

end CodeSurvey
