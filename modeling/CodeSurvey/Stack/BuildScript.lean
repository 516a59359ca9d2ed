/-
Gradle build scripts.

A script is read by patterns, not as a program. A line that starts with a configuration and a quoted coordinate declares
a dependency, unless the coordinate stands behind `//`; everything else is looked for in the whole text. In versions the
variables that the script declares are replaced, once; unknown ones stay.
-/
import CodeSurvey.Pattern.Search
import CodeSurvey.Stack.Summary

namespace CodeSurvey.BuildScript

open Text

/-- either quotation mark -/
def quoteMark : Pattern := .anyOf "\x27\""

/-- the language level: group 1 -/
def sourceLevel : Pattern :=
  .lit "sourceCompatibility" ++ .gap ++ .opt (.lit "=") ++ .gap ++ .opt quoteMark
    ++ .opt (.lit "JavaVersion.VERSION_")
    ++ .group 1 (.some1 isDigit ++ .opt (.anyOf "._" ++ .some1 isDigit)) ++ .opt quoteMark

/-- the toolchain's language version: group 1 -/
def toolchain : Pattern :=
  .lit "languageVersion" ++ .span true (Pattern.except "\n") ++ .lit "JavaLanguageVersion.of(" ++ .gap
    ++ .group 1 (.some1 isDigit) ++ .gap ++ .lit ")"

/-- the version of the runtime's plugin: group 1 -/
def runtimePlugin : Pattern :=
  .lit "id" ++ .gap ++ .opt (.lit "(") ++ .gap ++ quoteMark ++ .lit "org.springframework.boot" ++ quoteMark ++ .gap
    ++ .opt (.lit ")") ++ .gap ++ .lit "version" ++ .gap
    ++ quoteMark ++ .group 1 (.some1 (Pattern.except "\x27\"")) ++ quoteMark

/-- a version of the runtime behind its name: group 1 -/
def runtimeCoordinate : Pattern :=
  .lit "spring-boot" ++ .any0 (fun c => isWord c || c == '-') ++ .gap ++ .anyOf ":=" ++ .gap ++ .opt quoteMark
    ++ .group 1 (.some1 isDigit ++ .lit "." ++ .some1 isDigit ++ .lit "." ++ .some1 isDigit
      ++ .any0 (fun c => isWord c || c == '.' || c == '-'))

/-- configurations that take dependencies -/
def configurations : List String :=
  ["implementation", "api", "compile", "compileOnly", "runtimeOnly", "annotationProcessor", "testImplementation",
    "testCompileOnly", "testRuntimeOnly"]

/-- a line that declares a dependency: group 1 its coordinate -/
def dependencyLine : Pattern :=
  .textStart ++ .gap ++ .oneOf configurations ++ .gap ++ .opt (.lit "(") ++ .gap
    ++ .opt (.lit "platform" ++ .gap ++ .lit "(" ++ .gap)
    ++ quoteMark ++ .group 1 (.some1 (Pattern.except "\x27\"")) ++ quoteMark

/-- the declaration of a variable: group 1 its name, group 2 its value -/
def variableLine : Pattern :=
  .lineStart ++ .gap ++ .opt (.lit "set(" ++ .gap) ++ .opt quoteMark ++ .group 1 .word ++ .opt quoteMark ++ .gap
    ++ .anyOf "=," ++ .gap ++ quoteMark ++ .group 2 (.some1 (Pattern.except "\x27\"\n")) ++ quoteMark

/-- the use of a variable: group 1 its name -/
def placeholder : Pattern :=
  .lit "$" ++ .opt (.lit "\x7b") ++ .group 1 .word ++ .opt (.lit "\x7d")

/-- the variables that a script declares; of two with one name the later counts -/
def declarations (script : String) : Ordered String String :=
  .ofList ((variableLine.findAll script).map fun m => (m.group 1, m.group 2))

/-- the text with variables replaced -/
def resolve (declared : Ordered String String) (text : String) : String :=
  placeholder.replaceAll (fun m => (declared.get? (m.group 1)).getD (String.ofList m.text)) text

/-- the line without what stands behind `//` -/
def dropRemark : List Char → List Char
  | '/' :: '/' :: _ => []
  | c :: cs => c :: dropRemark cs
  | [] => []

/-- the name and the version that a coordinate writes -/
def dependency? (declared : Ordered String String) (coordinate : String) : Option (String × String) :=
  match split coordinate ':' with
  | group :: artifact :: more =>
    some (group ++ ":" ++ artifact, (more.head?.map (resolve declared)).getD StackSummary.unspecified)
  | _ => none

/-- the dependency that a line declares -/
def dependencyOfLine? (declared : Ordered String String) (line : List Char) : Option (String × String) :=
  (dependencyLine.find? (String.ofList (dropRemark line))).bind fun m => dependency? declared (m.group 1)

/-- the version of each dependency; of two with one name the later counts -/
def dependencies (script : String) : Dependencies :=
  .ofList ((lines script.toList).filterMap (dependencyOfLine? (declarations script)))

def languageVersion (script : String) : Option String :=
  ((sourceLevel.find? script).or (toolchain.find? script)).map fun m => replace (m.group 1) "_" "."

def runtimeVersion (script : String) : Option String :=
  ((runtimePlugin.find? script).or (runtimeCoordinate.find? script)).map (·.group 1)

/-- the summary of a script -/
def summarize (script : String) : StackSummary :=
  .ofVersions .gradle (languageVersion script) (runtimeVersion script) (dependencies script)

end CodeSurvey.BuildScript
