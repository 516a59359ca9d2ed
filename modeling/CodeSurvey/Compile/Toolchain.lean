/-
The strategies by which projects are compiled.

Scripts that a project brings along come before the tool that they wrap, Maven before Gradle, and the compiler itself
last. The compiler takes its arguments from a file, which is there only while it runs: each argument stands on a line,
and those that are paths in quotes.
-/
import CodeSurvey.Compile.Cascade
import CodeSurvey.Compile.Classpath
import CodeSurvey.Compile.Command

namespace CodeSurvey

open Text

/-! ## Argument files -/

namespace ArgumentFile

/-- a character between quotes -/
def quoteChar (c : Char) : List Char := if c == '\\' || c == '"' then ['\\', c] else [c]

/-- a text in quotes -/
def quote (s : String) : String := "\"" ++ String.ofList (s.toList.flatMap quoteChar) ++ "\""

/-- the lines of the file -/
def lines (output : FilePath) (classpath sources : List FilePath) : List String :=
  ["-d " ++ quote output.text, "-encoding UTF-8", "-nowarn"]
    ++ (if classpath.isEmpty then [] else ["-cp " ++ quote (joined ":" (classpath.map FilePath.text))])
    ++ sources.map fun p => quote p.text

/-- the text of the file -/
def render (output : FilePath) (classpath sources : List FilePath) : String :=
  String.join ((lines output classpath sources).map (· ++ "\n"))

/-- the name of the file in the directory of temporary files -/
def name : String := ".tmp000000"

end ArgumentFile

/-! ## Tools -/

/-- what all strategies are told -/
structure CompileSettings where
  /-- milliseconds -/
  limit : Nat
  clean : Bool
  skipTests : Bool
  caches : List FilePath
  maxJars : Nat
  deriving DecidableEq, Repr

namespace CompileSettings

/-- the settings of a configuration -/
def ofConfig (c : Config) (home : Option FilePath) : CompileSettings where
  limit := c.compileTimeout.toNat * 1000
  clean := c.execution.cleanBeforeCompile
  skipTests := c.execution.skipTests
  caches := c.dependencyCaches home
  maxJars := c.execution.maxClasspathJars

/-- what Maven is asked for -/
def mavenGoals (s : CompileSettings) : List String :=
  (if s.clean then ["clean"] else []) ++ ["compile", "-q"] ++ (if s.skipTests then ["-DskipTests"] else [])

/-- what Gradle is asked for -/
def gradleTasks (s : CompileSettings) : List String :=
  (if s.clean then ["clean"] else []) ++ ["build"] ++ (if s.skipTests then ["-x", "test"] else [])

end CompileSettings

namespace Toolchain

/-- the script of the name that a project brings along -/
def wrapper? (d : Disk) (root : FilePath) (name : String) : Option FilePath :=
  if d.isFile (root.child name) then some (root.child name) else none

def mavenWrapper? (d : Disk) (root : FilePath) : Option FilePath := wrapper? d root "mvnw"

def gradleWrapper? (d : Disk) (root : FilePath) : Option FilePath := wrapper? d root "gradlew"

/-- an installed tool -/
def tool? (d : Disk) (name : String) : Option FilePath := Shell.findProgram d name

/-- a failed attempt -/
def failed (d : Disk) (reason : String) : Except SurveyError Unit × Disk := (.error (.buildAttempt reason), d)

/-- the strategy that runs a script of the project -/
def wrapperStrategy (name : String) (script? : Disk → FilePath → Option FilePath) (limit : Nat) (args : List String) :
    Strategy where
  name := name
  applies d root := (script? d root).isSome
  run d root :=
    match script? d root with
    | some script => (BuildCommand.script script args).run root limit d
    | none => failed d (replace name "-" " " ++ " disappeared")

/-- the strategy that runs an installed tool on a described project -/
def toolStrategy (name program : String) (described : Disk → FilePath → Bool) (limit : Nat) (args : List String) :
    Strategy where
  name := name
  applies d root := described d root && (tool? d program).isSome
  run d root :=
    match tool? d program with
    | some p => (BuildCommand.mk p.text args).run root limit d
    | none => failed d "cannot find binary path"

/-- the project has a Maven description -/
def hasPom (d : Disk) (root : FilePath) : Bool := d.isFile (root.child "pom.xml")

/-- the project has a Gradle script -/
def hasScript (d : Disk) (root : FilePath) : Bool :=
  d.isFile (root.child "build.gradle") || d.isFile (root.child "build.gradle.kts")

/-- the outcome of an operation on the disk, and the disk after it -/
def attempt (d : Disk) (r : Except IoFault Disk) (next : Disk → Except SurveyError Unit × Disk) :
    Except SurveyError Unit × Disk :=
  match r with
  | .ok d => next d
  | .error fault => (.error (.io fault), d)

/-- runs the compiler over the sources -/
def compileSources (s : CompileSettings) (javac root : FilePath) (sources : List FilePath) (d : Disk) :
    Except SurveyError Unit × Disk :=
  let output := root.descend ["target", "classes"]
  let classpath := Classpath.build d s.caches s.maxJars root sources
  let file := FilePath.ofText (Shell.placeText (d.temp ++ [ArgumentFile.name]))
  attempt d (d.makeDirectories output) fun d =>
    attempt d (d.write file (encode (ArgumentFile.render output classpath sources))) fun d =>
      let (outcome, d) := (BuildCommand.mk javac.text ["@" ++ file.text]).run root s.limit d
      (outcome, (d.remove file).toOption.getD d)

/-- the strategy that compiles the sources with the compiler itself -/
def javacStrategy (s : CompileSettings) : Strategy where
  name := "javac"
  applies d root := (d.sourceDirectory root).isSome && (tool? d "javac").isSome
  run d root :=
    match tool? d "javac" with
    | none => failed d "cannot find binary path"
    | some javac =>
      match d.sourceDirectory root with
      | none => failed d "no source root"
      | some directory =>
        match d.javaFiles directory with
        | [] => failed d ("no .java files under " ++ directory.text)
        | sources => compileSources s javac root sources d

/-- the strategies of a configuration in order -/
def strategies (c : Config) (home : Option FilePath) : List Strategy :=
  let s := CompileSettings.ofConfig c home
  let mavenWrapper := wrapperStrategy "maven-wrapper" mavenWrapper? s.limit s.mavenGoals
  let gradleWrapper := wrapperStrategy "gradle-wrapper" gradleWrapper? s.limit s.gradleTasks
  (if c.execution.useMavenWrapper then [mavenWrapper] else [])
    ++ [toolStrategy "maven" "mvn" hasPom s.limit s.mavenGoals]
    ++ (if c.execution.useGradleWrapper then [gradleWrapper] else [])
    ++ [toolStrategy "gradle" "gradle" hasScript s.limit s.gradleTasks]
    ++ (if c.execution.fallbackToJavac then [javacStrategy s] else [])

/-- compiles a module as the configuration says -/
def compile (c : Config) (root : FilePath) (d : Disk) : WithDisk CompiledOutput :=
  Cascade.compile (strategies c d.home) c.structures.scanDepth root d

end Toolchain

end CodeSurvey
