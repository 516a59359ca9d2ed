/-
Carrying out the commands.

A command gives an exit status, what it prints, what it says of errors, and the disk after it. Reports of several
projects go into one directory for each project below the common one, named for the project. The first project that
fails ends the run; what was printed and written before stays.
-/
import CodeSurvey.CommandLine.Invocation

namespace CodeSurvey.CommandLine

open Text

/-- what a run leaves -/
structure Outcome where
  status : Nat
  printed : String
  errors : String
  disk : Disk

namespace Outcome

def success (printed : String) (d : Disk) : Outcome := ⟨0, printed, "", d⟩

def failure (printed message : String) (d : Disk) : Outcome := ⟨1, printed, "Error: " ++ message ++ "\n", d⟩

end Outcome

/-- one line on a module -/
def moduleLine (m : ModuleReport) : String :=
  "  " ++ padded 30 m.name ++ " " ++ m.status.name ++ ": " ++ toString m.classCount ++ " classes, "
    ++ toString m.operationCount ++ " operations\n"

/-- what is printed of a report -/
def summary (r : Report) : String :=
  r.root.text ++ " (" ++ r.stack.kind.name ++ ")\n" ++ String.join (r.modules.map moduleLine)

/-- the name of a project: that of the directory that its path leads to, else the last name of the path -/
def projectName (d : Disk) (p : FilePath) : String :=
  let real := if d.exists? p then ((d.locate p).toOption.bind (·.getLast?)) else none
  (real.or p.fileName).getD "project"

/-- where the report of one of the projects goes -/
def reportDirectory (d : Disk) (base : FilePath) (several : Bool) (p : FilePath) : FilePath :=
  if several then base.join (projectName d p) else base

/-- analyzes projects one after the other, with what was printed before -/
def analyzeAll (base : FilePath) (several : Bool) (options : RunOptions) (printed : String) :
    List FilePath → Surveyor → Disk → Outcome
  | [], _, d => .success printed d
  | p :: more, s, d =>
    match s.analyze d p options with
    | (.error e, _, d) => .failure printed e.message d
    | (.ok r, s, d) =>
      match r.writeTo (reportDirectory d base several p) d with
      | (.error e, d) => .failure printed e.message d
      | (.ok (), d) => analyzeAll base several options (printed ++ summary r) more s d

/-- one line on a module of a split project -/
def moduleRootLine (m : ModuleRoot) : String := m.name ++ "\t" ++ m.path.text ++ "\n"

/-- carries out a command -/
def execute (command : Command) (s : Surveyor) (d : Disk) : Outcome :=
  match command with
  | .analyze paths output options =>
    analyzeAll (output.getD s.config.general.outputDir) (1 < paths.length) options "" paths s d
  | .stack path => .success ((d.stackSummary path).document.pretty ++ "\n") d
  | .modules path =>
    match s.modules d path with
    | .ok modules => .success (String.join (modules.map moduleRootLine)) d
    | .error e => .failure "" e.message d
  | .writeDefaults path =>
    match Surveyor.writeDefaults d path with
    | .ok (path, d) => .success ("Wrote " ++ path.text ++ "\n") d
    | .error e => .failure "" e.message d

/-- the name and number of the program -/
def version : String := "strata 0.1.0\n"

/-- runs the program -/
def run (args : List String) (d : Disk) : Outcome :=
  match Invocation.read args with
  | .error .misuse => ⟨2, "", helpText none, d⟩
  | .error (.help command) => .success (helpText command) d
  | .error .version => .success version d
  | .ok invocation =>
    match Surveyor.load d invocation.config with
    | .ok s => execute invocation.command s d
    | .error e => .failure "" e.message d

end CodeSurvey.CommandLine
