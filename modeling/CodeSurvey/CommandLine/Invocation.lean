/-
Commands of the command line.

There are four commands: `analyze` writes the reports of one or more projects, `stack` and `modules` print what one
project is made with and how it is split, and `init-config` writes a configuration file. The configuration file and
the switch for more log lines may be named before or after the command; what stands behind it counts.
-/
import CodeSurvey.CommandLine.Help
import CodeSurvey.Surveyor

namespace CodeSurvey.CommandLine

open Text

/-- what is to be done -/
inductive Command where
  | analyze (paths : List FilePath) (output : Option FilePath) (options : RunOptions)
  | stack (path : FilePath)
  | modules (path : FilePath)
  | writeDefaults (path : Option FilePath)
  deriving DecidableEq, Repr

/-- the paths that the command works on -/
def Command.paths : Command → List FilePath
  | .analyze paths output _ => paths ++ output.toList
  | .stack path => [path]
  | .modules path => [path]
  | .writeDefaults path => path.toList

/-- a command, and the configuration file that was named -/
structure Invocation where
  config : Option FilePath
  command : Command
  deriving DecidableEq, Repr

/-! ## Levels -/

def configOption : OptionForm := .valued "config" (some 'c') "Path to configuration file"

def verboseOption : OptionForm := .switch "verbose" (some 'v') "Enable verbose logging"

def helpOption : OptionForm := ⟨"help", some 'h', false, some (.help none), "Print help"⟩

def versionOption : OptionForm := ⟨"version", some 'V', false, some .version, "Print version"⟩

/-- the level before the command -/
def topLevel : Level where
  about := "Class graphs, call sequences and a tech-stack inventory for unfamiliar Java projects"
  operand := some ⟨"COMMAND", true, false, ""⟩
  options := [configOption, verboseOption, helpOption, versionOption]

/-- the level of a command that works on one project -/
def projectLevel (about : String) : Level where
  about := about
  operand := some ⟨"PATH", true, false, "Project root"⟩
  options := [configOption, verboseOption, helpOption]

def analyzeLevel : Level where
  about := "Analyze one or more project roots and write the JSON handoff"
  operand := some ⟨"PATHS", true, true, "Project roots to analyze"⟩
  options :=
    [configOption, .valued "output" (some 'o') "Output directory (defaults to the configured one)",
      .switch "single-module" none "Treat each root as a single module", verboseOption,
      .switch "auto-tune" none "Tune thresholds to each project before analyzing it", helpOption]

def writeDefaultsLevel : Level where
  about := "Write the default configuration"
  operand := none
  options :=
    [configOption, .valued "path" (some 'p') "Target file (defaults to ./strata.toml)", verboseOption, helpOption]

/-- the level of each command -/
def commandLevels : List (String × Level) :=
  [("analyze", analyzeLevel), ("stack", projectLevel "Print the tech-stack summary as JSON"),
    ("modules", projectLevel "List the modules a project root splits into"), ("init-config", writeDefaultsLevel)]

/-- the level of the command that gives help -/
def helpLevel : Level where
  about := "Print this message or the help of the given subcommand(s)"
  operand := some ⟨"COMMAND", false, true, "Print help for the subcommand(s)"⟩
  options := []

/-- the help on all or on one command -/
def helpText (command : Option String) : String :=
  let levels := commandLevels ++ [("help", helpLevel)]
  match command.bind fun name => (levels.lookup name).map fun level => (name, level) with
  | some (name, level) => Help.text ("strata " ++ name) level []
  | none => Help.text "strata" topLevel (levels.map fun (name, level) => (name, level.about))

/-! ## Reading -/

/-- what the command of the name does with what was read -/
def Command.ofReading (name : String) (r : Reading) : Except Stop Command :=
  let path? := fun option => (r.value? option).map FilePath.ofText
  match name, r.operands with
  | "analyze", first :: more =>
    .ok (.analyze ((first :: more).map .ofText) (path? "output") ⟨r.has "single-module", r.has "auto-tune"⟩)
  | "stack", [path] => .ok (.stack (.ofText path))
  | "modules", [path] => .ok (.modules (.ofText path))
  | "init-config", [] => .ok (.writeDefaults (path? "path"))
  | _, _ => .error .misuse

/-- asking for help by name: about all, or about one command -/
def readHelp : List String → Stop
  | [] => .help none
  | [name] => if name == "help" || (commandLevels.lookup name).isSome then .help (some name) else .misuse
  | _ => .misuse

/-- help that is asked for behind a command is about that command -/
def Stop.within (name : String) : Stop → Stop
  | .help none => .help (some name)
  | stop => stop

namespace Invocation

/-- the command that the arguments ask for -/
def read (args : List String) : Except Stop Invocation := do
  let (top, rest) ← Reading.empty.readToOperand topLevel args
  match top.operands with
  | [] => .error .misuse
  | name :: _ =>
    if top.plain then .error .misuse
    else if name == "help" then .error (readHelp rest)
    else
      match commandLevels.lookup name with
      | none => .error .misuse
      | some level =>
        let inner ← (Reading.readAll level rest).mapError (Stop.within name)
        let command ← Command.ofReading name inner
        .ok ⟨((inner.value? "config").or (top.value? "config")).map .ofText, command⟩

end Invocation

end CodeSurvey.CommandLine
