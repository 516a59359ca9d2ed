/-
The surveyor of projects.

A surveyor has a configuration and a session. For each analysis it takes its configuration anew: the file that it was
given, read again, or else the one it has; then tuning for this project and the options of this run are laid over it.
What it has itself stays as it is, so that no analysis depends on an earlier one.
-/
import CodeSurvey.Analysis
import CodeSurvey.Report.Handoff
import CodeSurvey.Tuning

namespace CodeSurvey

/-- switches of one run -/
structure RunOptions where
  /-- take the project as one module -/
  singleModule : Bool
  /-- tune the configuration for the project -/
  autoTune : Bool
  deriving DecidableEq, Repr

/-- who analyzes projects -/
structure Surveyor where
  config : Config
  session : ConfigSession
  deriving DecidableEq, Repr

namespace Surveyor

/-- a surveyor with a configuration that comes from no file -/
def ofConfig (c : Config) : Surveyor := ⟨c, ⟨none, none⟩⟩

/-- a surveyor with the configuration in the file, or in the usual ones -/
def load (d : Disk) (path : Option FilePath) : Except RunError Surveyor :=
  match Config.loadOrDefault d path with
  | .ok c => .ok ⟨c, ⟨path, none⟩⟩
  | .error e => .error (.configurationNotLoaded e)

/-- the surveyor that remembers the project as the last one -/
def record (s : Surveyor) (root : FilePath) : Surveyor := { s with session := s.session.record root }

/-- the configuration without the options of a run, and whether it is tuned -/
def freshConfig (s : Surveyor) (d : Disk) : Except RunError (Config × Bool) :=
  match s.session.configPath with
  | none => .ok (s.config, false)
  | some _ =>
    match s.session.reload d with
    | .ok c => .ok (c, c.general.autoTune)
    | .error e => .error (.configurationNotReloaded e)

/-- the configuration with the options of a run -/
def withOptions (options : RunOptions) (d : Disk) (root : FilePath) (c : Config) (tuned : Bool) : Config :=
  let c := if !tuned && (options.autoTune || c.general.autoTune) then c.tuned d root else c
  if options.singleModule then { c with execution := { c.execution with detectMultiModule := false } } else c

/-- the configuration of a run -/
def runConfig (s : Surveyor) (d : Disk) (root : FilePath) (options : RunOptions) : Except RunError Config :=
  (s.freshConfig d).map fun (c, tuned) => withOptions options d root c tuned

/-- the report of a project with a configuration, and the disk after it -/
def report (c : Config) (root : FilePath) (d : Disk) : Report × Disk :=
  let stack := d.stackSummary root
  match d.modules c.execution.detectMultiModule root with
  | .error e => (⟨root, stack, [.failed ⟨moduleName root, root⟩ e.message]⟩, d)
  | .ok modules =>
    let (reports, after) := analyzeModules c modules d
    (⟨root, stack, reports⟩, after)

/-- the report of a project, the surveyor after it and the disk after it -/
def analyze (s : Surveyor) (d : Disk) (root : FilePath) (options : RunOptions) :
    Except RunError Report × Surveyor × Disk :=
  let s := s.record root
  match s.runConfig d root options with
  | .error e => (.error e, s, d)
  | .ok c =>
    let (r, after) := report c root d
    (.ok r, s, after)

/-- the modules of a project -/
def modules (s : Surveyor) (d : Disk) (root : FilePath) : Except SurveyError (List ModuleRoot) :=
  d.modules s.config.execution.detectMultiModule root

/-- the name of a new configuration file -/
def configName : String := "strata.toml"

/-- writes the default configuration to a new file; its path, and the disk with it -/
def writeDefaults (d : Disk) (path : Option FilePath) : Except RunError (FilePath × Disk) :=
  let path := path.getD (.ofText configName)
  if d.exists? path then .error (.fileExists path)
  else
    match Config.default.save d path with
    | .ok d => .ok (path, d)
    | .error e => .error (.fileNotWritten path e)

end Surveyor

end CodeSurvey
