/-
Settings adjusted to a project.

Tuning looks at the sources of a project: many of them switch tracing off, and the architecture decides whether the
project is split into modules. A session remembers where its configuration came from and the project analyzed last;
reading the configuration again tunes it for that project.
-/
import CodeSurvey.Config
import CodeSurvey.Stack.Detect

namespace CodeSurvey

/-- the most sources that are still traced -/
def largeProject : Nat := 500

/-- architectures whose projects usually have several modules -/
def modularArchitectures : List String := ["Spring Boot", "Camunda BPM", "Apache Camel", "Feign Client"]

/-- the configuration adjusted to the project -/
def Config.tuned (c : Config) (d : Disk) (project : FilePath) : Config :=
  let small := (d.javaFiles project).length ≤ largeProject
  { c with
    sequence := { c.sequence with enabled := c.sequence.enabled && small }
    execution := { c.execution with detectMultiModule := modularArchitectures.contains (d.architecture project) } }

/-- where a configuration came from, and what was analyzed with it -/
structure ConfigSession where
  configPath : Option FilePath
  lastAnalyzed : Option FilePath
  deriving DecidableEq, Repr

namespace ConfigSession

/-- the session after the analysis of a project -/
def record (s : ConfigSession) (project : FilePath) : ConfigSession := { s with lastAnalyzed := some project }

/-- the configuration read again -/
def reload (s : ConfigSession) (d : Disk) : Except SurveyError Config :=
  (Config.loadOrDefault d s.configPath).map fun c =>
    match s.lastAnalyzed with
    | some project => if c.general.autoTune then c.tuned d project else c
    | none => c

end ConfigSession

end CodeSurvey
