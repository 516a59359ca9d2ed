/-
The configuration of an analysis after any history.

A surveyor is not quite the same after an analysis: its session keeps the project, and the file of the configuration is
read again with tuning for the project that the session keeps. Between analyses others may change anything on the disk.
No earlier analysis is seen in a later one all the same. An analysis first puts its own project into the session
(`record_step`), and that is the only thing earlier analyses left there (`record_after`). So what an analysis starts
from is the surveyor's own configuration or the present content of its file (`source`), and the tuning that reading
the file does and the tuning that the run asks for are one and the same, for its own project (`effective_eq`).

Result: `analyze_after`.
-/
import CodeSurvey.Surveyor

namespace CodeSurvey

/-! ## What a configuration is made from -/

/-- what stands at a path: nothing, a text, or why it cannot be read -/
def Disk.content (d : Disk) (p : FilePath) : Option (Except IoFault String) :=
  if d.exists? p then some (d.readText p) else none

namespace Config

/-- the configuration that the content of its file gives -/
def ofContent : Option (Except IoFault String) → Except SurveyError Config
  | none => .ok default
  | some (.ok text) => parse text
  | some (.error fault) => .error (.io fault)

theorem loadOrDefault_some (d : Disk) (p : FilePath) : loadOrDefault d (some p) = ofContent (d.content p) := by
  unfold loadOrDefault Disk.content
  by_cases hp : d.exists? p
  · cases hr : d.readText p <;> simp [hp, ofContent, load, hr]
  · simp [hp, ofContent]

/-- two disks on which tuning sees the same of a project -/
def SamePicture (root : FilePath) (d d' : Disk) : Prop :=
  (d'.javaFiles root).length = (d.javaFiles root).length ∧ d'.architecture root = d.architecture root

theorem tuned_congr {root : FilePath} {d d' : Disk} (h : SamePicture root d d') (c : Config) :
    c.tuned d' root = c.tuned d root := by
  obtain ⟨hfiles, harchitecture⟩ := h
  simp only [tuned, hfiles, harchitecture]

@[simp]
theorem tuned_general (c : Config) (d : Disk) (root : FilePath) : (c.tuned d root).general = c.general := rfl

end Config

namespace Surveyor

/-! ## Analyses -/

/-- the configuration that an analysis works with -/
def effective (s : Surveyor) (d : Disk) (root : FilePath) (options : RunOptions) : Except RunError Config :=
  (s.record root).runConfig d root options

/-- what an analysis is once its configuration is known -/
def analyzeWith (s : Surveyor) (root : FilePath) (d : Disk) : Except RunError Config →
    Except RunError Report × Surveyor × Disk
  | .error e => (.error e, s, d)
  | .ok c => (.ok (report c root d).1, s, (report c root d).2)

theorem analyze_eq (s : Surveyor) (d : Disk) (root : FilePath) (options : RunOptions) :
    s.analyze d root options = analyzeWith (s.record root) root d (s.effective d root options) := by
  simp only [analyze, effective]
  cases (s.record root).runConfig d root options <;> rfl

theorem analyze_surveyor (s : Surveyor) (d : Disk) (root : FilePath) (options : RunOptions) :
    (s.analyze d root options).2.1 = s.record root := by
  rw [analyze_eq]
  cases s.effective d root options <;> rfl

/-! ## Histories -/

/-- what happens between two analyses and in them -/
inductive Event where
  | analysis (root : FilePath) (options : RunOptions)
  /-- others leave the disk like this -/
  | edit (d : Disk)

def step : Surveyor × Disk → Event → Surveyor × Disk
  | (s, d), .analysis root options => (s.analyze d root options).2
  | (s, _), .edit d => (s, d)

/-- the surveyor and the disk after a history -/
def after (s : Surveyor) (d : Disk) (history : List Event) : Surveyor × Disk := history.foldl step (s, d)

/-- a surveyor just made, with the same configuration and the same file -/
def fresh (s : Surveyor) : Surveyor := ⟨s.config, ⟨s.session.configPath, none⟩⟩

theorem record_record (s : Surveyor) (earlier root : FilePath) : (s.record earlier).record root = s.record root := rfl

/-- Nothing that happens reaches past the next analysis: its own project takes the place of the one in the session. -/
theorem record_step (s : Surveyor) (d : Disk) (e : Event) (root : FilePath) :
    (step (s, d) e).1.record root = s.record root := by
  cases e with
  | edit d' => rfl
  | analysis earlier options =>
    calc (step (s, d) (.analysis earlier options)).1.record root
        = (s.record earlier).record root := by rw [step, analyze_surveyor]
      _ = s.record root := record_record s earlier root

theorem record_after (s : Surveyor) (d : Disk) (history : List Event) (root : FilePath) :
    (s.after d history).1.record root = s.record root := by
  induction history generalizing s d with
  | nil => rfl
  | cons e history ih =>
    calc (s.after d (e :: history)).1.record root
        = ((step (s, d) e).1.after (step (s, d) e).2 history).1.record root := rfl
      _ = (step (s, d) e).1.record root := ih _ _
      _ = s.record root := record_step s d e root

theorem record_fresh (s : Surveyor) (root : FilePath) : s.fresh.record root = s.record root := rfl

/-! ## The configuration of a run -/

/-- the configuration that a run starts from: the surveyor's own, or the present content of its file -/
def source (s : Surveyor) (d : Disk) : Except RunError Config :=
  match s.session.configPath with
  | none => .ok s.config
  | some p => (Config.ofContent (d.content p)).mapError .configurationNotReloaded

theorem reload_record {session : ConfigSession} {p : FilePath} (hp : session.configPath = some p) (d : Disk)
    (root : FilePath) : (session.record root).reload d =
      (Config.ofContent (d.content p)).map fun c => if c.general.autoTune then c.tuned d root else c := by
  simp only [ConfigSession.reload, ConfigSession.record, hp, Config.loadOrDefault_some]

/-- A configuration is tuned once: by reading it again where it asks for tuning itself, else by the options. -/
theorem withOptions_reloaded (options : RunOptions) (d : Disk) (root : FilePath) (c : Config) :
    let reloaded := if c.general.autoTune then c.tuned d root else c
    withOptions options d root reloaded reloaded.general.autoTune = withOptions options d root c false := by
  cases h : c.general.autoTune <;> simp [withOptions, h]

theorem effective_eq (s : Surveyor) (d : Disk) (root : FilePath) (options : RunOptions) :
    s.effective d root options = (s.source d).map fun c => withOptions options d root c false := by
  cases hp : s.session.configPath with
  | none =>
    simp only [effective, runConfig, freshConfig, source, record, ConfigSession.record, hp]
    rfl
  | some p =>
    have hreload := reload_record hp d root
    have hpath : (s.record root).session.configPath = some p := hp
    simp only [effective, runConfig, freshConfig, source, hp, hpath]
    rw [show (s.record root).session.reload d = _ from hreload]
    cases Config.ofContent (d.content p) with
    | error e => rfl
    | ok c => exact congrArg Except.ok (withOptions_reloaded options d root c)

/-- two surveyors, each with its disk, that start a run from the same configuration: they name the same file and it
has the same content, or they name none and have the same configuration -/
def SameSource (s : Surveyor) (d : Disk) (s' : Surveyor) (d' : Disk) : Prop :=
  s'.session.configPath = s.session.configPath ∧
  match s.session.configPath with
  | none => s'.config = s.config
  | some p => d'.content p = d.content p

theorem source_congr {s s' : Surveyor} {d d' : Disk} (h : SameSource s d s' d') : s'.source d' = s.source d := by
  obtain ⟨hpath, hrest⟩ := h
  unfold source
  rw [hpath]
  cases hp : s.session.configPath <;> simp_all

theorem withOptions_congr {root : FilePath} {d d' : Disk} (h : Config.SamePicture root d d') (options : RunOptions)
    (c : Config) (tuned : Bool) : withOptions options d' root c tuned = withOptions options d root c tuned := by
  unfold withOptions
  rw [Config.tuned_congr h]

theorem effective_congr {s s' : Surveyor} {d d' : Disk} {root : FilePath} (hsource : SameSource s d s' d')
    (hpicture : Config.SamePicture root d d') (options : RunOptions) :
    s'.effective d' root options = s.effective d root options := by
  rw [effective_eq, effective_eq, source_congr hsource]
  simp only [withOptions_congr hpicture]

theorem withOptions_singleModule {options : RunOptions} (h : options.singleModule = true) (d : Disk) (root : FilePath)
    (c : Config) (tuned : Bool) : (withOptions options d root c tuned).execution.detectMultiModule = false := by
  simp [withOptions, h]

theorem effective_singleModule {s : Surveyor} {d : Disk} {root : FilePath} {options : RunOptions} {c : Config}
    (h : options.singleModule = true) (hc : s.effective d root options = .ok c) :
    c.execution.detectMultiModule = false := by
  rw [effective_eq] at hc
  cases hs : s.source d with
  | error e => simp [hs, Except.map] at hc
  | ok read =>
    simp only [hs, Except.map, Except.ok.injEq] at hc
    exact hc ▸ withOptions_singleModule h d root read false

theorem SameSource.fresh (s : Surveyor) (d : Disk) : SameSource s d s.fresh d := by
  refine ⟨rfl, ?_⟩
  cases s.session.configPath <;> rfl

/-- What an analysis does after any history of analyses and changes of the disk: it is the analysis of a surveyor just
made, its configuration is the one that the surveyor was made with, or the present content of its file, tuned for its
own project once where the run or the configuration asks for it, and with one module where the run asks for that; this
depends on nothing else, and the surveyor keeps the configuration that it was made with. -/
theorem analyze_after (s : Surveyor) (d : Disk) (history : List Event) (root : FilePath) (options : RunOptions) :
    let now := s.after d history
    let config := now.1.effective now.2 root options
    config = s.fresh.effective now.2 root options ∧
    config = (s.source now.2).map (fun c => withOptions options now.2 root c false) ∧
    (∀ (s' : Surveyor) (d' : Disk), SameSource s now.2 s' d' → Config.SamePicture root now.2 d' →
      s'.effective d' root options = config) ∧
    (options.singleModule = true → ∀ c, config = .ok c → c.execution.detectMultiModule = false) ∧
    now.1.analyze now.2 root options = analyzeWith (s.fresh.record root) root now.2 config ∧
    now.1.analyze now.2 root options = s.fresh.analyze now.2 root options ∧
    (now.1.analyze now.2 root options).2.1.config = s.config := by
  intro now config
  have hrecord : now.1.record root = s.record root := record_after s d history root
  have hconfig : config = s.effective now.2 root options := by
    change (now.1.record root).runConfig now.2 root options = (s.record root).runConfig now.2 root options
    rw [hrecord]
  have hanalyze : now.1.analyze now.2 root options = s.fresh.analyze now.2 root options := by
    rw [analyze_eq, analyze_eq, hrecord, record_fresh, effective_congr (SameSource.fresh s now.2) ⟨rfl, rfl⟩]
    exact congrArg _ hconfig
  refine ⟨?_, ?_, ?_, ?_, ?_, hanalyze, ?_⟩
  · exact hconfig.trans (effective_congr (SameSource.fresh s now.2) ⟨rfl, rfl⟩ options).symm
  · exact hconfig.trans (effective_eq s now.2 root options)
  · intro s' d' hsource hpicture
    exact (effective_congr hsource hpicture options).trans hconfig.symm
  · intro h c hc
    exact effective_singleModule h hc
  · rw [analyze_eq, hrecord]
    rfl
  · rw [hanalyze, analyze_surveyor]
    rfl

end Surveyor

end CodeSurvey
