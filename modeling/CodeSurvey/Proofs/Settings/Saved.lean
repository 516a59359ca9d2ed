/-
Saving and loading settings.

A configuration whose numbers a document can hold is written as four tables of plain values, which are read back as they
were written (`read_written`) and give every setting (`in_sections`). So what was saved is loaded again
(`parse_written`), with each path as the text that shows it (`rewritten`). A greater number is found before anything is
written.

`settings_kept` collects what saving and loading keep. A section that stands in a document under both of its names is
refused (`both_names_refused`).
-/
import CodeSurvey.Proofs.Project.Writing
import CodeSurvey.Proofs.Settings.Given
import CodeSurvey.Proofs.Toml.Documents

namespace CodeSurvey

open Toml (Value)

namespace Config

/-- the greatest number that a document can hold, one less than the 63rd power of two -/
def greatestNumber : Nat := 9223372036854775807

/-- the numbers of a configuration -/
def numbers (c : Config) : List Nat :=
  [c.structures.maxClasses, c.structures.packageCap, c.structures.scanDepth,
    c.execution.compileTimeoutMinutes.toNat, c.execution.maxWorkers, c.execution.maxClasspathJars]

/-- the configuration with each path given by its text alone: the same paths, as they are written -/
def rewritten (c : Config) : Config :=
  { c with
    general := { c.general with outputDir := .ofText c.general.outputDir.text }
    execution := { c.execution with
      dependencyCacheDirs := c.execution.dependencyCacheDirs.map fun p => .ofText p.text } }

/-- the settings of a configuration, all of them given -/
def given (c : Config) : Given where
  outputDir := some c.general.outputDir.text
  autoTune := some c.general.autoTune
  maxClasses := some c.structures.maxClasses
  packageCap := some c.structures.packageCap
  scanDepth := some c.structures.scanDepth
  compileTimeoutMinutes := some c.execution.compileTimeoutMinutes
  detectMultiModule := some c.execution.detectMultiModule
  maxWorkers := some c.execution.maxWorkers
  useMavenWrapper := some c.execution.useMavenWrapper
  useGradleWrapper := some c.execution.useGradleWrapper
  fallbackToJavac := some c.execution.fallbackToJavac
  cleanBeforeCompile := some c.execution.cleanBeforeCompile
  skipTests := some c.execution.skipTests
  dependencyCacheDirs := some (c.execution.dependencyCacheDirs.map FilePath.text)
  maxClasspathJars := some c.execution.maxClasspathJars
  enabled := some c.sequence.enabled
  ignorePatterns := some c.sequence.ignorePatterns

/-- the disk after a configuration was saved, or could not be -/
def afterSave (c : Config) (d : Disk) (p : FilePath) : Disk :=
  match c.save d p with
  | .ok d' => d'
  | .error _ => d

/-! ## What is written -/

theorem config_given (c : Config) : c.given.config = c.rewritten := by
  simp [given, Given.config, rewritten, Function.comp_def]

theorem given_rewritten (c : Config) : c.rewritten.given = c.given := by
  simp [given, rewritten, FilePath.ofText, FilePath.text]

theorem rewritten_of_texts {c : Config} (h : c.general.outputDir.names = [])
    (h' : ∀ p ∈ c.execution.dependencyCacheDirs, p.names = []) : c.rewritten = c := by
  have htext : ∀ p : FilePath, p.names = [] → FilePath.ofText p.text = p := by
    rintro ⟨head, names⟩ rfl
    rfl
  have hdirs : (c.execution.dependencyCacheDirs.map fun p => FilePath.ofText p.text) =
      c.execution.dependencyCacheDirs :=
    (List.map_congr_left fun p hp => htext p (h' p hp)).trans (List.map_id _)
  rw [rewritten, htext _ h, hdirs]

theorem inRange_iff (n : Nat) : Toml.inRange n = true ↔ n ≤ greatestNumber := by
  simp only [Toml.inRange, greatestNumber, Bool.and_eq_true, decide_eq_true_eq]
  omega

theorem fits_iff (c : Config) : c.fits = true ↔ ∀ n ∈ c.numbers, n ≤ greatestNumber := by
  simp [fits, sections, numbers, count, Value.fits, inRange_iff, and_assoc]

/-- a name and keys that are written without quotes, none of the keys twice -/
def Plainly (named : String × List String) : Prop :=
  Toml.BareKey named.1 ∧ (∀ k ∈ named.2, Toml.BareKey k) ∧ named.2.Nodup

instance (named : String × List String) : Decidable (Plainly named) := instDecidableAnd

/-- names and keys are the same for every configuration -/
theorem plainly_sections (c : Config) : ∀ t ∈ c.sections, Plainly (t.1, t.2.map Prod.fst) := by
  have hsame : c.sections.map (fun t => (t.1, t.2.map Prod.fst)) =
      default.sections.map (fun t => (t.1, t.2.map Prod.fst)) := rfl
  have hplainly : ∀ named ∈ default.sections.map (fun t => (t.1, t.2.map Prod.fst)), Plainly named := by decide
  exact fun t ht => hplainly _ (hsame ▸ List.mem_map_of_mem ht)

theorem kept_sections {c : Config} (h : ∀ n ∈ c.numbers, n ≤ greatestNumber) :
    ∀ t ∈ c.sections, ∀ e ∈ t.2, e.2.Kept := by
  have hcount : ∀ n ∈ c.numbers, (count n).Kept := fun n hn =>
    (Value.kept_integer n).2 ((inRange_iff n).2 (h n hn))
  simp only [numbers, List.forall_mem_cons] at hcount
  have htexts : (Value.array (c.sequence.ignorePatterns.map .text)).Kept := Value.kept_texts id _
  simp only [sections, List.forall_mem_cons, hcount, htexts, Value.kept_text, Value.kept_boolean, Value.kept_texts]
  simp

/-- the entries of a document of tables -/
def entriesOf (tables : List Toml.Named) : List (String × Value) := tables.map fun t => (t.1, .table t.2)

theorem tables_entriesOf (tables : List Toml.Named) (e : String × Value) (he : e ∈ entriesOf tables) :
    ∃ part, e.2 = .table part := by
  obtain ⟨t, -, rfl⟩ := List.mem_map.1 he
  exact ⟨t.2, rfl⟩

/-- tables of plain values are read back as they were written -/
theorem read_written {tables : List Toml.Named} (hplainly : ∀ t ∈ tables, Plainly (t.1, t.2.map Prod.fst))
    (hkept : ∀ t ∈ tables, ∀ e ∈ t.2, e.2.Kept) (hnames : (tables.map Prod.fst).Nodup) :
    Toml.read? (Toml.writtenTables tables) = some (entriesOf tables) :=
  Toml.read?_writtenTables
    (fun t ht => ⟨(hplainly t ht).1, (hplainly t ht).2.1, hkept t ht, (hplainly t ht).2.2⟩) hnames

/-- a text is parsed as its table is -/
theorem parse_of_read {text : String} {entries : List (String × Value)} (h : Toml.read? text = some entries) :
    parse text = (ofTable entries).elim (.error (.configuration text)) .ok := by
  have htable : (Toml.read? text).bind ofTable = ofTable entries := by rw [h, Option.bind_some]
  delta parse
  rw [htable]
  cases ofTable entries <;> rfl

theorem in_sections (c : Config) : c.given.In (entriesOf c.sections) := by
  have hdirs : textList (c.execution.dependencyCacheDirs.map FilePath.text) =
      .array (c.execution.dependencyCacheDirs.map fun p => .text p.text) := by
    rw [textList, List.map_map]
    rfl
  constructor
  case tables => exact fun e he _ => tables_entriesOf _ e he
  case general => exact ⟨rfl, rfl⟩
  case structures => exact ⟨rfl, rfl, rfl⟩
  case execution =>
    exact ⟨rfl, rfl, rfl, rfl, rfl, rfl, rfl, rfl, congrArg (fun v => [v]) hdirs.symm, rfl⟩
  case sequence => exact ⟨rfl, rfl⟩

/-- **What is written of a configuration is read as this configuration.** -/
theorem parse_written {c : Config} (h : ∀ n ∈ c.numbers, n ≤ greatestNumber) :
    parse (Toml.writtenTables c.sections) = .ok c.rewritten := by
  have hnames : c.sections.map Prod.fst = ["general", "structure", "execution", "sequence"] := rfl
  have hkeys : (entriesOf c.sections).map Prod.fst = ["general", "structure", "execution", "sequence"] := rfl
  have hread := read_written (plainly_sections c) (kept_sections h) (by rw [hnames]; decide)
  have htable := ofTable_given (in_sections c) (Toml.distinct_of_read hread) (by rw [hkeys]; decide)
  rw [parse_of_read hread, htable, Option.elim_some, config_given]

/-! ## Files -/

theorem load_of_readText {d : Disk} {p : FilePath} {text : String} (h : d.readText p = .ok text) :
    load d p = parse text := by
  rw [load, h]

/-- a configuration whose numbers a document can hold is written -/
theorem save_of_numbers {c : Config} (h : ∀ n ∈ c.numbers, n ≤ greatestNumber) (d : Disk) (p : FilePath) :
    c.save d p = (d.write p (Text.encode (Toml.writtenTables c.sections))).mapError .io := by
  have hrender : c.render = .ok (Toml.writtenTables c.sections) := if_pos ((fits_iff c).2 h)
  rw [save, hrender]
  dsimp only [bind, Except.bind]
  cases d.write p (Text.encode (Toml.writtenTables c.sections)) <;> rfl

/-- one that holds a greater number is not -/
theorem save_of_greater {c : Config} {n : Nat} (hn : n ∈ c.numbers) (h : greatestNumber < n) (d : Disk) (p : FilePath) :
    c.save d p = .error (.configuration "out-of-range value") := by
  have hrender : c.render = .error (.configuration "out-of-range value") :=
    if_neg fun hfits => absurd ((fits_iff c).1 hfits n hn) (Nat.not_le.2 h)
  rw [save, hrender]
  rfl

/-- **What saving and loading keep.** A configuration whose numbers a document can hold is written as a text that is
loaded as the same configuration, wherever it stands, so also from where it was saved if that keeps what is written:
with the same settings, and as the very same value if its paths were given as texts. A document that gives settings, in
sections of which none stands under two names, is loaded as these settings with the default for every other one; with a
section under two names it is refused. With a greater number nothing is saved, and the disk stays as it was. -/
theorem settings_kept :
    (∀ c : Config, c.rewritten.given = c.given ∧
      (c.general.outputDir.names = [] → (∀ p ∈ c.execution.dependencyCacheDirs, p.names = []) → c.rewritten = c)) ∧
    (∀ c : Config, (∀ n ∈ c.numbers, n ≤ greatestNumber) → ∃ text,
      (∀ d p, c.save d p = (d.write p (Text.encode text)).mapError .io) ∧
      (∀ d p, d.readText p = .ok text → load d p = .ok c.rewritten) ∧
      ∀ d d' p, c.save d p = .ok d' → d.tree.entryAt? (d.target p) ≠ some .void → load d' p = .ok c.rewritten) ∧
    (∀ (d : Disk) p text entries, d.readText p = .ok text → Toml.read? text = some entries →
      (¬ ("structure" ∈ entries.map Prod.fst ∧ "uml" ∈ entries.map Prod.fst) →
        ∀ g : Given, g.In entries → load d p = .ok g.config) ∧
      ("structure" ∈ entries.map Prod.fst → "uml" ∈ entries.map Prod.fst →
        load d p = .error (.configuration text))) ∧
    ∀ (c : Config) d p, (∃ n ∈ c.numbers, greatestNumber < n) →
      (∃ why, c.save d p = .error (.configuration why)) ∧ c.afterSave d p = d := by
  refine ⟨fun c => ⟨given_rewritten c, rewritten_of_texts⟩,
    fun c h => ⟨Toml.writtenTables c.sections, save_of_numbers h, ?_, ?_⟩, ?_, ?_⟩
  · intro d p hread
    rw [load_of_readText hread, parse_written h]
  · intro d d' p hsave hkept
    rw [save_of_numbers h] at hsave
    cases hwrite : d.write p (Text.encode (Toml.writtenTables c.sections)) with
    | error fault =>
      rw [hwrite] at hsave
      cases hsave
    | ok written =>
      rw [hwrite] at hsave
      obtain rfl := Except.ok.inj hsave
      rw [load_of_readText (Disk.readText_write hwrite hkept), parse_written h]
  · intro d p text entries hread htable
    rw [load_of_readText hread, parse_of_read htable]
    constructor
    · intro hone g hgives
      rw [ofTable_given hgives (Toml.distinct_of_read htable) hone, Option.elim_some]
    · intro hstructure huml
      rw [ofTable_of_both hstructure huml, Option.elim_none]
  · rintro c d p ⟨n, hn, hgreater⟩
    have hsave := save_of_greater hn hgreater d p
    exact ⟨⟨_, hsave⟩, by rw [afterSave, hsave]⟩

/-! ## Two documents -/

/-- a disk with one file of settings in its working directory -/
def diskWith (text : String) : Disk where
  tree := FileTree.empty.put ["strata.toml"] (.file (Text.encode text))
  here := []
  home := none
  programs := []
  temp := []
  executable := []

def settingsPath : FilePath := .ofText "strata.toml"

/-- settings under other names, and a key that is no setting -/
def renamedTables : List Toml.Named :=
  [("uml", [("limit_classes", .integer 10), ("author", .text "x")]), ("execution", [("timeout_minutes", .integer 3)]),
    ("sequence", [("ignore_list", textList ["audit"])])]

def renamed : String :=
  "[uml]\nlimit_classes = 10\nauthor = \"x\"\n\n[execution]\ntimeout_minutes = 3\n\n" ++
    "[sequence]\nignore_list = [\"audit\"]\n"

def renamedGiven : Given where
  maxClasses := some 10
  compileTimeoutMinutes := some 3
  ignorePatterns := some ["audit"]

/-- a section under both of its names, each of its settings once -/
def bothTables : List Toml.Named :=
  [("structure", [("max_classes", .integer 10)]), ("uml", [("package_cap", .integer 20)])]

def both : String := "[structure]\nmax_classes = 10\n\n[uml]\npackage_cap = 20\n"

def bothGiven : Given where
  maxClasses := some 10
  packageCap := some 20

/-- the file of settings can be written -/
theorem write_settings (text : String) (content : Text.Bytes) :
    ∃ d, (diskWith text).write settingsPath content = .ok d := by
  have hhead : (settingsPath.names.isEmpty && Text.endsWith settingsPath.head "/") = false := by decide
  have hlocate : (diskWith text).locate settingsPath = .ok ["strata.toml"] := rfl
  have hdirectory : (diskWith text).tree.requireDirectory [] = .ok () := rfl
  have hplace : (diskWith text).tree.entryAt? ["strata.toml"] = some (.file (Text.encode text)) := rfl
  obtain ⟨t, hwritten⟩ : ∃ t, (diskWith text).tree.writeFile ["strata.toml"] content = .ok t :=
    ⟨_, FileTree.writeFile_ok_iff.2 ⟨List.cons_ne_nil _ _, hdirectory, by simp [hplace], rfl⟩⟩
  exact ⟨_, Disk.write_ok_iff.2 ⟨hhead, _, t, hlocate, hwritten, rfl⟩⟩

theorem read_renamed : Toml.read? renamed = some (entriesOf renamedTables) := by
  have hwritten : Toml.writtenTables renamedTables = renamed := by decide +kernel
  rw [← hwritten]
  refine read_written (by decide) ?_ (by decide)
  have htexts : (textList ["audit"]).Kept := Value.kept_texts id _
  simp only [renamedTables, List.forall_mem_cons, Value.kept_integer, Value.kept_text, htexts]
  simp [Toml.inRange]

theorem read_both : Toml.read? both = some (entriesOf bothTables) := by
  have hwritten : Toml.writtenTables bothTables = both := by decide +kernel
  rw [← hwritten]
  exact read_written (by decide) (by simp [bothTables, Toml.inRange]) (by decide)

theorem renamed_in : renamedGiven.In (entriesOf renamedTables) where
  tables := fun e he _ => tables_entriesOf _ e he
  general := ⟨rfl, rfl⟩
  structures := ⟨rfl, rfl, rfl⟩
  execution := ⟨rfl, rfl, rfl, rfl, rfl, rfl, rfl, rfl, rfl, rfl⟩
  sequence := ⟨rfl, rfl⟩

theorem both_in : bothGiven.In (entriesOf bothTables) where
  tables := fun e he _ => tables_entriesOf _ e he
  general := ⟨rfl, rfl⟩
  structures := ⟨rfl, rfl, rfl⟩
  execution := ⟨rfl, rfl, rfl, rfl, rfl, rfl, rfl, rfl, rfl, rfl⟩
  sequence := ⟨rfl, rfl⟩

/-- Saved defaults are loaded again, settings under other names are taken, and a number that is too great is not
saved. -/
theorem settings_kept_renamed :
    (∃ d, default.save (diskWith "") settingsPath = .ok d ∧ load d settingsPath = .ok default.rewritten) ∧
      load (diskWith renamed) settingsPath = .ok renamedGiven.config ∧
      { default with structures := ⟨greatestNumber + 1, 1, 1⟩ }.afterSave (diskWith renamed) settingsPath =
        diskWith renamed := by
  obtain ⟨-, hsaved, hloaded, hgreater⟩ := settings_kept
  refine ⟨?_, ?_, ?_⟩
  · obtain ⟨text, hsave, -, hback⟩ := hsaved default (by decide)
    obtain ⟨d, hwrite⟩ := write_settings "" (Text.encode text)
    have hsave' : default.save (diskWith "") settingsPath = .ok d := by
      rw [hsave, hwrite]
      rfl
    exact ⟨d, hsave', hback _ _ _ hsave' (by decide +kernel)⟩
  · exact (hloaded _ _ renamed _ (by decide +kernel) read_renamed).1 (by decide) renamedGiven renamed_in
  · exact (hgreater _ _ _ ⟨greatestNumber + 1, by simp [numbers], Nat.lt_succ_self _⟩).2

/-- **A section under both of its names is refused**, also where each setting stands once. -/
theorem both_names_refused :
    (diskWith both).readText settingsPath = .ok both ∧ Toml.read? both = some (entriesOf bothTables) ∧
      bothGiven.In (entriesOf bothTables) ∧ load (diskWith both) settingsPath = .error (.configuration both) :=
  ⟨by decide +kernel, read_both, both_in, by decide +kernel⟩

end Config

end CodeSurvey
