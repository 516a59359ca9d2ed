/-
Settings of a survey.

A configuration has four sections; every setting has a default and some have a second name. `ofTable` takes the
settings from a table and refuses values of the wrong kind and settings given twice; `sections` is the other way. A
configuration is loaded from text and saved as text; one that holds a number beyond the range of documents cannot be
saved.
-/
import CodeSurvey.FileTree
import CodeSurvey.Toml.Reader
import CodeSurvey.Toml.Writer

namespace CodeSurvey

open Toml (Value)

structure GeneralSettings where
  /-- the directory that reports are written to -/
  outputDir : FilePath
  /-- adjust settings to each project before it is analyzed -/
  autoTune : Bool
  deriving DecidableEq, Repr

structure StructureSettings where
  /-- the most classes in one graph -/
  maxClasses : Nat
  /-- the most packages that are looked into -/
  packageCap : Nat
  /-- how deep compiled classes are looked for -/
  scanDepth : Nat
  deriving DecidableEq, Repr

structure ExecutionSettings where
  /-- how long one build may take, in minutes -/
  compileTimeoutMinutes : UInt64
  /-- split a project into modules -/
  detectMultiModule : Bool
  /-- the most modules worked on at once -/
  maxWorkers : Nat
  useMavenWrapper : Bool
  useGradleWrapper : Bool
  /-- compile directly when build tools fail -/
  fallbackToJavac : Bool
  cleanBeforeCompile : Bool
  skipTests : Bool
  /-- where libraries are looked for; none means the usual places -/
  dependencyCacheDirs : List FilePath
  /-- the most jars on a guessed class path -/
  maxClasspathJars : Nat
  deriving DecidableEq, Repr

structure SequenceSettings where
  /-- trace sequences at all -/
  enabled : Bool
  /-- patterns of method names that never become edges -/
  ignorePatterns : List String
  deriving DecidableEq, Repr

structure Config where
  general : GeneralSettings
  structures : StructureSettings
  execution : ExecutionSettings
  sequence : SequenceSettings
  deriving DecidableEq, Repr

namespace Config

def defaultPatterns : List String :=
  ["get.*", "set.*", "to.*", "from.*", "equals", "hashcode", "tostring", "builder", "mapstruct.*", "trace", "debug",
    "info", "warn", "error", "logger", "valid.*", "validate.*", "check.*", ".*dto.*", ".*entity.*", ".*converter.*",
    ".*util.*"]

def default : Config where
  general := ⟨.ofText "strata-output", false⟩
  structures := ⟨500, 150, 4⟩
  execution :=
    { compileTimeoutMinutes := 5, detectMultiModule := true, maxWorkers := 2, useMavenWrapper := true,
      useGradleWrapper := true, fallbackToJavac := true, cleanBeforeCompile := true, skipTests := true,
      dependencyCacheDirs := [], maxClasspathJars := 400 }
  sequence := ⟨true, defaultPatterns⟩

/-! ## Reading -/

/-- the one value under a setting's names; a setting given twice is refused -/
def valueOf? (entries : List (String × Value)) (names : List String) : Option (Option Value) :=
  match entries.filter fun e => names.contains e.1 with
  | [] => some none
  | [e] => some (some e.2)
  | _ => none

/-- the value of each setting of a section; a section may also be written as the list of its values in order -/
def settings? (names : List (List String)) : Value → Option (List (Option Value))
  | .table entries => names.mapM (valueOf? entries)
  | .array items => some ((List.range names.length).map fun i => items[i]?)
  | .date _ => some (names.map fun _ => none)
  | _ => none

/-- the value of a setting, or its default -/
def take {α : Type} (read : Value → Option α) (standard : α) : Option Value → Option α
  | none => some standard
  | some v => read v

def readBool : Value → Option Bool
  | .boolean b => some b
  | _ => none

def readCount : Value → Option Nat
  | .integer n => if 0 ≤ n then some n.toNat else none
  | _ => none

def readText : Value → Option String
  | .text s => some s
  | _ => none

def readPath (v : Value) : Option FilePath := (readText v).map .ofText

def readList {α : Type} (read : Value → Option α) : Value → Option (List α)
  | .array items => items.mapM read
  | _ => none

def generalNames : List (List String) := [["output_dir"], ["auto_tune"]]

def structureNames : List (List String) :=
  [["max_classes", "max_class_count", "limit_classes"], ["package_cap", "max_packages"],
    ["scan_depth", "max_scan_depth"]]

def executionNames : List (List String) :=
  [["compile_timeout_minutes", "compile_timeout", "timeout_minutes"], ["detect_multi_module"], ["max_workers"],
    ["use_maven_wrapper"], ["use_gradle_wrapper"], ["fallback_to_javac", "fallback_to_java_compiler"],
    ["clean_before_compile"], ["skip_tests"], ["dependency_cache_dirs"], ["max_classpath_jars"]]

def sequenceNames : List (List String) :=
  [["enabled"], ["ignore_patterns", "ignored_patterns", "ignore_list"]]

def sectionNames : List (List String) :=
  [["general"], ["structure", "uml"], ["execution"], ["sequence"]]

def readGeneral (v : Value) : Option GeneralSettings := do
  let d := default.general
  match ← settings? generalNames v with
  | [outputDir, autoTune] =>
    return ⟨← take readPath d.outputDir outputDir, ← take readBool d.autoTune autoTune⟩
  | _ => none

def readStructure (v : Value) : Option StructureSettings := do
  let d := default.structures
  match ← settings? structureNames v with
  | [classes, packages, depth] =>
    return ⟨← take readCount d.maxClasses classes, ← take readCount d.packageCap packages,
      ← take readCount d.scanDepth depth⟩
  | _ => none

def readExecution (v : Value) : Option ExecutionSettings := do
  let d := default.execution
  match ← settings? executionNames v with
  | [minutes, detect, workers, maven, gradle, javac, clean, tests, caches, jars] =>
    return {
      compileTimeoutMinutes := ← take (fun v => (readCount v).map UInt64.ofNat) d.compileTimeoutMinutes minutes
      detectMultiModule := ← take readBool d.detectMultiModule detect
      maxWorkers := ← take readCount d.maxWorkers workers
      useMavenWrapper := ← take readBool d.useMavenWrapper maven
      useGradleWrapper := ← take readBool d.useGradleWrapper gradle
      fallbackToJavac := ← take readBool d.fallbackToJavac javac
      cleanBeforeCompile := ← take readBool d.cleanBeforeCompile clean
      skipTests := ← take readBool d.skipTests tests
      dependencyCacheDirs := ← take (readList readPath) d.dependencyCacheDirs caches
      maxClasspathJars := ← take readCount d.maxClasspathJars jars }
  | _ => none

def readSequence (v : Value) : Option SequenceSettings := do
  let d := default.sequence
  match ← settings? sequenceNames v with
  | [enabled, patterns] =>
    return ⟨← take readBool d.enabled enabled, ← take (readList readText) d.ignorePatterns patterns⟩
  | _ => none

/-- the configuration that a table describes -/
def ofTable (entries : List (String × Value)) : Option Config := do
  match ← settings? sectionNames (.table entries) with
  | [general, structures, execution, sequence] =>
    return ⟨← take readGeneral default.general general, ← take readStructure default.structures structures,
      ← take readExecution default.execution execution, ← take readSequence default.sequence sequence⟩
  | _ => none

/-- the configuration that a text describes -/
def parse (text : String) : Except SurveyError Config :=
  match (Toml.read? text).bind ofTable with
  | some c => .ok c
  | none => .error (.configuration text)

/-! ## Writing -/

def count (n : Nat) : Value := .integer n

/-- the sections of a configuration with their settings -/
def sections (c : Config) : List (String × List (String × Value)) :=
  [("general",
      [("output_dir", .text c.general.outputDir.text), ("auto_tune", .boolean c.general.autoTune)]),
    ("structure",
      [("max_classes", count c.structures.maxClasses), ("package_cap", count c.structures.packageCap),
        ("scan_depth", count c.structures.scanDepth)]),
    ("execution",
      [("compile_timeout_minutes", count c.execution.compileTimeoutMinutes.toNat),
        ("detect_multi_module", .boolean c.execution.detectMultiModule),
        ("max_workers", count c.execution.maxWorkers),
        ("use_maven_wrapper", .boolean c.execution.useMavenWrapper),
        ("use_gradle_wrapper", .boolean c.execution.useGradleWrapper),
        ("fallback_to_javac", .boolean c.execution.fallbackToJavac),
        ("clean_before_compile", .boolean c.execution.cleanBeforeCompile),
        ("skip_tests", .boolean c.execution.skipTests),
        ("dependency_cache_dirs", .array (c.execution.dependencyCacheDirs.map fun p => .text p.text)),
        ("max_classpath_jars", count c.execution.maxClasspathJars)]),
    ("sequence",
      [("enabled", .boolean c.sequence.enabled),
        ("ignore_patterns", .array (c.sequence.ignorePatterns.map .text))])]

/-- every number of the configuration fits into a document -/
def fits (c : Config) : Bool := c.sections.all fun s => s.2.all fun e => e.2.fits

/-- the configuration as text -/
def render (c : Config) : Except SurveyError String :=
  if c.fits then .ok (Toml.writtenTables c.sections)
  else .error (.configuration "out-of-range value")

/-! ## Files -/

/-- the configuration in a file -/
def load (d : Disk) (p : FilePath) : Except SurveyError Config :=
  match d.readText p with
  | .ok text => parse text
  | .error fault => .error (.io fault)

/-- the disk with the configuration in a file -/
def save (c : Config) (d : Disk) (p : FilePath) : Except SurveyError Disk := do
  let text ← c.render
  match d.write p (Text.encode text) with
  | .ok d => .ok d
  | .error fault => .error (.io fault)

/-- names of configuration files in the working directory, first one first -/
def candidates : List String := ["Strata.toml", "strata.toml", ".strata.toml"]

/-- the configuration in the given file or the first candidate that is there, else the default -/
def loadOrDefault (d : Disk) (p : Option FilePath) : Except SurveyError Config :=
  match p with
  | some p => if d.exists? p then load d p else .ok default
  | none =>
    match (candidates.map FilePath.ofText).find? d.exists? with
    | some p => load d p
    | none => .ok default

/-! ## What settings mean -/

/-- how long one build may take, in seconds: at least a minute -/
def compileTimeout (c : Config) : UInt64 := max c.execution.compileTimeoutMinutes 1 * 60

/-- where libraries are looked for -/
def dependencyCaches (c : Config) (home : Option FilePath) : List FilePath :=
  if !c.execution.dependencyCacheDirs.isEmpty then c.execution.dependencyCacheDirs
  else
    match home with
    | some home =>
      [home.descend [".m2", "repository"], home.descend [".gradle", "caches", "modules-2", "files-2.1"]]
    | none => []

end Config

end CodeSurvey
