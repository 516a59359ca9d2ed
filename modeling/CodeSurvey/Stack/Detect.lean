/-
What a project is made with.

A project is described by the shallowest Maven description below its root, else by the shallowest Gradle script, else by
the packages and classes that lie there; an archive describes itself. What cannot be read gives an empty summary. The
sources of a project tell its architecture, by the first file that bears a mark, and libraries that no description
names.
-/
import CodeSurvey.Archive.Zip
import CodeSurvey.Source.Files
import CodeSurvey.Stack.BuildScript
import CodeSurvey.Stack.Package
import CodeSurvey.Stack.Pom

namespace CodeSurvey

open Text

/-- how deep descriptions are looked for -/
def descriptionDepth : Nat := 4

/-- marks in sources and the architecture that they show, in the order in which they count -/
def architectureMarks : List (List String × String) :=
  [(["@RestController", "@SpringBootApplication"], "Spring Boot"),
    (["org.camunda", "ProcessEngine"], "Camunda BPM"),
    (["camelContext", "RouteBuilder"], "Apache Camel"),
    (["@FeignClient"], "Feign Client"),
    (["@EJB", "@Stateless", "@Stateful", "SessionBean"], "EJB / Java EE"),
    (["extends HttpServlet", "@WebServlet"], "Servlet / JEE"),
    (["jakarta.persistence", "@Entity"], "Jakarta EE / JPA")]

/-- the architecture without a mark -/
def plainArchitecture : String := "Plain Java"

/-- imports and the library that they show -/
def libraryImports : List (String × String) :=
  [("import lombok.", "lombok"), ("import org.slf4j.", "slf4j"), ("import org.apache.log4j.", "log4j"),
    ("import org.junit.", "junit"), ("import org.mockito.", "mockito"), ("import org.hibernate.", "hibernate"),
    ("import org.camunda.", "camunda"), ("import org.apache.camel.", "camel"), ("import feign.", "feign")]

/-- what describes a project, and where -/
inductive Description where
  | maven (directory : FilePath)
  | gradle (directory : FilePath)
  /-- an archive, or a directory with what was in one -/
  | package (path : FilePath)
  deriving DecidableEq, Repr

namespace Description

def kind : Description → ProjectKind
  | maven _ => .maven
  | gradle _ => .gradle
  | package _ => .jar

/-- where the description lies -/
def place : Description → FilePath
  | maven directory => directory
  | gradle directory => directory
  | package path => path

end Description

/-- the text ends in the name of an archive -/
def isArchiveName (p : FilePath) : Bool :=
  match p.extension with
  | some e => eqIgnoreAsciiCase e "jar" || eqIgnoreAsciiCase e "war"
  | none => false

/-- the first of the items with the least depth -/
def shallowest : List Disk.Item → Option Disk.Item
  | [] => none
  | i :: items =>
    match shallowest items with
    | some j => some (if j.depth < i.depth then j else i)
    | none => some i

namespace Disk

/-- the shallowest file below the root with one of the names, up to ASCII case -/
def findFile (d : Disk) (root : FilePath) (names : List String) : Option Item :=
  shallowest <| (d.walkTo descriptionDepth root).filter fun i =>
    i.entry.isFile && names.any (eqIgnoreAsciiCase (i.name root))

/-- the name of something that was compiled -/
def isArtifactName (name : String) : Bool :=
  endsWith name ".class" || endsWith name ".jar" || name == "MANIFEST.MF"

/-- something compiled lies within three levels -/
def hasArtifacts (d : Disk) (root : FilePath) : Bool :=
  (d.walkTo 3 root).any fun i => isArtifactName (i.name root)

/-- the names of Gradle scripts -/
def scriptNames : List String := ["build.gradle", "build.gradle.kts"]

/-- the directory of an item below the path -/
def directoryOf (path : FilePath) (i : Item) : FilePath :=
  if i.names.length ≤ 1 then path.trimmed else path.descend i.names.dropLast

/-- what describes the project at the path -/
def description (d : Disk) (path : FilePath) : Option Description :=
  if d.isFile path then if isArchiveName path then some (.package path) else none
  else
    match d.findFile path ["pom.xml"] with
    | some i => some (.maven (directoryOf path i))
    | none =>
      match d.findFile path scriptNames with
      | some i => some (.gradle (directoryOf path i))
      | none => if d.hasArtifacts path then some (.package path) else none

/-- a text file of the project -/
def textOf (d : Disk) (p : FilePath) : Except SurveyError String :=
  match d.readText p with
  | .ok s => .ok s
  | .error fault => .error (.io fault)

/-- the manifest in an archive, if it has one that can be opened -/
def manifestInArchive (bytes : Bytes) (entries : List Zip.Entry) : Except SurveyError (Option String) :=
  match (entries.reverse.find? (·.name == Package.manifestName)).bind fun e => (Zip.stored? bytes e).map (e, ·) with
  | none => .ok none
  | some (e, stored) =>
    match Zip.unpack? e stored with
    | none => .error (.io (.other "damaged archive"))
    | some content =>
      match decode? content with
      | some text => .ok (some text)
      | none => .error (.io .notUtf8)

/-- the package in an archive -/
def packageInArchive (d : Disk) (path : FilePath) : Except SurveyError Package :=
  match d.readBytes path with
  | .error fault => .error (.io fault)
  | .ok bytes =>
    match Zip.listing? bytes with
    | none => .error (.descriptor "no archive")
    | some entries => (manifestInArchive bytes entries).map fun manifest => ⟨manifest, entries.map (·.name)⟩

/-- the package whose entries lie below a directory -/
def packageInDirectory (d : Disk) (root : FilePath) : Except SurveyError Package := do
  let files := (d.walkTo 6 root).filter (·.entry.isFile)
  let entry := fun (i : Item) => replace (joined "/" i.names) "\\" "/"
  let manifest ← match files.find? fun i => endsWith (entry i) Package.manifestName with
    | some i => (d.textOf (i.path root)).map some
    | none => .ok none
  .ok ⟨manifest, files.map entry⟩

/-- the script in a directory -/
def scriptIn (d : Disk) (directory : FilePath) : FilePath :=
  if d.exists? (directory.child "build.gradle") then directory.child "build.gradle"
  else directory.child "build.gradle.kts"

/-- the summary that a description gives -/
def summaryOf (d : Disk) : Description → Except SurveyError StackSummary
  | .maven directory => (d.textOf (directory.child "pom.xml")).bind Pom.summarize
  | .gradle directory => (d.textOf (d.scriptIn directory)).map BuildScript.summarize
  | .package path =>
    (if d.isFile path then d.packageInArchive path else d.packageInDirectory path).map Package.summary

/-! ## What sources tell -/

/-- the texts of the source files below the root that can be read -/
def sourceTexts (d : Disk) (root : FilePath) : List String :=
  (d.javaFiles root).filterMap fun p => (d.sourceText p).toOption

/-- the architecture that a source shows -/
def architectureOfText (text : String) : Option String :=
  (architectureMarks.find? fun m => m.1.any (contains text)).map (·.2)

/-- the architecture that the first marked source shows -/
def architecture (d : Disk) (root : FilePath) : String :=
  ((d.sourceTexts root).findSome? architectureOfText).getD plainArchitecture

/-- the libraries that imports show, each as a dependency -/
def importedLibraries (d : Disk) (root : FilePath) : Dependencies :=
  let texts := d.sourceTexts root
  .ofList ((libraryImports.filter fun l => texts.any (contains · l.1)).map fun l => ("source:" ++ l.2, "detected"))

/-- the summary of the project at the path -/
def stackSummary (d : Disk) (path : FilePath) : StackSummary :=
  if !d.exists? path then .empty .notFound
  else
    let s :=
      match d.description path with
      | none => .empty .unknown
      | some description => (d.summaryOf description).toOption.getD (.empty .unreadable)
    if d.isDirectory path then
      { s with
        architecture := some (d.architecture path)
        dependencies := (d.importedLibraries path).entries.foldl (fun t e => t.insertNew e.1 e.2) s.dependencies }
    else s

end Disk

end CodeSurvey
