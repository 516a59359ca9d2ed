/-
Graphs of compiled classes.

`classDirectories` finds where the compiled classes of a module lie: conventional places first, then directories named
for classes; none lies in or around another one. `extract` makes the graph: of the class files of the accepted
packages, in scan order, the standard classes become nodes until the limit is reached. A file that cannot be decoded
fails the scan, unless the limit was passed before it.
-/
import CodeSurvey.Classes.ClassFile
import CodeSurvey.Config

namespace CodeSurvey

open Text

/-- a class with its simple name, and what it extends and implements -/
structure ClassNode where
  name : String
  superclass : Option String
  interfaces : NameSet

/-- the classes of one module -/
structure ClassGraph where
  /-- in scan order -/
  classes : List ClassNode
  /-- the packages that were looked into -/
  packages : NameSet
  /-- more classes were there than the limit let in -/
  truncated : Bool

namespace ClassNode

/-- the last part of a name with slashes and dollar signs -/
def simpleName (name : String) : String :=
  String.ofList (((splitBy (fun c => c == '/' || c == '$') name.toList).getLast?).getD [])

/-- the superclass that says nothing -/
def trivialSuperclass : String := "java/lang/Object"

/-- the node of a class -/
def ofHeader (h : ClassHeader) : ClassNode where
  name := simpleName h.name
  superclass := (h.superclass.filter (· != trivialSuperclass)).map simpleName
  interfaces := .ofList (h.interfaces.map simpleName)

end ClassNode

namespace ClassGraph

/-- no class at all -/
def empty : ClassGraph := ⟨[], Ordered.empty, false⟩

/-- each class that extends another, with that one -/
def inheritance (g : ClassGraph) : List (String × String) :=
  g.classes.filterMap fun c => c.superclass.map fun s => (c.name, s)

/-- each class with each interface that it implements -/
def implementation (g : ClassGraph) : List (String × String) :=
  g.classes.flatMap fun c => c.interfaces.toList.map fun i => (c.name, i)

end ClassGraph

/-! ## Where classes lie -/

/-- conventional places of compiled classes in a module -/
def classPlaces : List String := ["target/classes", "build/classes/java/main", "bin"]

/-- an entry below the start of a walk whose name starts with a dot -/
def isHidden (i : Disk.Item) : Bool :=
  match i.names.getLast? with
  | some name => startsWith name "."
  | none => false

/-- one place is above the other or equal to it -/
def nested (a b : Place) : Bool := a.isPrefixOf b || b.isPrefixOf a

namespace Disk

/-- the class files below a directory, in walk order -/
def classFiles (d : Disk) (directory : FilePath) : List FilePath :=
  (((d.walk directory).filter (·.entry.isFile)).map (·.path directory)).filter fun p => p.extension == some "class"

/-- directories whose name says that they hold classes, not deeper than `depth` and not below hidden ones -/
def namedForClasses (d : Disk) (root : FilePath) (depth : Nat) : List FilePath :=
  ((pruned isHidden (d.walkTo depth root)).filter fun i =>
    i.entry.isDirectory && endsWith (i.name root) "classes").map (·.path root)

/-- where compiled classes may lie, in order of preference -/
def classCandidates (d : Disk) (root : FilePath) (depth : Nat) : List FilePath :=
  classPlaces.map root.join ++ d.namedForClasses root depth

/-- the found directories with one candidate more, if it holds class files and is nested with none of them -/
def addClassDirectory (d : Disk) (found : List FilePath) (candidate : FilePath) : List FilePath :=
  if d.isDirectory candidate && !(found.any fun f => nested (d.target f) (d.target candidate))
      && !(d.classFiles candidate).isEmpty then
    found ++ [candidate]
  else found

/-- the directories that hold the compiled classes of a module -/
def classDirectories (d : Disk) (root : FilePath) (depth : Nat) : List FilePath :=
  (d.classCandidates root depth).foldl d.addClassDirectory []

end Disk

/-! ## The graph -/

/-- the package of a class file: the directories between the classes' root and the file -/
def packageOf (root file : FilePath) : Option String := do
  match ← file.relativeTo? root with
  | [] => none
  | [.root] => none
  | steps => some (joined "." (steps.dropLast.map Component.text))

/-- files that hold no class of their own -/
def isDescriptorFile (p : FilePath) : Bool :=
  p.fileName == some "module-info.class" || p.fileName == some "package-info.class"

namespace ClassGraph

/-- the packages with one more, unless it is one too many -/
def addPackage (cap : Nat) (packages : NameSet) (package : String) : NameSet :=
  if packages.size ≥ cap && !packages.contains package then packages else packages.add package

/-- the class files of the directories with their packages, in scan order -/
def scan (d : Disk) (directories : List FilePath) : List (FilePath × Option String) :=
  directories.flatMap fun directory => (d.classFiles directory).map fun file => (file, packageOf directory file)

/-- the first packages met, at most `cap` -/
def acceptedPackages (d : Disk) (cap : Nat) (directories : List FilePath) : NameSet :=
  ((scan d directories).filterMap (·.2)).foldl (addPackage cap) Ordered.empty

/-- the files of accepted packages that hold a class -/
def accepted (d : Disk) (packages : NameSet) (directories : List FilePath) : List FilePath :=
  ((scan d directories).filter fun f => (f.2.map packages.contains).getD false && !isDescriptorFile f.1).map (·.1)

/-- the header in a file -/
def header (d : Disk) (file : FilePath) : Except SurveyError ClassHeader :=
  match d.readBytes file with
  | .error fault => .error (.classpathScan (file.text ++ ": " ++ fault.message))
  | .ok bytes =>
    match ClassFile.decode bytes with
    | .error fault => .error (.classpathScan (file.text ++ ": " ++ (SurveyError.classpathScan fault.message).message))
    | .ok h => .ok h

/-- the nodes of the standard classes in the files, at most `room`, and whether one more was there -/
def collect (read : FilePath → Except SurveyError ClassHeader) (room : Nat) :
    List FilePath → Except SurveyError (List ClassNode × Bool)
  | [] => .ok ([], false)
  | file :: files => do
    let h ← read file
    if !h.isStandard then collect read room files
    else
      match room with
      | 0 => .ok ([], true)
      | room + 1 =>
        let (nodes, truncated) ← collect read room files
        .ok (ClassNode.ofHeader h :: nodes, truncated)

/-- the graph of the classes in the directories -/
def extract (d : Disk) (settings : StructureSettings) (directories : List FilePath) :
    Except SurveyError ClassGraph := do
  let packages := acceptedPackages d settings.packageCap directories
  let (classes, truncated) ← collect (header d) settings.maxClasses (accepted d packages directories)
  .ok ⟨classes, packages, truncated⟩

end ClassGraph

end CodeSurvey
