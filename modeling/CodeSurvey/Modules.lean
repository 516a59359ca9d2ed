/-
Modules of a project.

A project is split into the directories of its first two levels that can be built on their own. A directory inside one
of them belongs to it, and directories that hold output are not looked into. Fewer than two such directories make no
split: then the project is one module.
-/
import CodeSurvey.FileTree

namespace CodeSurvey

open Text

/-- a unit that is built on its own -/
structure ModuleRoot where
  name : String
  path : FilePath
  deriving DecidableEq, Repr

/-- files that describe a build -/
def buildFiles : List String := ["pom.xml", "build.gradle", "build.gradle.kts"]

/-- directories that hold no modules -/
def outputDirectories : List String := ["target", "build", "out", "bin", "node_modules"]

/-- a directory below the root that is never looked into -/
def isPassedOver (i : Disk.Item) : Bool :=
  i.entry.isDirectory &&
    match i.names.getLast? with
    | some name => startsWith name "." || outputDirectories.contains name
    | none => false

/-- the name of the last directory of a path -/
def moduleName (p : FilePath) : String := p.fileName.getD "root"

/-- the name of a module by its path from the project's root -/
def relativeName (root p : FilePath) : String :=
  match p.textBelow? root with
  | some s => replace s "\\" "/"
  | none => moduleName p

namespace Disk

/-- the directory has a build description or a source root -/
def isBuildable (d : Disk) (directory : FilePath) : Bool :=
  buildFiles.any (fun name => d.isFile (directory.child name)) || d.isDirectory (directory.child "src")

/-- the items with one more, unless it lies in one of them -/
def absorb (found : List Item) (i : Item) : List Item :=
  if found.any fun f => f.names.isPrefixOf i.names then found else found ++ [i]

/-- the buildable directories of the first two levels, none inside another -/
def buildableDirectories (d : Disk) (root : FilePath) : List Item :=
  ((pruned isPassedOver (d.walkTo 2 root)).filter fun i =>
    1 ≤ i.depth && i.entry.isDirectory && d.isBuildable (i.path root)).foldl absorb []

/-- the modules of a project, split only where `detect` says so -/
def modules (d : Disk) (detect : Bool) (root : FilePath) : Except SurveyError (List ModuleRoot) :=
  if !d.isDirectory root then .error (.resourceNotFound root)
  else
    let found := if detect then d.buildableDirectories root else []
    if found.length < 2 then .ok [⟨moduleName root, root⟩]
    else .ok (found.map fun i => ⟨relativeName root (i.path root), i.path root⟩)

end Disk

end CodeSurvey
