/-
Source files of a disk.

A source file is read as UTF-8, or byte by byte where it is not. `Sources` is what a trace asks of the files of a
module: the normalized text of a file, and the file that declares a type. `classifyModule` gives each class found
below a source root its role; files that cannot be read or declare no type are passed over.
-/
import CodeSurvey.Ignore
import CodeSurvey.Role
import CodeSurvey.Source.Comments

namespace CodeSurvey

open Text

/-- what a trace asks of source files -/
structure Sources where
  /-- the normalized text of a file -/
  read : FilePath → Except SurveyError String
  /-- the file named for a type -/
  fileOfType : String → Option FilePath

namespace Disk

/-- the text of a source file -/
def sourceText (d : Disk) (p : FilePath) : Except SurveyError String :=
  match d.readBytes p with
  | .ok content => .ok (Source.textOfBytes content)
  | .error fault => .error (.sourceUnreadable p fault.message)

/-- the normalized text of a source file -/
def normalizedText (d : Disk) (p : FilePath) : Except SurveyError String :=
  (d.sourceText p).map Source.normalize

/-- the first file below the source root that is named for the type, up to ASCII case -/
def fileOfType (d : Disk) (root : FilePath) (type : String) : Option FilePath :=
  ((d.walk root).find? fun i => i.entry.isFile && eqIgnoreAsciiCase (i.name root) (type ++ ".java")).map (·.path root)

/-- the sources of a module below a source root -/
def sources (d : Disk) (root : FilePath) : Sources where
  read := d.normalizedText
  fileOfType := d.fileOfType root

/-- the path of a file below a source root, as roles read it -/
def pathBelow (root file : FilePath) : FilePath :=
  match file.relativeTo? root with
  | some steps => .ofText (Component.join steps)
  | none => file

/-- the class that a file declares and its role -/
def classOfFile (d : Disk) (root file : FilePath) : Option (String × RoleEntry) :=
  match d.normalizedText file with
  | .error _ => none
  | .ok text => (Source.typeName text).map fun name => (name, ⟨Role.classify (pathBelow root file) text, file⟩)

/-- the roles of the classes below a source root -/
def classifyModule (d : Disk) (root : FilePath) : RoleAssignment :=
  ((d.javaFiles root).filterMap (d.classOfFile root)).foldl (fun a c => (a.insert c.1 c.2).2) .empty

end Disk

end CodeSurvey
