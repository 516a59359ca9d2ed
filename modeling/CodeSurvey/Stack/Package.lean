/-
Packaged projects.

A package is a manifest and the names of its entries. A manifest has one attribute a line; a line that starts with a
space continues the attribute before it. Bundled libraries lie directly in one of the library directories and are named
for their version.
-/
import CodeSurvey.Pattern.Search
import CodeSurvey.Stack.Summary

namespace CodeSurvey

open Text

namespace Manifest

/-- a manifest read up to some line -/
structure Reading where
  attributes : Ordered String String
  /-- the attribute that a next line may continue -/
  last : Option String

/-- the text before the first colon and the text behind it -/
def cutAtColon? (line : List Char) : Option (List Char × List Char) :=
  if line.contains ':' then some (line.takeWhile (· != ':'), (line.dropWhile (· != ':')).drop 1) else none

/-- the value with a continuation put behind it -/
def extend (attributes : Ordered String String) (key more : String) : Ordered String String :=
  match attributes.get? key with
  | some value => attributes.insert key (value ++ more)
  | none => attributes

/-- the reading after a line -/
def readLine (r : Reading) (line : List Char) : Reading :=
  match line with
  | ' ' :: more =>
    match r.last with
    | some key => { r with attributes := extend r.attributes key (String.ofList more) }
    | none => r
  | _ =>
    match cutAtColon? line with
    | some (key, value) =>
      let key := String.ofList (trim key)
      ⟨r.attributes.insert key (String.ofList (trim value)), some key⟩
    | none => r

/-- the attributes of a manifest -/
def parse (text : String) : Ordered String String :=
  ((lines text.toList).foldl readLine ⟨Ordered.empty, none⟩).attributes

end Manifest

/-- what is read of a package -/
structure Package where
  manifest : Option String
  /-- names of the files in it, directories in front with slashes between -/
  entries : List String
  deriving DecidableEq, Repr

namespace Package

/-- the entry that holds the manifest -/
def manifestName : String := "META-INF/MANIFEST.MF"

/-- directories of bundled libraries -/
def libraryDirectories : List String := ["BOOT-INF/lib/", "WEB-INF/lib/", "lib/"]

/-- the name of a library file: group 1 the artifact, group 2 the version -/
def libraryName : Pattern :=
  .textStart ++ .group 1 (.char (Pattern.except "\n") ++ .span true (Pattern.except "\n")) ++ .lit "-"
    ++ .group 2 (.char isDigit ++ .any0 (fun c => isWord c || c == '.' || c == '-')) ++ .lit ".jar" ++ .textEnd

/-- the artifact and the version of a bundled library -/
def library? (entry : String) : Option (String × String) := do
  let name ← libraryDirectories.findSome? (stripStart entry)
  if contains name "/" then none
  let m ← libraryName.find? name
  return (m.group 1, m.group 2)

/-- the version of each bundled library; of two with one name the later counts -/
def dependencies (p : Package) : Dependencies := .ofList (p.entries.filterMap library?)

/-- the summary of a package; classes of the framework show that it is there when no version does -/
def summary (p : Package) : StackSummary :=
  let attributes := (p.manifest.map Manifest.parse).getD Ordered.empty
  let runtime := (attributes.get? "Spring-Boot-Version").or (attributes.get? "Implementation-Version")
  let language := (attributes.get? "Build-Jdk-Spec").or (attributes.get? "Build-Jdk")
  let s := StackSummary.ofVersions .jar language runtime p.dependencies
  let present := if p.entries.any (startsWith · "org/springframework/") then some "present" else none
  { s with frameworkVersion := s.frameworkVersion.or present }

end Package

end CodeSurvey
