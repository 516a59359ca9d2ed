/-
The program.

All decisions are made by `CommandLine.run` on a value. Around it stands what that value needs: the working directory,
the paths of the command, the caches of libraries and the build tools are read into a disk, and what the run changed
on it is written back.
-/
import CodeSurvey.CommandLine.Outcome
import CodeSurvey.FileTree.Changes

namespace CodeSurvey.Program

open Text

/-- entries of the file system with their places -/
abbrev Found := Array (Place × Entry)

/-- what stands at a place, if it can be read; contents are left out where they are not kept -/
def readEntry (keep : Bool) (place : Place) : IO (Option Entry) := do
  try
    let path ← IO.FS.realPath (Shell.placeText place)
    if ← path.isDir then return some .directory
    if path.toString == "/dev/null" then return some .void
    if keep then return some (.file (← IO.FS.readBinFile path).toList)
    if ← path.pathExists then return some (.file [])
    return none
  catch _ => return none

/-- the entries at a place and below it; links to directories are not followed -/
partial def readBelow (keep : Bool) (place : Place) (found : Found) : IO Found := do
  match ← readEntry keep place with
  | none => return found
  | some .directory =>
    let directory ← IO.FS.realPath (Shell.placeText place)
    let mut found := found.push (place, .directory)
    let inside ← try directory.readDir catch _ => pure #[]
    for e in inside do
      let isLink ← try pure ((← e.path.symlinkMetadata).type == .symlink) catch _ => pure true
      if !isLink || !(← e.path.isDir) then found ← readBelow keep (place ++ [e.fileName]) found
    return found
  | some e => return found.push (place, e)

/-- the directories above a place, and the ignore rules in them -/
def readAbove (place : Place) (found : Found) : IO Found := do
  let mut found := found
  for n in List.range place.length do
    let directory := place.take n
    if n != 0 then found := found.push (directory, .directory)
    for names in [[".ignore"], [".gitignore"], [".jj"], [".git"], [".git", "info"], [".git", "info", "exclude"]] do
      if let some e ← readEntry true (directory ++ names) then found := found.push (directory ++ names, e)
  return found

/-- the tree of the entries; the first one at a place counts -/
def treeOf (found : Found) : FileTree :=
  let sorted := (found.toList.mergeSort fun a b => !(b.1 < a.1 : Bool)).reverse
  ⟨sorted.foldl (fun t e => t.insert e.1 e.2) Ordered.empty⟩

/-- the place that an absolute path writes -/
def placeOf (path : String) : Place := (split path '/').filter (!·.isEmpty)

/-- the disk without any entries -/
def emptyDisk : IO Disk := do
  let here := placeOf (← IO.currentDir).toString
  let search := (← IO.getEnv "PATH").getD ""
  return {
    tree := .empty, here := here, home := (← IO.getEnv "HOME").map .ofText,
    programs := ((split search ':').filter FilePath.isAbsoluteText).map placeOf,
    temp := placeOf ((← IO.getEnv "TMPDIR").getD "/tmp"), executable := [] }

/-- the build tools that are installed -/
def readTools (d : Disk) : IO Found := do
  let mut found : Found := #[]
  for directory in d.programs do
    for name in ["mvn", "gradle", "javac"] do
      if let some (.file content) ← readEntry true (directory ++ [name]) then
        found := (← readAbove directory found).push (directory, .directory)
        found := found.push (directory ++ [name], .file content)
  return found

/-- the disk with what stands at the places and below them; a place that was read before is not read again -/
def readPlaces (d : Disk) (keep : Bool) (places : List Place) (found : Found) : IO (Found × Disk) := do
  let mut found := found
  for place in places do
    if !(found.any (·.1 == place)) then found ← readBelow keep place (← readAbove place found)
  return (found, { d with tree := treeOf found })

/-- the disk that the arguments need -/
def readDisk (args : List String) : IO Disk := do
  let d ← emptyDisk
  let tools ← readTools d
  let d := { d with executable := (tools.toList.filter (·.2.isFile)).map (·.1) }
  match CommandLine.Invocation.read args with
  | .error _ => return d
  | .ok invocation =>
    let temp := (← readAbove d.temp tools).push (d.temp, .directory)
    let paths := invocation.config.toList ++ invocation.command.paths
    let (found, d) ← readPlaces d true (d.here :: paths.map d.target) temp
    match Surveyor.load d invocation.config with
    | .error _ => return d
    | .ok s => return (← readPlaces d false ((s.config.dependencyCaches d.home).map d.target) found).2

/-- brings a change into the file system -/
def writeChange (change : Place × Option Entry) : IO Unit := do
  match change with
  | (place, some .directory) => IO.FS.createDirAll (Shell.placeText place)
  | (place, some (.file content)) => IO.FS.writeBinFile (Shell.placeText place) ⟨content.toArray⟩
  | (_, some .void) => return
  | (place, none) =>
    let path ← IO.FS.realPath (Shell.placeText place)
    if ← path.isDir then IO.FS.removeDir path else IO.FS.removeFile path

/-- runs the program on the file system; the exit status -/
def run (args : List String) : IO UInt32 := do
  let before ← readDisk args
  let outcome := CommandLine.run args before
  let changes := FileTree.changes before.tree outcome.disk.tree
  for change in (changes.filter (·.2.isNone)).reverse do writeChange change
  for change in changes.filter (·.2.isSome) do writeChange change
  IO.print outcome.printed
  IO.eprint outcome.errors
  return UInt32.ofNat outcome.status

end CodeSurvey.Program

def main (args : List String) : IO UInt32 := CodeSurvey.Program.run args
