/-
Files that a walk leaves out.

A directory may hold rules: its `.ignore` file always counts, its `.gitignore` and the `exclude` file of its repository
only inside a repository. Of the rules of one file the last one that fits decides; of several directories the nearest
one that decides; of the kinds of files `.ignore` comes first. A directory that is left out is not entered, so nothing
below it is found. `javaFiles` lists the source files that remain.
-/
import CodeSurvey.FileTree
import CodeSurvey.Glob
import CodeSurvey.Text.Case

namespace CodeSurvey

open Text

/-- one line of a file of rules -/
structure IgnoreRule where
  pattern : Pattern
  /-- no class of the glob holds a range of bytes that runs backwards -/
  sound : Bool
  /-- keeps what it fits instead of leaving it out -/
  keeps : Bool
  directoriesOnly : Bool

namespace IgnoreRule

/-- the first marks of a line: whether it keeps, whether it starts at the directory, and the rest -/
def readMarks (line : List Char) : Bool × Bool × List Char :=
  match line with
  | '\\' :: '!' :: rest => (false, false, '!' :: rest)
  | '\\' :: '#' :: rest => (false, false, '#' :: rest)
  | '!' :: '/' :: rest => (true, true, rest)
  | '!' :: rest => (true, false, rest)
  | '/' :: rest => (false, true, rest)
  | rest => (false, false, rest)

/-- a last slash asks for directories; a backslash before it belongs to it -/
def readSlash (glob : List Char) : Bool × List Char :=
  match glob.reverse with
  | '/' :: '\\' :: rest => (true, rest.reverse)
  | '/' :: rest => (true, rest.reverse)
  | _ => (false, glob)

/-- the glob for whole paths: one without a slash fits in every directory, and a last `/**` only what is inside -/
def wholeGlob (anchored : Bool) (glob : List Char) : List Char :=
  let glob :=
    if !anchored && !glob.contains '/' && glob != "**".toList then "**/".toList ++ glob else glob
  if "/**".toList.isSuffixOf glob then glob ++ "/*".toList else glob

/-- the rule of a line; blank lines, remarks and globs that cannot be read give none -/
def read? (line : List Char) : Option IgnoreRule :=
  if line.head? == some '#' then none
  else
    let line := if "\\ ".toList.isSuffixOf line then line else trimEnd line
    if line.isEmpty then none
    else
      let (keeps, anchored, glob) := readMarks line
      let (directoriesOnly, glob) := readSlash glob
      (Glob.read? (wholeGlob anchored glob)).map fun tokens =>
        ⟨Glob.pattern tokens, Glob.isSoundRow tokens, keeps, directoriesOnly⟩

/-- the rules of a file, none if one of them is not sound; marks of the byte order in front do not count -/
def readAll (text : String) : List IgnoreRule :=
  let rules := (lines (text.toList.dropWhile (· == '\uFEFF'))).filterMap read?
  if rules.all (·.sound) then rules else []

/-- whether the rules leave the path out, if one of them decides -/
def verdict (rules : List IgnoreRule) (names : List String) (isDirectory : Bool) : Option Bool :=
  let path := joined "/" names
  (rules.reverse.find? fun r => (isDirectory || !r.directoriesOnly) && Glob.accepts r.pattern path).map
    fun r => !r.keeps

end IgnoreRule

/-- the rules that one directory holds -/
structure IgnoreLevel where
  place : Place
  plain : List IgnoreRule
  git : List IgnoreRule
  exclude : List IgnoreRule
  isRepository : Bool

namespace IgnoreLevel

/-- the text of a file up to the first line that is no text -/
def readableText (content : Bytes) : String :=
  joined "\n" (((splitBy (· == 10) content).map decode?).takeWhile Option.isSome |>.filterMap id)

/-- the first line of a file -/
def firstLine? (d : Disk) (p : FilePath) : Option String :=
  match d.readBytes p with
  | .ok [] => none
  | .ok content =>
    (((splitBy (· == 10) content).headD []) |> decode?).map fun line => (stripEnd line "\r").getD line
  | .error _ => none

/-- the rules in a file, none where there is no file -/
def rulesAt (d : Disk) (p : FilePath) : List IgnoreRule :=
  match d.readBytes p with
  | .ok content => IgnoreRule.readAll (readableText content)
  | .error _ => []

/-- the path of a place -/
def placePath (place : Place) : FilePath := (FilePath.ofText "/").descend place

/-- the directory of the repository that a directory belongs to. A file in its place names the directory of a working
copy, which in turn names the one that all working copies share. -/
def repository? (d : Disk) (place : Place) : Option FilePath :=
  let git := (placePath place).child ".git"
  if d.isFile git then do
    let line ← firstLine? d git
    let copy := FilePath.ofText (← stripStart line "gitdir: ")
    let shared ← firstLine? d (copy.child "commondir")
    if startsWith shared "." then some (copy.join shared) else some (.ofText shared)
  else some git

/-- the rules of a directory -/
def of (d : Disk) (place : Place) : IgnoreLevel where
  place := place
  plain := rulesAt d ((placePath place).child ".ignore")
  git := rulesAt d ((placePath place).child ".gitignore")
  exclude := ((repository? d place).map fun r => rulesAt d (r.descend ["info", "exclude"])).getD []
  isRepository := [".git", ".jj"].any fun name => d.exists? ((placePath place).child name)

/-- the directories of the disk that hold rules -/
def all (d : Disk) : List IgnoreLevel :=
  let places := d.tree.entries.keys.filterMap fun p =>
    if [".ignore", ".gitignore", ".git", ".jj"].contains ((p.getLast?).getD "") then some p.dropLast else none
  places.eraseDups.map (of d)

/-- the levels above a place, nearest first -/
def above (levels : List IgnoreLevel) (place : Place) : List IgnoreLevel :=
  (levels.filter fun l => l.place.isPrefixOf place && l.place.length < place.length).mergeSort
    fun a b => b.place.length ≤ a.place.length

/-- the levels up to the nearest repository -/
def upToRepository : List IgnoreLevel → List IgnoreLevel
  | [] => []
  | l :: ls => if l.isRepository then [l] else l :: upToRepository ls

/-- the verdict of the nearest level that has one -/
def decide (levels : List IgnoreLevel) (rules : IgnoreLevel → List IgnoreRule) (place : Place) (isDirectory : Bool) :
    Option Bool :=
  levels.findSome? fun l => IgnoreRule.verdict (rules l) (place.drop l.place.length) isDirectory

/-- the place is left out -/
def leavesOut (levels : List IgnoreLevel) (place : Place) (isDirectory : Bool) : Bool :=
  let near := above levels place
  let inside := if near.any (·.isRepository) then upToRepository near else []
  let choice := (decide near (·.plain) place isDirectory)
    |>.or (decide inside (·.git) place isDirectory)
    |>.or (decide inside (·.exclude) place isDirectory)
  choice == some true

end IgnoreLevel

namespace Disk

/-- the walk without what rules leave out; its start is always kept -/
def walkKept (d : Disk) (start : FilePath) : List Item :=
  match d.locate start with
  | .error _ => []
  | .ok place =>
    match IgnoreLevel.all d with
    | [] => d.walk start
    | levels =>
      pruned (fun i => i.depth != 0 && IgnoreLevel.leavesOut levels (place ++ i.names) i.entry.isDirectory)
        (d.walk start)

/-- the source files below a directory, in walk order -/
def javaFiles (d : Disk) (start : FilePath) : List FilePath :=
  ((d.walkKept start).filter (·.entry.isFile)).map (·.path start)
    |>.filter fun p => p.extension == some "java"

/-- source roots by convention, most specific first -/
def sourceRoots : List String := ["src/main/java", "src", "app", "code"]

/-- the source root of a module: a conventional one, else a directory named for the language within four levels -/
def sourceDirectory (d : Disk) (root : FilePath) : Option FilePath :=
  ((sourceRoots.map root.join).find? d.isDirectory).orElse fun _ =>
    ((d.walkTo 4 root).find? fun i => i.entry.isDirectory && eqIgnoreAsciiCase (i.name root) "java").map (·.path root)

end Disk

end CodeSurvey
