/-
File paths as they are written.

A path is a written head and the plain names that were put behind it, so that a path shows what its user wrote however
deep the program walked below it. `text` is the path as shown and `components` is what it means: blank parts and inner
dots say nothing. Relations between paths (`relativeTo?`, `startsWith`) compare components.
-/
import CodeSurvey.Text.Words

namespace CodeSurvey

open Text

/-- a path: text, and names below it -/
structure FilePath where
  head : String
  names : List String
  deriving DecidableEq, Repr

/-- one step of a path -/
inductive Component where
  | root
  | here
  | up
  | name (s : String)
  deriving DecidableEq, Repr

namespace FilePath

/-- the path that a text writes -/
def ofText (s : String) : FilePath := ⟨s, []⟩

/-- a text put behind a written path, with a slash between them where one is missing -/
def pushText (s t : String) : String :=
  if s.isEmpty || endsWith s "/" then s ++ t else s ++ "/" ++ t

/-- the path as shown -/
def text (p : FilePath) : String := p.names.foldl pushText p.head

/-- the path of a name in the directory -/
def child (p : FilePath) (name : String) : FilePath := ⟨p.head, p.names ++ [name]⟩

/-- the path of a list of names below the directory -/
def descend (p : FilePath) (names : List String) : FilePath := ⟨p.head, p.names ++ names⟩

def isAbsoluteText (s : String) : Bool := startsWith s "/"

/-- a step that a directory holds under its own name -/
def isPlainName (s : String) : Bool := !s.isEmpty && s != "." && s != ".."

/-- the path that a text means when it is read in the directory -/
def join (p : FilePath) (s : String) : FilePath :=
  if isAbsoluteText s then ofText s
  else if (split s '/').all isPlainName then p.descend (split s '/')
  else ofText (pushText p.text s)

/-- what one part between slashes means -/
def component? (part : String) : Option Component :=
  if part.isEmpty || part == "." then none
  else if part == ".." then some .up
  else some (.name part)

/-- the steps that a text writes -/
def componentsOfText (s : String) : List Component :=
  let parts := split s '/'
  let steps := parts.filterMap component?
  if isAbsoluteText s then .root :: steps
  else if parts.head? == some "." then .here :: steps
  else steps

/-- the steps of a path -/
def components (p : FilePath) : List Component :=
  componentsOfText p.head ++ p.names.map .name

/-- the last step's name -/
def fileName (p : FilePath) : Option String :=
  match p.components.getLast? with
  | some (.name s) => some s
  | _ => none

/-- a file name cut at its last dot; a dot in front starts no extension -/
def cutName (name : String) : String × Option String :=
  match (split name '.').reverse with
  | ext :: stem :: more =>
    let stem := joined "." (stem :: more).reverse
    if stem.isEmpty then (name, none) else (stem, some ext)
  | _ => (name, none)

/-- the file name without its extension -/
def fileStem (p : FilePath) : Option String := p.fileName.map fun n => (cutName n).1

/-- what follows the last dot of the file name -/
def extension (p : FilePath) : Option String := p.fileName.bind fun n => (cutName n).2

/-- the steps from the base to the path, when the base is above it or equal to it -/
def relativeTo? (p base : FilePath) : Option (List Component) :=
  if base.components.isPrefixOf p.components then some (p.components.drop base.components.length) else none

/-- the base is above the path or equal to it -/
def startsWith (p base : FilePath) : Bool := base.components.isPrefixOf p.components

/-- the parts of a text between slashes, each with whether it is a step -/
def markedParts (s : String) : List (String × Bool) :=
  match split s '/' with
  | [] => []
  | first :: more =>
    let firstStep := if first.isEmpty then isAbsoluteText s else true
    (first, firstStep) :: more.map fun part => (part, (component? part).isSome)

/-- what follows the first `n` steps -/
def afterSteps : Nat → List (String × Bool) → List (String × Bool)
  | 0, parts => parts
  | _ + 1, [] => []
  | n + 1, (_, isStep) :: parts => afterSteps (if isStep then n else n + 1) parts

/-- the text of the path below a base that is above it or equal to it, as the path writes it -/
def textBelow? (p base : FilePath) : Option String :=
  if p.startsWith base then
    let rest := afterSteps base.components.length (markedParts p.text)
    let rest := if base.components.isEmpty then rest else rest.dropWhile (!·.2)
    some (joined "/" (((rest.reverse.dropWhile (!·.2)).reverse).map (·.1)))
  else none

/-- the path without what is written behind its last step -/
def trimmed (p : FilePath) : FilePath :=
  let parts := ((markedParts p.text).reverse.dropWhile (!·.2)).reverse
  let text := joined "/" (parts.map (·.1))
  ofText (if text.isEmpty && isAbsoluteText p.text then "/" else text)

/-- the path ends in a slash, so it can only mean a directory -/
def endsOpen (p : FilePath) : Bool :=
  p.names.isEmpty && (endsWith p.head "/" || endsWith p.head "/.")

end FilePath

/-- a step as shown -/
def Component.text : Component → String
  | .root => "/"
  | .here => "."
  | .up => ".."
  | .name s => s

/-- steps as shown, without a root -/
def Component.join (cs : List Component) : String := joined "/" (cs.map Component.text)

end CodeSurvey
