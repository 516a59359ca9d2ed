/-
Options of programs.

An argument that starts with a dash holds letters of options; a letter may take a value, from the rest of its argument
or from the next one. Long names stand for letters. Options and operands mix, unless a form says that the first operand
ends the options.
-/
import CodeSurvey.Shell.Run

namespace CodeSurvey.Shell

open Text

/-- the options that a program knows -/
structure OptionForm where
  /-- letters without a value -/
  flags : String
  /-- letters with a value -/
  valued : String := ""
  /-- long names and their letters -/
  long : List (String × Char) := []
  /-- operands end the options -/
  inOrder : Bool := false

/-- the options that a program was given -/
structure Given where
  /-- letters with their values, in order -/
  options : List (Char × String)
  operands : List String
  deriving DecidableEq, Repr

namespace Given

def has (g : Given) (c : Char) : Bool := g.options.any (·.1 == c)

/-- the value of a letter that was given last -/
def value? (g : Given) (c : Char) : Option String := g.options.reverse.lookup c

/-- all values of a letter -/
def values (g : Given) (c : Char) : List String := g.options.filterMap fun o => if o.1 == c then some o.2 else none

/-- of some letters the one that was given last -/
def last? (g : Given) (letters : List Char) : Option Char := (g.options.reverse.find? (letters.contains ·.1)).map (·.1)

/-- the options with one more in front -/
def adding (g : Given) (c : Char) (value : String) : Given := { g with options := (c, value) :: g.options }

end Given

namespace OptionForm

/-- the letter of a long name, which may be cut short -/
def longLetter? (f : OptionForm) (name : String) : Option Char :=
  match f.long.lookup name with
  | some c => some c
  | none =>
    match f.long.filter fun (long, _) => startsWith long name with
    | [(_, c)] => some c
    | _ => none

/-- what is said about a letter that a program does not know -/
def unknownText (c : Char) : String := "invalid option -- '" ++ String.singleton c ++ "'"

/-- what the letters of an argument say: options with values, and the letter that takes the next argument -/
def readLetters (f : OptionForm) : List Char → Except String (List (Char × String) × Option Char)
  | [] => .ok ([], none)
  | c :: rest =>
    if f.valued.contains c then
      .ok (if rest.isEmpty then ([], some c) else ([(c, String.ofList rest)], none))
    else if f.flags.contains c then (readLetters f rest).map fun (more, waiting) => ((c, "") :: more, waiting)
    else .error (unknownText c)

/-- the options and operands of arguments; `waiting` is a letter that takes the next one -/
def readFrom (f : OptionForm) (waiting : Option Char) : List String → Except String Given
  | [] =>
    match waiting with
    | some c => .error ("option requires an argument -- '" ++ String.singleton c ++ "'")
    | none => .ok ⟨[], []⟩
  | a :: rest =>
    match waiting with
    | some c => (readFrom f none rest).map (·.adding c a)
    | none =>
      if a == "--" then .ok ⟨[], rest⟩
      else if startsWith a "--" then
        let name := String.ofList (((a.toList.drop 2).takeWhile (· != '=')))
        let value := (a.toList.drop 2).dropWhile (· != '=')
        match f.longLetter? name with
        | none => .error ("unrecognized option '" ++ a ++ "'")
        | some c =>
          if !value.isEmpty then (readFrom f none rest).map (·.adding c (String.ofList (value.drop 1)))
          else if f.valued.contains c then readFrom f (some c) rest
          else (readFrom f none rest).map (·.adding c "")
      else if startsWith a "-" && a != "-" then
        match f.readLetters (a.toList.drop 1) with
        | .error e => .error e
        | .ok (found, waiting) =>
          (readFrom f waiting rest).map fun g => { g with options := found ++ g.options }
      else if f.inOrder then .ok ⟨[], a :: rest⟩
      else (readFrom f none rest).map fun g => { g with operands := a :: g.operands }

/-- the program that reads its options first; it has a status for those it does not know -/
def program (f : OptionForm) (name : String) (status : Nat) (run : Given → Run → Run) : Program := fun args r =>
  match f.readFrom none args with
  | .ok g => run g (r.withStatus 0)
  | .error text =>
    ((r.withStatus status).tell (name ++ ": " ++ text)).tell ("Try '" ++ name ++ " --help' for more information.")

end OptionForm

/-- a refusal in the words of programs -/
def faultWords : IoFault → String
  | .notFound => "No such file or directory"
  | .unknownFormat => "Exec format error"
  | .notExecutable => "Permission denied"
  | .alreadyExists => "File exists"
  | .notDirectory => "Not a directory"
  | .isDirectory => "Is a directory"
  | .nameTooLong => "File name too long"
  | .directoryNotEmpty => "Directory not empty"
  | fault => fault.message

namespace Run

/-- the run after a program could not do something with an operand -/
def refuse (r : Run) (status : Nat) (text : String) : Run := (r.withStatus status).tell text

/-- the bytes of a file, or of the input for a dash, and the run after they were read -/
def readOperand (r : Run) (name : String) : Run × Except IoFault Bytes :=
  if name == "-" then
    let (r, content) := r.takeAll 0
    (r, .ok content)
  else if name == "/dev/stdin" then
    let (r, content) := r.takeAll 0
    (r, .ok content)
  else (r, r.disk.readBytes (path name))

/-- the run after something was done with what each operand holds, or the input where there is none; operands that
cannot be read give a status -/
def forContents (r : Run) (program : String) (status : Nat) (operands : List String)
    (use : String → Bytes → Run → Run) : Run :=
  (if operands.isEmpty then ["-"] else operands).foldl (fun r name =>
    if !r.goesOn then r
    else
      match r.readOperand name with
      | (r, .ok content) => use name content r
      | (r, .error fault) => r.refuse status (program ++ ": " ++ name ++ ": " ++ faultWords fault)) r

/-- all that operands hold, and the run after it was read -/
def takeContents (r : Run) (program : String) (status : Nat) (operands : List String) : Run × List Bytes :=
  (if operands.isEmpty then ["-"] else operands).foldl (fun (r, found) name =>
    match r.readOperand name with
    | (r, .ok content) => (r, found ++ [content])
    | (r, .error fault) => (r.refuse status (program ++ ": " ++ name ++ ": " ++ faultWords fault), found)) (r, [])

end Run

/-- the lines of bytes, without their ends -/
def linesOf (content : Bytes) : List String :=
  let parts := (splitBy (· == '\n') (textOf content).toList).map String.ofList
  if parts.getLast? == some "" then parts.dropLast else parts

end CodeSurvey.Shell
