/-
Arguments of the command line.

The command line has two levels: options before the command's name, and options and operands of the command behind it.
An option is a long one (`--name`, with its value behind an equals sign or as the next argument) or short ones in a
row (`-x`, the last with its value behind it or next). Two dashes end the options. No option is given twice on a
level, no value or operand is empty, and a value that is an argument of its own does not look like an option.
Arguments are read from left to right, and the first one that is wrong or asks for help ends the reading.
-/
import CodeSurvey.Path

namespace CodeSurvey.CommandLine

open Text

/-- why no command is carried out -/
inductive Stop where
  | misuse
  /-- help is asked for, about all or about one command -/
  | help (command : Option String)
  | version
  deriving DecidableEq, Repr

/-- an option; one that stops has no effect but that -/
structure OptionForm where
  long : String
  short : Option Char
  takesValue : Bool
  stop : Option Stop
  /-- what it is for -/
  about : String
  deriving DecidableEq, Repr

/-- an option with a value -/
def OptionForm.valued (long : String) (short : Option Char) (about : String) : OptionForm :=
  ⟨long, short, true, none, about⟩

/-- an option without a value -/
def OptionForm.switch (long : String) (short : Option Char) (about : String) : OptionForm :=
  ⟨long, short, false, none, about⟩

/-- what stands beside the options -/
structure OperandForm where
  name : String
  needed : Bool
  many : Bool
  /-- what it is for -/
  about : String
  deriving DecidableEq, Repr

/-- what one level of a command line takes -/
structure Level where
  about : String
  operand : Option OperandForm
  options : List OptionForm
  deriving DecidableEq, Repr

/-- the level takes an operand behind so many -/
def Level.takesMore (level : Level) (operands : Nat) : Bool :=
  level.operand.any fun o => o.many || operands = 0

/-- what was read on a level -/
structure Reading where
  given : List (String × Option String)
  operands : List String
  /-- the option whose value comes next -/
  awaited : Option OptionForm
  /-- the options have ended -/
  plain : Bool
  deriving DecidableEq, Repr

namespace Reading

def empty : Reading := ⟨[], [], none, false⟩

/-- the value of an option -/
def value? (r : Reading) (long : String) : Option String := (r.given.lookup long).join

/-- the option was given -/
def has (r : Reading) (long : String) : Bool := (r.given.lookup long).isSome

/-- an argument that is no value and no operand -/
def looksLikeOption (arg : String) : Bool := startsWith arg "-" && arg != "-"

/-- the reading with one option more -/
def give (r : Reading) (o : OptionForm) (value : Option String) : Except Stop Reading :=
  match o.stop with
  | some stop => .error stop
  | none =>
    if r.has o.long || value == some "" then .error .misuse
    else .ok { r with given := r.given ++ [(o.long, value)], awaited := none }

/-- the reading with one operand more -/
def addOperand (level : Level) (r : Reading) (arg : String) : Except Stop Reading :=
  if arg.isEmpty || !level.takesMore r.operands.length then .error .misuse
  else .ok { r with operands := r.operands ++ [arg] }

/-- reads a long option: its name, and its value behind an equals sign -/
def readLong (level : Level) (r : Reading) (cs : List Char) : Except Stop Reading :=
  let name := String.ofList (cs.takeWhile (· != '='))
  match level.options.find? (·.long == name), cs.dropWhile (· != '=') with
  | none, _ => .error .misuse
  | some o, [] => if o.takesValue then .ok { r with awaited := some o } else r.give o none
  | some o, _ :: value => if o.takesValue then r.give o (some (String.ofList value)) else .error .misuse

/-- reads short options in a row -/
def readShort (level : Level) (r : Reading) : List Char → Except Stop Reading
  | [] => .ok r
  | c :: cs =>
    match level.options.find? (·.short == some c) with
    | none => .error .misuse
    | some o =>
      if !o.takesValue then (r.give o none).bind fun r => readShort level r cs
      else
        match cs with
        | [] => .ok { r with awaited := some o }
        | '=' :: value => r.give o (some (String.ofList value))
        | value => r.give o (some (String.ofList value))

/-- reads one argument -/
def readArgument (level : Level) (r : Reading) (arg : String) : Except Stop Reading :=
  match r.awaited with
  | some o => if looksLikeOption arg then .error .misuse else r.give o (some arg)
  | none =>
    if r.plain || !looksLikeOption arg then r.addOperand level arg
    else
      match arg.toList with
      | ['-', '-'] => .ok { r with plain := true }
      | '-' :: '-' :: cs => r.readLong level cs
      | cs => r.readShort level (cs.drop 1)

/-- the reading, unless a value is missing -/
def complete (r : Reading) : Except Stop Reading := if r.awaited.isSome then .error .misuse else .ok r

/-- reads up to the first operand; the arguments behind it are left -/
def readToOperand (level : Level) (r : Reading) : List String → Except Stop (Reading × List String)
  | [] => (complete r).map (·, [])
  | arg :: rest => do
    let r ← r.readArgument level arg
    if r.operands.isEmpty then readToOperand level r rest else .ok (r, rest)

/-- reads all arguments -/
def readAll (level : Level) (args : List String) : Except Stop Reading :=
  (args.foldlM (readArgument level) empty).bind complete

end Reading

end CodeSurvey.CommandLine
