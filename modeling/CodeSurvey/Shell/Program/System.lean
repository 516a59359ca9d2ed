/-
The programs of a system.

`System.program?` gives what a program does that lies in one of the directories of the system. Programs that only show
what no script can foretell do nothing here.
-/
import CodeSurvey.Shell.Program.Conditions
import CodeSurvey.Shell.Program.Edit
import CodeSurvey.Shell.Program.Formatted
import CodeSurvey.Shell.Program.Lines
import CodeSurvey.Shell.Program.Running

namespace CodeSurvey.Shell.System

open Text

/-! ## Names and numbers -/

/-- the last name of a path, without an ending -/
def baseNameOf (p ending : String) : String :=
  let steps := (split p '/').filter (!·.isEmpty)
  let name := steps.getLastD (if p.isEmpty then "" else "/")
  match stripEnd name ending with
  | some short => if short.isEmpty then name else short
  | none => name

def basename : Program :=
  { flags := "az", valued := "s", inOrder := true
    long := [("multiple", 'a'), ("suffix", 's')] : OptionForm }.program "basename" 1 fun g r =>
    match g.operands with
    | [] => Files.missing r "basename" "missing operand"
    | first :: rest =>
      if g.has 'a' || g.has 's' then
        r.printLines (g.operands.map fun p => baseNameOf p ((g.value? 's').getD ""))
      else if 1 < rest.length then Files.missing r "basename" ("extra operand " ++ Files.quoted (rest.getD 1 ""))
      else r.printLines [baseNameOf first (rest.headD "")]

def dirname : Program :=
  { flags := "z" : OptionForm }.program "dirname" 1 fun g r =>
    if g.operands.isEmpty then Files.missing r "dirname" "missing operand"
    else r.printLines (g.operands.map Files.directoryName)

/-- numbers from one to another one -/
def numbers (first step last : Int) : List Int :=
  if step = 0 then []
  else
    let count := if step > 0 then (last - first) / step + 1 else (first - last) / (-step) + 1
    (List.range count.toNat).map fun (i : Nat) => first + step * (i : Int)

/-- numbers with places behind a point: the number times a power of ten, and the places -/
def scaledNumber? (text : String) : Option (Int × Nat) :=
  let negative := startsWith text "-"
  let cs := if negative || startsWith text "+" then text.toList.drop 1 else text.toList
  let value := fun (digits : List Char) (places : Nat) =>
    let n : Nat := Number.ofDigits 10 digits
    some ((if negative then -(n : Int) else n), places)
  match splitBy (· == '.') cs with
  | [whole] => if whole.isEmpty || !whole.all isAsciiDigit then none else value whole 0
  | [whole, part] =>
    if (whole ++ part).isEmpty || !(whole ++ part).all isAsciiDigit then none else value (whole ++ part) part.length
  | _ => none

/-- a number as it is written with so many places -/
def shownNumber (places : Nat) (n : Int) : String :=
  (if n < 0 then "-" else "") ++ Formatted.Decimal.pointed (toString n.natAbs) places

/-- the options in front of numbers; a dash before a digit starts a number -/
def seqOptions : List String → Option String × Bool × List String
  | [] => (none, false, [])
  | a :: rest =>
    if a == "-w" || a == "--equal-width" then
      let (separator, _, rest) := seqOptions rest
      (separator, true, rest)
    else if a == "-s" then
      let (separator, wide, more) := seqOptions (rest.drop 1)
      (separator.or rest.head?, wide, more)
    else
      match (stripStart a "-s").or (stripStart a "--separator=") with
      | some s =>
        let (separator, wide, rest) := seqOptions rest
        (separator.or (some s), wide, rest)
      | none => (none, false, a :: rest)
termination_by args => args.length

/-- writes numbers in order -/
def seq : Program := fun args r =>
  let (separator, wide, operands) := seqOptions args
  match operands.mapM scaledNumber? with
  | none =>
    let wrong := (operands.find? fun a => (scaledNumber? a).isNone).getD ""
    Files.missing r "seq" ("invalid floating point argument: " ++ Files.quoted wrong)
  | some found =>
    let places := (found.dropLast.map (·.2)).foldl max 0
    let allPlaces := (found.map (·.2)).foldl max 0
    let level := fun (n : Int × Nat) => n.1 * Int.pow 10 (allPlaces - n.2)
    let one : Int := Int.pow 10 allPlaces
    let print := fun (first step last : Int) =>
      if step = 0 then Files.missing r "seq" ("invalid Zero increment value: " ++ Files.quoted (operands.getD 1 ""))
      else
        let texts := (numbers first step last).map fun n => shownNumber places (n / Int.pow 10 (allPlaces - places))
        let width := texts.foldl (fun n t => max n t.length) 0
        let padded := fun (t : String) =>
          if startsWith t "-" then "-" ++ String.ofList (List.replicate (width - t.length) '0') ++ String.ofList (t.toList.drop 1)
          else String.ofList (List.replicate (width - t.length) '0') ++ t
        let texts := if wide then texts.map padded else texts
        let r := r.withStatus 0
        if texts.isEmpty then r else r.print (joined (separator.getD "\n") texts ++ "\n")
    match found with
    | [] => Files.missing r "seq" "missing operand"
    | [last] => print one one (level last)
    | [first, last] => print (level first) one (level last)
    | [first, step, last] => print (level first) (level step) (level last)
    | _ => Files.missing r "seq" ("extra operand " ++ Files.quoted (operands.getD 3 ""))

/-! ## All programs -/

/-- the program that only has a status -/
def status (n : Nat) : Program := fun _ r => r.withStatus n

/-- the program that writes a line -/
def line (text : String) : Program := fun _ r => (r.withStatus 0).printLines [text]

/-- directories in which the programs of a system lie -/
def directories : List String := ["/usr/bin", "/bin"]

/-- programs that read scripts -/
def shells : List String := ["sh", "dash", "bash"]

/-- the program of a name, apart from the readers of scripts -/
def program? (launch : Launch) (isSystem : String → Bool) (name : String) : Option Program :=
  let own := match name with
    | "true" => some (status 0)
    | "false" => some (status 1)
    | "date" | "sync" | "clear" | "stty" | "df" | "du" | "ps" => some (status 0)
    | "echo" => some Formatted.echoProgram
    | "printf" => some (Formatted.printf false)
    | "pwd" => some fun _ r => (r.withStatus 0).printLines [shownPlace r.disk.here]
    | "basename" => some basename
    | "dirname" => some dirname
    | "seq" => some seq
    | "expr" => some Conditions.expr
    | "test" => some (Conditions.test isSystem false)
    | "[" => some (Conditions.test isSystem true)
    | "uname" => some (line "Linux")
    | "whoami" => some (line "root")
    | "id" => some fun args r => if args == ["-u"] || args == ["-g"] then line "0" args r
        else if args == ["-un"] || args == ["-gn"] then line "root" args r
        else line "uid=0(root) gid=0(root) groups=0(root)" args r
    | _ => none
  own.or <| (Files.program? name).or <| (Contents.program? name).or <| (Lines.program? name).or <|
    (Search.program? name).or <| (Edit.program? name).or (Running.program? launch name)

/-- the system has a program of the name -/
def has (name : String) : Bool :=
  shells.contains name || name == "which" || (program? (fun _ _ r => r) (fun _ => false) name).isSome

/-- the name of the program that a path of the system leads to -/
def nameAt? (text : String) : Option String :=
  directories.findSome? fun directory =>
    (stripStart text (directory ++ "/")).bind fun name => if !contains name "/" && has name then some name else none

end CodeSurvey.Shell.System
