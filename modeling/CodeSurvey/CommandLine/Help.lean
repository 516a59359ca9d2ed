/-
Help on the command line.

The help on a level tells what it is for, how it is used, and in one row each what it takes. All rows of a section are
as wide as its widest one.
-/
import CodeSurvey.CommandLine.Arguments

namespace CodeSurvey.CommandLine

open Text

/-- the text with blanks behind it up to a width -/
def padded (width : Nat) (s : String) : String :=
  s ++ String.ofList (List.replicate (width - s.toList.length) ' ')

namespace Help

/-- rows of a name and what it means -/
def rows (rs : List (String × String)) : String :=
  let width := (rs.map (·.1.length)).foldl max 0
  String.join (rs.map fun (name, about) => "  " ++ padded width name ++ "  " ++ about ++ "\n")

/-- rows below a title; nothing where there are no rows -/
def titled (title : String) (rs : List (String × String)) : String :=
  if rs.isEmpty then "" else "\n" ++ title ++ ":\n" ++ rows rs

/-- an option as its row names it -/
def optionName (o : OptionForm) : String :=
  let short := match o.short with
    | some c => "-" ++ String.singleton c ++ ", "
    | none => "    "
  short ++ "--" ++ o.long ++ (if o.takesValue then " <" ++ o.long.toUpper ++ ">" else "")

/-- an operand as its row names it -/
def operandName (o : OperandForm) : String :=
  (if o.needed then "<" ++ o.name ++ ">" else "[" ++ o.name ++ "]") ++ (if o.many then "..." else "")

/-- the help on a level that is used under the name, with rows about its commands -/
def text (name : String) (level : Level) (commands : List (String × String)) : String :=
  let operands := level.operand.toList.map fun o => (operandName o, o.about)
  let used := (if level.options.isEmpty then [] else ["[OPTIONS]"]) ++ operands.map (·.1)
  level.about ++ "\n\nUsage: " ++ joined " " (name :: used) ++ "\n"
    ++ (if commands.isEmpty then titled "Arguments" operands else titled "Commands" commands)
    ++ titled "Options" (level.options.map fun o => (optionName o, o.about))

end Help

end CodeSurvey.CommandLine
