/-
Writing settings documents.

A document is written as a list of named tables, one blank line between them. A string takes the first form that shows
it without escapes: double quotes, single quotes, three double quotes, three single quotes; one that has control
characters is escaped between double quotes, three of them where it has line ends. A list of two or more items has one
on each line.
-/
import CodeSurvey.Text.Words
import CodeSurvey.Toml.Value

namespace CodeSurvey.Toml

open Text

/-- the longest run of one character -/
def longestRun (x : Char) (cs : List Char) : Nat :=
  (cs.foldl (fun (best, here) c => if c == x then (max best (here + 1), here + 1) else (best, 0)) (0, 0)).1

/-- a control character other than tab and line feed -/
def needsCode (c : Char) : Bool := (c.toNat < 32 && c != '\t' && c != '\n') || c.toNat == 127

/-- the forms of a written string -/
inductive Quoting where
  | double
  | single
  | tripleDouble
  | tripleSingle
  deriving DecidableEq, Repr

/-- the form that a string takes -/
def quoting (cs : List Char) : Quoting :=
  let coded := cs.any needsCode
  let escaped := cs.contains '\\'
  let doubles := longestRun '"' cs
  let singles := longestRun '\'' cs
  let broken := cs.contains '\n'
  if !coded && !escaped && doubles == 0 && !broken then .double
  else if !coded && singles == 0 && !broken then .single
  else if !coded && !escaped && doubles ≤ 2 then .tripleDouble
  else if !coded && singles ≤ 2 then .tripleSingle
  else if broken then .tripleDouble
  else .double

def upperHexDigit (n : Nat) : Char := Char.ofNat (if n < 10 then 48 + n else 55 + n)

/-- a control character by its code -/
def codeEscape (c : Char) : List Char :=
  ['\\', 'u', '0', '0', upperHexDigit (c.toNat / 16), upperHexDigit (c.toNat % 16)]

/-- the characters of a string between double quotes; `quotes` are the ones just before, `most` may stand in a row -/
def escapeFrom (lineEnds : Bool) (most : Nat) (quotes : Nat) : List Char → List Char
  | [] => []
  | '"' :: cs =>
    if quotes < most then '"' :: escapeFrom lineEnds most (quotes + 1) cs
    else '\\' :: '"' :: escapeFrom lineEnds most 0 cs
  | c :: cs =>
    let shown :=
      if c == '\x08' then ['\\', 'b']
      else if c == '\t' then ['\\', 't']
      else if c == '\n' then (if lineEnds then ['\n'] else ['\\', 'n'])
      else if c == '\x0c' then ['\\', 'f']
      else if c == '\r' then ['\\', 'r']
      else if c == '\\' then ['\\', '\\']
      else if c.toNat < 32 || c.toNat == 127 then codeEscape c
      else [c]
    shown ++ escapeFrom lineEnds most 0 cs

/-- a string as written -/
def quoted (s : String) : String :=
  let cs := s.toList
  let first := if cs.contains '\n' then "\n" else ""
  match quoting cs with
  | .double => "\"" ++ String.ofList (escapeFrom false 0 0 cs) ++ "\""
  | .single => "'" ++ s ++ "'"
  | .tripleDouble => "\"\"\"" ++ first ++ String.ofList (escapeFrom true 2 0 cs) ++ "\"\"\""
  | .tripleSingle => "'''" ++ first ++ s ++ "'''"

/-- a value as written; tables are written by their headers and not here -/
def Value.written : Value → String
  | .text s => quoted s
  | .integer n => toString n
  | .decimal w => w
  | .boolean b => if b then "true" else "false"
  | .date w => w
  | .array [] => "[]"
  | .array [v] => "[" ++ v.written ++ "]"
  | .array (v :: vs) => "[\n" ++ writtenItems (v :: vs) ++ "]"
  | .table _ => "\x7b\x7d"
where
  /-- each item on a line of its own -/
  writtenItems : List Value → String
    | [] => ""
    | v :: vs => "    " ++ v.written ++ ",\n" ++ writtenItems vs

/-- the pairs of a table, one on each line -/
def writtenPairs (entries : List (String × Value)) : String :=
  String.join (entries.map fun (key, v) => key ++ " = " ++ v.written ++ "\n")

/-- a document of named tables -/
def writtenTables (tables : List (String × List (String × Value))) : String :=
  joined "\n" (tables.map fun (name, entries) => "[" ++ name ++ "]\n" ++ writtenPairs entries)

/-- the value and all in it are numbers that a document can hold -/
def Value.fits : Value → Bool
  | .integer n => inRange n
  | .array items => items.attach.all fun ⟨v, _⟩ => v.fits
  | _ => true

end CodeSurvey.Toml
