/-
JSON documents.

`pretty` writes a value with each item and field on a line of its own, two blanks deeper than what holds it; an empty
list or object stays on its line. Fields keep the order in which they are given. In strings, quotes, backslashes and
control characters are escaped and all other characters stand for themselves.
-/
import CodeSurvey.Text.Words

namespace CodeSurvey

open Text

/-- a JSON value whose numbers are counts -/
inductive JsonValue where
  | null
  | bool (b : Bool)
  | count (n : Nat)
  | text (s : String)
  | list (items : List JsonValue)
  | object (fields : List (String × JsonValue))

namespace JsonValue

/-- the value, or null where there is none -/
def ofOption {α : Type} (f : α → JsonValue) : Option α → JsonValue
  | some a => f a
  | none => .null

/-- a list of strings -/
def texts (xs : List String) : JsonValue := .list (xs.map .text)

def lowerHexDigit (n : Nat) : Char := Char.ofNat (if n < 10 then 48 + n else 87 + n)

/-- one character of a string as written -/
def escapeChar (c : Char) : List Char :=
  if c == '"' then ['\\', '"']
  else if c == '\\' then ['\\', '\\']
  else if c == '\x08' then ['\\', 'b']
  else if c == '\x0c' then ['\\', 'f']
  else if c == '\n' then ['\\', 'n']
  else if c == '\r' then ['\\', 'r']
  else if c == '\t' then ['\\', 't']
  else if c.toNat < 32 then ['\\', 'u', '0', '0', lowerHexDigit (c.toNat / 16), lowerHexDigit (c.toNat % 16)]
  else [c]

/-- a string as written -/
def quoted (s : String) : String := "\"" ++ String.ofList (s.toList.flatMap escapeChar) ++ "\""

/-- the blanks before what stands at a depth -/
def indent (depth : Nat) : String := String.ofList (List.replicate (2 * depth) ' ')

/-- written parts between two marks, each on a line of its own -/
def block (opening closing : String) (depth : Nat) (parts : List String) : String :=
  if parts.isEmpty then opening ++ closing
  else
    opening ++ "\n" ++ joined ",\n" (parts.map (indent (depth + 1) ++ ·)) ++ "\n" ++ indent depth ++ closing

/-- the value as written at a depth -/
def prettyAt (depth : Nat) : JsonValue → String
  | .null => "null"
  | .bool b => if b then "true" else "false"
  | .count n => toString n
  | .text s => quoted s
  | .list items => block "[" "]" depth (prettyItems (depth + 1) items)
  | .object fields => block "\x7b" "\x7d" depth (prettyFields (depth + 1) fields)
where
  /-- the items of a list as written -/
  prettyItems (depth : Nat) : List JsonValue → List String
    | [] => []
    | v :: vs => v.prettyAt depth :: prettyItems depth vs
  /-- the fields of an object as written -/
  prettyFields (depth : Nat) : List (String × JsonValue) → List String
    | [] => []
    | (key, v) :: fields => (quoted key ++ ": " ++ v.prettyAt depth) :: prettyFields depth fields

/-- the value as written -/
def pretty (v : JsonValue) : String := v.prettyAt 0

end JsonValue

end CodeSurvey
