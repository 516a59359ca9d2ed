/-
Named classes of characters.

Patterns, translations and expressions of scripts name the same classes of characters between colons. Each class is
ranges of characters, all of them below the 128th.
-/
import CodeSurvey.Shell.ByteText

namespace CodeSurvey.Shell

/-- ranges of characters, each from its first to its last one -/
abbrev CharRanges := List (Char × Char)

namespace CharRanges

/-- the character lies in one of the ranges -/
def holds (ranges : CharRanges) (c : Char) : Bool := ranges.any fun (a, b) => a ≤ c && c ≤ b

/-- the characters of the ranges in order -/
def toList (ranges : CharRanges) : List Char :=
  ranges.flatMap fun (a, b) => (List.range (b.toNat + 1 - a.toNat)).map fun i => Char.ofNat (a.toNat + i)

def upper : CharRanges := [('A', 'Z')]

def lower : CharRanges := [('a', 'z')]

def digits : CharRanges := [('0', '9')]

/-- the classes by their names -/
def table : List (String × CharRanges) :=
  [("alpha", upper ++ lower), ("digit", digits), ("alnum", digits ++ upper ++ lower), ("upper", upper),
    ("lower", lower), ("space", [('\t', '\r'), (' ', ' ')]), ("blank", [('\t', '\t'), (' ', ' ')]),
    ("punct", [('!', '/'), (':', '@'), ('[', '\x60'), ('\x7b', '~')]), ("print", [(' ', '~')]),
    ("graph", [('!', '~')]), ("cntrl", [('\x00', '\x1f'), ('\x7f', '\x7f')]),
    ("xdigit", digits ++ [('A', 'F'), ('a', 'f')])]

/-- the class of a name -/
def named? (name : String) : Option CharRanges := table.lookup name

/-- the class that is named between colons behind an opening bracket, and how many characters that and the closing
bracket take -/
def colons? (cs : List Char) : Option (CharRanges × Nat) :=
  match cs with
  | ':' :: rest =>
    let name := rest.takeWhile (· != ':')
    match rest.drop name.length with
    | ':' :: ']' :: _ => (named? (String.ofList name)).map (·, name.length + 3)
    | _ => none
  | _ => none

end CharRanges

end CodeSurvey.Shell
