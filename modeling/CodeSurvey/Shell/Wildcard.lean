/-
Wildcards of command scripts.

A letter of a word says whether quotes made it stand for itself; only unquoted stars, question marks and brackets are
wildcards. `Wildcard.read` turns letters into a pattern and `Wildcard.accepts` decides whether a whole text fits it.
The same patterns choose between cases, cut the values of parameters and name files: `Wildcard.files` gives the paths
on a disk that fit a field.
-/
import CodeSurvey.Shell.CharClass

namespace CodeSurvey.Shell

open Text

/-- a character of a word -/
structure Letter where
  char : Char
  quoted : Bool
  deriving DecidableEq, Repr

namespace Letter

/-- the letter is this character and no quotes stand around it -/
def bare (l : Letter) (c : Char) : Bool := !l.quoted && l.char == c

/-- the letters as a text -/
def text (ls : List Letter) : String := String.ofList (ls.map Letter.char)

/-- a text as letters -/
def ofText (quoted : Bool) (s : String) : List Letter := s.toList.map (⟨·, quoted⟩)

end Letter

/-- a piece of a pattern -/
inductive Wildcard where
  | exactly (c : Char)
  | any
  | anyMany
  | oneOf (negated : Bool) (ranges : CharRanges)
  deriving DecidableEq, Repr

namespace Wildcard

/-- the ranges between brackets, and how many letters they take with the closing bracket; a closing bracket in front
stands for itself, and `skip` letters were read with the last range -/
def bracketed (inFront : Bool) (skip : Nat) : List Letter → Option (CharRanges × Nat)
  | [] => none
  | l :: ls =>
    let more := fun (ranges : CharRanges) (n : Nat) =>
      (bracketed false n ls).map fun (others, length) => (ranges ++ others, length + 1)
    match skip with
    | n + 1 => more [] n
    | 0 =>
      if l.bare ']' && !inFront then some ([], 1)
      else
        match if l.bare '[' then CharRanges.colons? (ls.map Letter.char) else none, ls with
        | some (ranges, n), _ => more ranges n
        | none, dash :: last :: _ =>
          if dash.bare '-' && !last.bare ']' then more [(l.char, last.char)] 2 else more [(l.char, l.char)] 0
        | none, _ => more [(l.char, l.char)] 0

/-- the bracketed piece behind an opening bracket and how many letters it takes -/
def bracket? (ls : List Letter) : Option (Wildcard × Nat) :=
  let negated := (ls.head?.map (·.bare '!')).getD false
  (bracketed true 0 (if negated then ls.drop 1 else ls)).map fun (ranges, n) =>
    (.oneOf negated ranges, if negated then n + 1 else n)

/-- the pattern that letters write; `skip` letters were read with the last piece -/
def read (skip : Nat) : List Letter → List Wildcard
  | [] => []
  | l :: ls =>
    match skip with
    | n + 1 => read n ls
    | 0 =>
      if l.bare '*' then .anyMany :: read 0 ls
      else if l.bare '?' then .any :: read 0 ls
      else if l.bare '[' then
        match bracket? ls with
        | some (piece, n) => piece :: read n ls
        | none => .exactly '[' :: read 0 ls
      else .exactly l.char :: read 0 ls

/-- the piece stands for the character -/
def fits (w : Wildcard) (c : Char) : Bool :=
  match w with
  | .exactly d => c == d
  | .any | .anyMany => true
  | .oneOf negated ranges => negated != ranges.holds c

/-- the pattern fits the whole text -/
def accepts : List Wildcard → List Char → Bool
  | [], cs => cs.isEmpty
  | .anyMany :: ws, cs => (List.range (cs.length + 1)).any fun n => accepts ws (cs.drop n)
  | _ :: _, [] => false
  | w :: ws, c :: cs => w.fits c && accepts ws cs

/-- the numbers from 0 to a length, in rising or falling order -/
def lengths (falling : Bool) (n : Nat) : List Nat :=
  if falling then (List.range (n + 1)).reverse else List.range (n + 1)

/-- the text without its shortest or longest start that fits -/
def withoutStart (longest : Bool) (ws : List Wildcard) (cs : List Char) : List Char :=
  match (lengths longest cs.length).find? fun n => accepts ws (cs.take n) with
  | some n => cs.drop n
  | none => cs

/-- the text without its shortest or longest end that fits -/
def withoutEnd (longest : Bool) (ws : List Wildcard) (cs : List Char) : List Char :=
  match (lengths (!longest) cs.length).find? fun n => accepts ws (cs.drop n) with
  | some n => cs.take n
  | none => cs

/-! ## Names of files -/

/-- the letters hold a wildcard -/
def isPattern (ls : List Letter) : Bool := ls.any fun l => l.bare '*' || l.bare '?' || l.bare '['

/-- the names in a directory, in order -/
def namesIn (d : Disk) (directory : String) : List String :=
  match d.locate (path (if directory.isEmpty then "." else directory)) with
  | .error _ => []
  | .ok place =>
    (d.tree.below place).filterMap fun (names, _) => if names.length = 1 then names.head?.map ofLetters else none

/-- names in a directory that fit; those that start with a dot only where the pattern does -/
def names (d : Disk) (directory : String) (ls : List Letter) : List String :=
  let dotted := (ls.head?.map Letter.char) == some '.'
  (([".", ".."] ++ namesIn d directory).filter fun name => startsWith name "." == dotted).filter fun name =>
    accepts (read 0 ls) name.toList

/-- the texts of paths, with one step more -/
def descend (d : Disk) (directories : List String) (step : List Letter) : List String :=
  directories.flatMap fun directory =>
    if isPattern step then (names d directory step).map (directory ++ ·) else [directory ++ Letter.text step]

/-- the paths that fit, in order -/
def files (d : Disk) (field : List Letter) : List String :=
  match splitBy (·.char == '/') field with
  | [] => []
  | first :: steps =>
    let found := steps.foldl (fun found step => descend d (found.map (· ++ "/")) step) (descend d [""] first)
    found.filter fun name => d.exists? (path name)

end Wildcard

end CodeSurvey.Shell
