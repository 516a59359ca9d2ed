/-
Searching a text for a pattern.

`find?` gives the leftmost match, `findAll` the matches from left to right, none overlapping another, and `replaceAll`
writes a text with every match replaced. A place inside an earlier match is passed over; the character before a match is
the one that stands before it in the whole text.
-/
import CodeSurvey.Pattern.Basic

namespace CodeSurvey

/-- a match: its text and the texts of its groups -/
structure Match where
  text : List Char
  groups : List (Nat × List Char)

/-- the text of a group that took part -/
def Match.group? (m : Match) (n : Nat) : Option String :=
  (m.groups.lookup n).map String.ofList

/-- the text of a group, empty where it took no part -/
def Match.group (m : Match) (n : Nat) : String :=
  (m.group? n).getD ""

namespace Pattern

/-- the match that starts here -/
def matchHere (p : Pattern) (lead : Option Char) (text : List Char) : Option Match :=
  p.run (fun c => some ⟨c.taken.text, c.groups.map fun g => (g.1, g.2.text)⟩) ⟨lead, ⟨0, []⟩, text, []⟩

/-- the leftmost match of the text after `lead` -/
def findFrom (p : Pattern) (lead : Option Char) : List Char → Option Match
  | [] => p.matchHere lead []
  | c :: cs => (p.matchHere lead (c :: cs)).orElse fun _ => findFrom p (some c) cs

/-- the matches of the text after its first `skip` characters -/
def findAllFrom (p : Pattern) (lead : Option Char) (skip : Nat) : List Char → List Match
  | [] => if skip = 0 then (p.matchHere lead []).toList else []
  | c :: cs =>
    match skip with
    | n + 1 => findAllFrom p (some c) n cs
    | 0 =>
      match p.matchHere lead (c :: cs) with
      | some m => m :: findAllFrom p (some c) (m.text.length - 1) cs
      | none => findAllFrom p (some c) 0 cs

/-- the text after its first `skip` characters, matches replaced by their images -/
def replaceAllFrom (p : Pattern) (image : Match → List Char) (lead : Option Char) (skip : Nat) :
    List Char → List Char
  | [] => []
  | c :: cs =>
    match skip with
    | n + 1 => replaceAllFrom p image (some c) n cs
    | 0 =>
      match p.matchHere lead (c :: cs) with
      | some m => image m ++ replaceAllFrom p image (some c) (m.text.length - 1) cs
      | none => c :: replaceAllFrom p image (some c) 0 cs

/-- the leftmost match -/
def find? (p : Pattern) (s : String) : Option Match := p.findFrom none s.toList

/-- the pattern matches somewhere -/
def occurs (p : Pattern) (s : String) : Bool := (p.find? s).isSome

/-- all matches, from left to right -/
def findAll (p : Pattern) (s : String) : List Match := p.findAllFrom none 0 s.toList

/-- the text with every match replaced; for patterns that never match the empty text -/
def replaceAll (p : Pattern) (image : Match → String) (s : String) : String :=
  String.ofList (p.replaceAllFrom (fun m => (image m).toList) none 0 s.toList)

end Pattern

end CodeSurvey
