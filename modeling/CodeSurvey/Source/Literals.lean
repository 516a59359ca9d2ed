/-
Literal contents blanked out.

`mask` replaces each byte inside a string or character literal by a space and leaves the quotes and every other byte
where they are, so that a place in the masked copy is the same place in the text. `closing` finds, in masked bytes, the
delimiter that closes the first one; a closing delimiter that comes too early ends the search.
-/
import CodeSurvey.Source.Comments

namespace CodeSurvey.Source

open Text

/-- the literal a byte stands in -/
inductive Literal where
  | string
  | char
  deriving DecidableEq, Repr

/-- the quote that opens and closes the literal -/
def Literal.quote : Literal → UInt8
  | .string => Source.quote
  | .char => apostrophe

/-- outside literals, in a literal, or in one just after a backslash -/
inductive MaskMode where
  | code
  | inside (literal : Literal)
  | escaped (literal : Literal)
  deriving DecidableEq, Repr

/-- the mode after a byte -/
def MaskMode.next : MaskMode → UInt8 → MaskMode
  | .code, b => if b = Source.quote then .inside .string else if b = apostrophe then .inside .char else .code
  | .inside l, b => if b = backslash then .escaped l else if b = l.quote then .code else .inside l
  | .escaped l, _ => .inside l

/-- the byte as the masked copy shows it -/
def MaskMode.shown : MaskMode → UInt8 → UInt8
  | .code, b => b
  | .inside l, b => if b = l.quote then b else space
  | .escaped _, _ => space

/-- the masked copy of bytes that start in a mode -/
def maskFrom : MaskMode → Bytes → Bytes
  | _, [] => []
  | mode, b :: rest => mode.shown b :: maskFrom (mode.next b) rest

/-- the copy with literal contents blanked, byte for byte in the same place -/
def mask (bs : Bytes) : Bytes := maskFrom .code bs

/-- how far it is to the delimiter that brings the depth back to zero -/
def closing (opening closer : UInt8) (depth : Nat) : Bytes → Option Nat
  | [] => none
  | b :: rest =>
    if b = opening then (closing opening closer (depth + 1) rest).map (· + 1)
    else if b = closer then
      match depth with
      | 0 => none
      | 1 => some 0
      | d + 2 => (closing opening closer (d + 1) rest).map (· + 1)
    else (closing opening closer depth rest).map (· + 1)

/-- the place of the delimiter that closes the one at `start` -/
def findMatching (bs : Bytes) (start : Nat) (opening closer : UInt8) : Option Nat :=
  (closing opening closer 0 (bs.drop start)).map (· + start)

end CodeSurvey.Source
