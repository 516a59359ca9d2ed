/-
What words stand for.

Parameters, scripts and calculations in a word are put in place first; that makes `Piece`s. Then values outside of
quotes are cut where separators stand, and fields with wildcards name files. A word that is not cut is one text. A word
may hold a script of its own, so expansion is told by `deeper` how to run one.
-/
import CodeSurvey.Shell.Arithmetic
import CodeSurvey.Shell.Job

namespace CodeSurvey.Shell

open Text

/-- a piece of what a word stands for -/
inductive Piece where
  /-- a letter; separators cut it where `cut` says so -/
  | letter (l : Letter) (cut : Bool)
  /-- makes a field even if nothing else does -/
  | nothing
  /-- a field ends here -/
  | apart
  deriving DecidableEq, Repr

namespace Piece

/-- a value as pieces -/
def ofValue (quoted : Bool) (value : String) : List Piece := value.toList.map fun c => .letter ⟨c, quoted⟩ (!quoted)

/-- values as pieces of fields of their own -/
def ofValues (quoted : Bool) (values : List String) : List Piece :=
  [Piece.apart].intercalate (values.map fun v => (if quoted then [.nothing] else []) ++ ofValue quoted v)

/-- the piece of a word inside of another one, where letters are cut like values -/
def asValue : Piece → Piece
  | .letter l _ => .letter l (!l.quoted)
  | p => p

/-- the letters of pieces that make one text -/
def letters (separator : List Char) (ps : List Piece) : List Letter :=
  ps.flatMap fun
    | .letter l _ => [l]
    | .nothing => []
    | .apart => separator.map (⟨·, true⟩)

end Piece

/-! ## Fields -/

/-- fields that are being cut -/
structure Cut where
  /-- last one first -/
  closed : List (List Letter)
  /-- the letters of the open field, last one first -/
  opened : Option (List Letter)
  /-- blanks ended the last field, and nothing came after them -/
  spaced : Bool

namespace Cut

/-- the separator counts only together with others -/
def isSpacing (c : Char) : Bool := c == ' ' || c == '\t' || c == '\n'

def close (c : Cut) : Cut :=
  match c.opened with
  | some ls => ⟨ls.reverse :: c.closed, none, false⟩
  | none => { c with spaced := false }

/-- the fields behind one more piece -/
def next (separators : List Char) (c : Cut) : Piece → Cut
  | .nothing => { c with opened := some (c.opened.getD []), spaced := false }
  | .apart => c.close
  | .letter l cut =>
    if cut && !l.quoted && separators.contains l.char then
      if isSpacing l.char then if c.opened.isSome then { c.close with spaced := true } else c
      else if c.spaced then { c with spaced := false }
      else ⟨(c.opened.getD []).reverse :: c.closed, none, false⟩
    else { c with opened := some (l :: c.opened.getD []), spaced := false }

/-- the fields that separators make of pieces -/
def fields (separators : List Char) (ps : List Piece) : List (List Letter) :=
  (ps.foldl (next separators) ⟨[], none, false⟩).close.closed.reverse

end Cut

/-- the characters that cut values -/
def Run.separators (r : Run) : List Char := (r.valueOr "IFS" " \t\n").toList

/-- the character between values that are put together -/
def Run.separator (r : Run) : List Char := r.separators.take 1

/-! ## Expansion -/

/-- expansion of a word, from a run and the pieces before it, last one first -/
abbrev Expansion := Word → Run × List Piece → Run × List Piece

/-- the run and the pieces of a word -/
def expandPieces (inner : Expansion) (w : Word) (r : Run) : Run × List Piece :=
  let (r, ps) := inner w (r, [])
  (r, ps.reverse)

/-- the run and the letters of a word that is not cut -/
def expandLetters (inner : Expansion) (w : Word) (r : Run) : Run × List Letter :=
  let (r, ps) := expandPieces inner w r
  (r, Piece.letters r.separator ps)

/-- the run after a script in a process of its own, and what the script wrote, without the line ends behind it -/
def capture (deeper : Deeper) (script : String) (r : Run) : Run × String :=
  let r := r.settleJobs deeper
  let (files, channel) := r.files.add (.pipe [] [])
  let inner := ({ r with files := files }.fork).lead 1 (some channel)
  let after := ((deeper (Script.readFrom r.scope.line script) inner).conclude deeper).awaitWriters deeper [channel]
  let text := (textOf (after.files.written channel)).toList.filter (· != '\x00')
  ({ r.absorb after with status := r.status, heard := after.ending.status },
    String.ofList (text.reverse.dropWhile (· == '\n')).reverse)

/-- the values of a parameter; none where it has no value -/
def Run.values? (r : Run) (name : String) : Option (List String) :=
  if name == "@" || name == "*" then some r.scope.arguments else (r.parameter? name).map fun v => [v]

/-- the pieces of the values of a parameter -/
def Run.parameterPieces (r : Run) (name : String) (quoted : Bool) (values : List String) : List Piece :=
  if quoted && name != "@" then Piece.ofValue true (joined (String.ofList r.separator) values)
  else Piece.ofValues (quoted && name == "@") values

/-- the run and the pieces of a parameter as its braces form it -/
def expandForm (inner : Expansion) (name : String) (form : Forming) (operand : String) (quoted : Bool) (r : Run) :
    Run × List Piece :=
  let values := r.values? name
  let put := fun (r : Run) (values : List String) => (r, r.parameterPieces name quoted values)
  let read := fun (quote : Quote) => (readWord quote 0 operand.toList).getD []
  let word := read (if quoted then .braces else .none)
  let given := fun (whenEmpty : Bool) => values.any fun vs => !vs.isEmpty && (!whenEmpty || vs.any (!·.isEmpty))
  let missing := fun (r : Run) => (r.fail (name ++ ": parameter not set"), [])
  let use := fun (r : Run) => match values with
    | some vs => put r vs
    | none => if r.has 'u' then missing r else put r []
  let operandPieces := fun (r : Run) =>
    let (r, ps) := expandPieces inner word r
    (r, if quoted then .nothing :: ps else ps.map Piece.asValue)
  let cut := fun (f : List Wildcard → List Char → List Char) =>
    if values.isNone && r.has 'u' then missing r
    else
      let (r, ls) := expandLetters inner (read .none) r
      put r ((values.getD []).map fun v => String.ofList (f (Wildcard.read 0 ls) v.toList))
  match form with
  | .plain => use r
  | .size =>
    if values.isNone && r.has 'u' then missing r
    else
      let length := (joined (String.ofList r.separator) (values.getD [])).length
      (r, Piece.ofValue quoted (toString length))
  | .orElse whenEmpty => if given whenEmpty then put r (values.getD []) else operandPieces r
  | .orAssign whenEmpty =>
    if given whenEmpty then put r (values.getD [])
    else
      let (r, ls) := expandLetters inner word r
      let r := if isName name.toList then r.assign name (Letter.text ls) else r.fail (name ++ ": bad variable name")
      put r [Letter.text ls]
  | .orFail whenEmpty =>
    if given whenEmpty then put r (values.getD [])
    else
      let (r, ls) := expandLetters inner word r
      let text := if operand.isEmpty then "parameter not set" ++ (if whenEmpty then " or null" else "")
        else Letter.text ls
      (r.fail (name ++ ": " ++ text), [])
  | .instead whenEmpty => if given whenEmpty then operandPieces r else (r, [])
  | .withoutStart longest => cut (Wildcard.withoutStart longest)
  | .withoutEnd longest => cut (Wildcard.withoutEnd longest)

/-- what is said about a calculation without a value -/
def faultText (expression : String) : Arithmetic.Fault → String
  | .divisionByZero => "arithmetic expression: division by zero: \"" ++ expression ++ "\""
  | .expecting what => "arithmetic expression: expecting " ++ what ++ ": \"" ++ expression ++ "\""
  | .illegalNumber text => "Illegal number: " ++ text

/-- the run after a calculation, and its value -/
def Run.calculate (r : Run) (expression : String) : Run × String :=
  match Arithmetic.evaluate r.value? expression with
  | .error fault => (r.fail (faultText expression fault), "")
  | .ok (n, settings) =>
    let assign := fun (r : Run) (s : String × Int) => if r.goesOn then r.assign s.1 (toString s.2) else r
    (settings.reverse.foldl assign r, toString n)

/-- the run and the pieces after a part of a word -/
def expandPart (deeper : Deeper) (inner : Expansion) (state : Run × List Piece) (part : Part) : Run × List Piece :=
  let (r, before) := state
  let add := fun (after : Run × List Piece) => (after.1, after.2.reverse ++ before)
  if !r.goesOn then state
  else
    match part with
    | .letter l => (r, .letter l false :: before)
    | .nothing => (r, .nothing :: before)
    | .parameter name form operand quoted => add (expandForm inner name form operand quoted r)
    | .output script quoted =>
      let (r, text) := capture deeper script r
      add (r, Piece.ofValue quoted text)
    | .number expression quoted =>
      let (r, ls) := expandLetters inner ((readWord .document 0 expression.toList).getD []) r
      if !r.goesOn then (r, before)
      else
        let (r, value) := r.calculate (Letter.text ls)
        add (r, Piece.ofValue quoted value)
    | .unknown => (r.fail "Bad substitution", before)

/-- the run and the pieces after a word; words inside of words go at most so deep -/
def expandWord (deeper : Deeper) (depth : Nat) : Expansion :=
  match depth with
  | 0 => fun _ state => state
  | depth + 1 => fun w state => w.foldl (expandPart deeper (expandWord deeper depth)) state

/-- how deep words may stand inside of words -/
def wordDepth : Nat := 16

/-- the word with a home in place of a tilde -/
def Run.withHome (r : Run) (value : Bool) (w : Word) : Word :=
  match r.value? "HOME" with
  | some home => Shell.withHome home value true w
  | none => w

/-- the run and the letters of a pattern -/
def expandPattern (deeper : Deeper) (w : Word) (r : Run) : Run × List Letter :=
  expandLetters (expandWord deeper wordDepth) (r.withHome false w) r

/-- the run and the text of a word that is not cut -/
def expandText (deeper : Deeper) (w : Word) (r : Run) : Run × String :=
  let (r, ls) := expandPattern deeper w r
  (r, Letter.text ls)

/-- the run and the text of a word that is the value of a variable -/
def expandValue (deeper : Deeper) (w : Word) (r : Run) : Run × String :=
  let (r, ls) := expandLetters (expandWord deeper wordDepth) (r.withHome true w) r
  (r, Letter.text ls)

/-- the run and the text of a document -/
def expandDocument (deeper : Deeper) (w : Word) (r : Run) : Run × String :=
  let (r, ls) := expandLetters (expandWord deeper wordDepth) w r
  (r, Letter.text ls)

/-- the fields that one field stands for -/
def Run.fieldTexts (r : Run) (field : List Letter) : List String :=
  if Wildcard.isPattern field && !r.has 'f' then
    match Wildcard.files r.disk field with
    | [] => [Letter.text field]
    | found => found
  else [Letter.text field]

/-- the run and the fields of a word -/
def expandFields (deeper : Deeper) (w : Word) (r : Run) : Run × List String :=
  match plainText? w with
  | some text =>
    if text.toList.any fun c => ['*', '?', '[', '~'].contains c then expand r else (r, [text])
  | none => expand r
where
  /-- the run and the fields of a word that is more than a text -/
  expand (r : Run) : Run × List String :=
    let (r, ps) := expandPieces (expandWord deeper wordDepth) (r.withHome false w) r
    (r, (Cut.fields r.separators ps).flatMap r.fieldTexts)

/-- the run and the fields of words -/
def expandAll (deeper : Deeper) : List Word → Run → Run × List String
  | [], r => (r, [])
  | w :: ws, r =>
    let (r, fields) := expandFields deeper w r
    if r.goesOn then
      let (r, more) := expandAll deeper ws r
      (r, fields ++ more)
    else (r, fields)

end CodeSurvey.Shell
