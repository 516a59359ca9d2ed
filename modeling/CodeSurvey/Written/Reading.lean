/-
Patterns as users write them.

A written pattern is a row of pieces: characters, the dot, escapes, sets in brackets, groups, alternatives, repetitions
and edges of words and lines. Flags in parentheses change how the rest of a group is read. `Written.read?` turns the
text into a regular expression; it gives nothing for a text with an open group or set, a repetition of nothing, an
unknown escape, name or flag, a range or a count that runs backwards, or a request to look around, for one whose parts
stand too deep inside one another, and for one that needs too much space when its repetitions are written out.
-/
import CodeSurvey.Pattern.Automaton
import CodeSurvey.Written.Bracket

namespace CodeSurvey.Written

open Text

/-! ## Repetitions -/

/-- a number, with blanks around it -/
def readNumber (f : Flags) (cs : List Char) : Option (Nat × List Char) :=
  let (digits, rest) := f.collect isAsciiDigit (cs.dropWhile isBlank)
  let n := digits.foldl (fun n c => n * 10 + (c.toNat - 48)) 0
  if digits.isEmpty || Nat.pow 2 32 ≤ n then none else some (n, f.skip (rest.dropWhile isBlank))

/-- the counts in braces, from the opening one on: a least and, if there is one, a greatest -/
def readCounts (f : Flags) (cs : List Char) : Option (Nat × Option Nat × List Char) :=
  (readNumber f (f.step cs)).bind fun (low, rest) =>
    match rest with
    | '\x7d' :: after => some (low, some low, after)
    | ',' :: _ =>
      match f.step rest with
      | '\x7d' :: after => some (low, none, after)
      | more =>
        (readNumber f more).bind fun (high, rest) =>
          match rest with
          | '\x7d' :: after => if low ≤ high then some (low, some high, after) else none
          | _ => none
    | _ => none

/-- a question mark after a repetition turns its preference -/
def readPreference (f : Flags) : List Char → Bool × List Char
  | '?' :: rest => (!f.swapGreed, rest)
  | rest => (f.swapGreed, rest)

/-! ## Groups -/

/-- what a group's opening parenthesis and its marks begin -/
inductive Opening where
  /-- flags for the rest of the group that holds it -/
  | flags (f : Flags)
  /-- a group read with these flags; a counted one has a number, and perhaps a name -/
  | group (f : Flags) (counted : Bool) (name : Option String)

/-- the flags up to a colon or a closing parenthesis -/
def readFlags (seen : List Char) (negated : Bool) (f : Flags) : List Char → Option (Opening × List Char)
  | [] => none
  | ':' :: rest => if seen.head? == some '-' then none else some (.group f false none, rest)
  | ')' :: rest => if seen.isEmpty || seen.head? == some '-' then none else some (.flags f, rest)
  | '-' :: rest => if negated then none else readFlags ('-' :: seen) true f rest
  | c :: rest =>
    if seen.contains c then none
    else (f.set? c (!negated)).bind fun f => readFlags (c :: seen) negated f rest

def startsName (c : Char) : Bool := c == '_' || isAlphabetic c

def continuesName (c : Char) : Bool :=
  c == '_' || c == '.' || c == '[' || c == ']' || isAlphanumeric c

/-- the name of a group up to its closing angle bracket -/
def readGroupName (f : Flags) (cs : List Char) : Option (Opening × List Char) :=
  match cs.takeWhile (· != '>'), cs.dropWhile (· != '>') with
  | first :: more, _ :: rest =>
    if startsName first && more.all continuesName then
      some (.group f true (some (String.ofList (first :: more))), rest)
    else none
  | _, _ => none

/-- the marks after an opening parenthesis -/
def readOpening (f : Flags) (cs : List Char) : Option (Opening × List Char) :=
  match cs with
  | '?' :: '=' :: _ => none
  | '?' :: '!' :: _ => none
  | '?' :: '<' :: '=' :: _ => none
  | '?' :: '<' :: '!' :: _ => none
  | '?' :: 'P' :: '<' :: rest => readGroupName f rest
  | '?' :: '<' :: rest => readGroupName f rest
  | '?' :: rest => readFlags [] false f rest
  | _ => some (.group f true none, cs)

/-- a part of a pattern: what it fits, the number of parts that stand inside one another in it, and whether a repetition
may follow it -/
structure Piece where
  expr : Regular
  height : Nat
  repeats : Bool

/-- the greatest height of some pieces -/
def Piece.top (ps : List Piece) : Nat := (ps.map Piece.height).foldl max 0

/-- the pieces of a row, last first, as one piece -/
def Piece.row (ps : List Piece) : Piece :=
  match ps with
  | [] => ⟨.empty, 0, true⟩
  | [p] => p
  | ps => ⟨.seq (ps.reverse.map Piece.expr), Piece.top ps + 1, true⟩

/-- the rows of a group, last first, as one piece -/
def Piece.rows (row : List Piece) (rows : List (List Piece)) : Piece :=
  match rows with
  | [] => Piece.row row
  | rows =>
    let ps := (row :: rows).map Piece.row
    ⟨.either (ps.reverse.map Piece.expr), Piece.top ps + 1, true⟩

/-- what was read of a group: its flags, the number of counted groups and the names of groups so far, the rows before
the last one, and the pieces of the last row, last first -/
structure Reading where
  flags : Flags
  groups : Nat
  names : List String
  rows : List (List Piece)
  row : List Piece

/-- the reading with one piece more -/
def Reading.push (r : Reading) (p : Piece) : Reading := { r with row := p :: r.row }

/-- the reading with one expression more that has no parts -/
def Reading.pushLeaf (r : Reading) (e : Regular) : Reading := r.push ⟨e, 0, true⟩

/-- the reading with its last piece repeated -/
def Reading.again (r : Reading) (low : Nat) (high : Option Nat) (lazily : Bool) : Option Reading :=
  match r.row with
  | p :: row =>
    if p.repeats then some { r with row := ⟨.repeated low high lazily p.expr, p.height + 1, true⟩ :: row } else none
  | [] => none

/-- what was read of a group, as one piece -/
def Reading.piece (r : Reading) : Piece := Piece.rows r.row r.rows

/-- reads a group to its end; `depth` parentheses are open -/
def readGroup (depth : Nat) : (fuel : Nat) → Reading → List Char → Option (Reading × List Char)
  | 0, _, _ => none
  | fuel + 1, r, cs =>
    let f := r.flags
    match f.skip cs with
    | [] => if depth = 0 then some (r, []) else none
    | ')' :: rest => if depth = 0 then none else some (r, rest)
    | '|' :: rest => readGroup depth fuel { r with rows := r.row :: r.rows, row := [] } rest
    | '(' :: rest =>
      (readOpening f (f.skip rest)).bind fun (opening, after) =>
        match opening with
        | .flags g => readGroup depth fuel ({ r with flags := g }.push ⟨.empty, 0, false⟩) after
        | .group g counted name =>
          if name.any r.names.contains || heightLimit < depth then none
          else
            let number := if counted then r.groups + 1 else r.groups
            (readGroup (depth + 1) fuel ⟨g, number, name.toList ++ r.names, [], []⟩ after).bind fun (inner, after) =>
              let p := inner.piece
              let e := if counted then Regular.group number p.expr else p.expr
              readGroup depth fuel
                { r.push ⟨e, p.height + 1, true⟩ with groups := inner.groups, names := inner.names } after
    | '[' :: rest =>
      (readBracket f rest).bind fun (s, after) =>
        readGroup depth fuel (r.push ⟨.ofSet s.chars, s.height, true⟩) after
    | '?' :: rest =>
      let (lazily, after) := readPreference f rest
      (r.again 0 (some 1) lazily).bind fun r => readGroup depth fuel r after
    | '*' :: rest =>
      let (lazily, after) := readPreference f rest
      (r.again 0 none lazily).bind fun r => readGroup depth fuel r after
    | '+' :: rest =>
      let (lazily, after) := readPreference f rest
      (r.again 1 none lazily).bind fun r => readGroup depth fuel r after
    | '\x7b' :: rest =>
      (readCounts f ('\x7b' :: rest)).bind fun (low, high, after) =>
        let (lazily, after) := readPreference f (f.skip after)
        (r.again low high lazily).bind fun r => readGroup depth fuel r after
    | '.' :: rest => f.dot?.bind fun e => readGroup depth fuel (r.pushLeaf e) rest
    | '^' :: rest => readGroup depth fuel (r.pushLeaf (.look f.lineStart)) rest
    | '$' :: rest => readGroup depth fuel (r.pushLeaf (.look f.lineEnd)) rest
    | '\\' :: rest =>
      (readEscape f rest).bind fun (e, after) =>
        let e : Regular := match e with
          | .literal c => f.literal c
          | .set s => .ofSet s
          | .look l => .look l
        readGroup depth fuel (r.pushLeaf e) after
    | c :: rest => readGroup depth fuel (r.pushLeaf (f.literal c)) rest

/-- the expression of a text -/
def read? (text : String) : Option Regular :=
  let cs := text.toList
  (readGroup 0 (cs.length + 1) ⟨.initial, 0, [], [], []⟩ cs).bind fun (r, _) =>
    let p := r.piece
    if p.height ≤ heightLimit && p.expr.fitsSpace then some p.expr else none

end CodeSurvey.Written
