/-
Patterns that lines are searched for.

A pattern is written in one of two ways: the plain one puts a backslash before brackets, braces and bars that mean
something, the extended one does not. `LinePattern.ends` gives the states that a pattern leads to from a state, the
wanted ones first; of two states at one place only the first is kept. A search takes the match that starts first, and
of those the longest.
-/
import CodeSurvey.Shell.CharClass
import CodeSurvey.Shell.Number

namespace CodeSurvey.Shell

open Text

/-- a place between two characters -/
inductive Spot where
  | lineStart
  | lineEnd
  | wordStart
  | wordEnd
  /-- a start or an end of a word -/
  | wordEdge
  | noWordEdge
  deriving DecidableEq, Repr

inductive LinePattern where
  | empty
  | any
  | oneOf (negated : Bool) (ranges : CharRanges)
  | spot (s : Spot)
  /-- keeps what it matched under a number -/
  | group (n : Nat) (inner : LinePattern)
  /-- matches again what the group of the number did -/
  | again (n : Nat)
  | sequence (first second : LinePattern)
  | either (first second : LinePattern)
  | many (least : Nat) (most : Option Nat) (inner : LinePattern)
  deriving DecidableEq, Repr

namespace LinePattern

/-! ## Matches -/

/-- a place in a line, and what groups matched on the way there -/
structure State where
  pos : Nat
  groups : List (Nat × Nat × Nat)
  deriving DecidableEq, Repr

/-- a line, and whether the case of letters says nothing -/
structure Line where
  chars : Array Char
  anyCase : Bool
  /-- what groups matched decides what matches behind them -/
  recalls : Bool

/-- may stand in a word -/
def isWordChar (c : Char) : Bool := isAsciiAlphanumeric c || c == '_'

/-- a word has a character before the place -/
def Line.wordBefore (l : Line) (n : Nat) : Bool := n != 0 && (l.chars[n - 1]?).any isWordChar

/-- a word has a character behind the place -/
def Line.wordBehind (l : Line) (n : Nat) : Bool := (l.chars[n]?).any isWordChar

/-- the place is of the kind -/
def Line.isAt (l : Line) (s : Spot) (n : Nat) : Bool :=
  match s with
  | .lineStart => n == 0
  | .lineEnd => n == l.chars.size
  | .wordStart => !l.wordBefore n && l.wordBehind n
  | .wordEnd => l.wordBefore n && !l.wordBehind n
  | .wordEdge => l.wordBefore n != l.wordBehind n
  | .noWordEdge => l.wordBefore n == l.wordBehind n

/-- the ranges hold the character -/
def Line.fits (l : Line) (ranges : CharRanges) (c : Char) : Bool :=
  ranges.holds c || (l.anyCase && (ranges.holds c.toLower || ranges.holds c.toUpper))

/-- the states without those at a place where another one was before -/
def distinct (l : Line) (states : List State) : List State :=
  let same := fun (s t : State) => s.pos = t.pos && (!l.recalls || s.groups = t.groups)
  (states.foldl (fun kept s => if kept.any (same s) then kept else s :: kept) []).reverse

/-- the states after any number of steps that go on, most steps first; `found` has places seen, and states, last one
first -/
def repeated (step : State → List State) (fuel : Nat) (found : List Nat × List State) (s : State) :
    List Nat × List State :=
  if found.1.contains s.pos then found
  else
    match fuel with
    | 0 => (s.pos :: found.1, s :: found.2)
    | fuel + 1 =>
      let (seen, states) := (step s).foldl (repeated step fuel) (s.pos :: found.1, found.2)
      (seen, s :: states)

/-- the states after at most so many steps that go on, most steps first -/
def upTo (l : Line) (step : State → List State) (n : Nat) (s : State) : List State :=
  match n with
  | 0 => [s]
  | n + 1 => distinct l (((step s).filter (s.pos < ·.pos)).flatMap (upTo l step n) ++ [s])

/-- the states after exactly so many steps -/
def exactly (l : Line) (step : State → List State) (n : Nat) (states : List State) : List State :=
  match n with
  | 0 => states
  | n + 1 => exactly l step n (distinct l (states.flatMap step))

/-- the states that the pattern leads to -/
def ends (l : Line) : LinePattern → State → List State
  | .empty, s => [s]
  | .any, s => if s.pos < l.chars.size then [{ s with pos := s.pos + 1 }] else []
  | .oneOf negated ranges, s =>
    match l.chars[s.pos]? with
    | some c => if negated != l.fits ranges c then [{ s with pos := s.pos + 1 }] else []
    | none => []
  | .spot p, s => if l.isAt p s.pos then [s] else []
  | .group n inner, s =>
    (ends l inner s).map fun t => { t with groups := (n, s.pos, t.pos) :: t.groups.filter (·.1 != n) }
  | .again n, s =>
    match s.groups.lookup n with
    | some (first, last) =>
      let same := (List.range (last - first)).all fun i => l.chars[first + i]? == l.chars[s.pos + i]?
      if same then [{ s with pos := s.pos + (last - first) }] else []
    | none => []
  | .sequence a b, s => distinct l ((ends l a s).flatMap (ends l b))
  | .either a b, s => distinct l (ends l a s ++ ends l b s)
  | .many least most inner, s =>
    let step := ends l inner
    let start := exactly l step least [s]
    match most with
    | some n => distinct l (start.flatMap (upTo l step (n - least)))
    | none => (start.foldl (repeated step (l.chars.size + 1)) ([], [])).2.reverse

/-- the longest match that starts at the place; of equally long ones the first -/
def longest (l : Line) (p : LinePattern) (start : Nat) : Option State :=
  (p.ends l ⟨start, []⟩).foldl
    (fun best s =>
      match best with
      | some b => if b.pos < s.pos then some s else best
      | none => some s) none

/-- the first place from some place on where a match starts, with its longest match -/
def findFrom (l : Line) (p : LinePattern) (start : Nat) : Option (Nat × State) :=
  (List.range (l.chars.size + 1 - start)).findSome? fun i => (p.longest l (start + i)).map (start + i, ·)

/-! ## How patterns are written -/

/-- how patterns are written -/
structure Style where
  extended : Bool
  /-- line ends and tabs have forms of their own -/
  escapes : Bool

/-- one character -/
def char (c : Char) : LinePattern := .oneOf false [(c, c)]

def wordRanges : CharRanges := CharRanges.digits ++ CharRanges.upper ++ CharRanges.lower ++ [('_', '_')]

def spaceRanges : CharRanges := [('\t', '\r'), (' ', ' ')]

/-- the ranges between brackets, and the text behind them; a closing bracket in front stands for itself -/
def bracketed (style : Style) (fuel : Nat) (inFront : Bool) (cs : List Char) : Option (CharRanges × List Char) :=
  match fuel with
  | 0 => none
  | fuel + 1 =>
    let more := fun (ranges : CharRanges) (rest : List Char) =>
      (bracketed style fuel false rest).map fun (others, rest) => (ranges ++ others, rest)
    match cs with
    | [] => none
    | ']' :: rest => if inFront then range more ']' rest else some ([], rest)
    | '[' :: rest =>
      match CharRanges.colons? rest with
      | some (ranges, n) => more ranges (rest.drop n)
      | none => range more '[' rest
    | '\\' :: 'n' :: rest => if style.escapes then range more '\n' rest else range more '\\' ('n' :: rest)
    | '\\' :: 't' :: rest => if style.escapes then range more '\t' rest else range more '\\' ('t' :: rest)
    | c :: rest => range more c rest
where
  /-- a character, or a range that starts with it -/
  range (more : CharRanges → List Char → Option (CharRanges × List Char)) (c : Char) (rest : List Char) :
      Option (CharRanges × List Char) :=
    match rest with
    | '-' :: last :: behind => if last = ']' then more [(c, c)] rest else more [(c, last)] behind
    | _ => more [(c, c)] rest

/-- the piece behind an opening bracket, and the text behind it -/
def bracket (style : Style) (cs : List Char) : Option (LinePattern × List Char) :=
  let negated := cs.head? == some '^'
  let cs := if negated then cs.drop 1 else cs
  (bracketed style (cs.length + 1) true cs).map fun (ranges, rest) => (.oneOf negated ranges, rest)

/-- what a text means that may stand between two pieces -/
inductive Sign where
  | opening
  | closing
  | bar
  | repetition (least : Nat) (most : Option Nat)
  deriving DecidableEq, Repr

/-- the numbers of a repetition up to the sign that closes it, and the text behind -/
def bounds (ending : List Char) (cs : List Char) : Option (Sign × List Char) :=
  let least := cs.takeWhile isAsciiDigit
  let rest := cs.dropWhile isAsciiDigit
  let number := Number.ofDigits 10
  match rest with
  | ',' :: rest =>
    let most := rest.takeWhile isAsciiDigit
    (afterStart ending (rest.dropWhile isAsciiDigit)).map fun rest =>
      (.repetition (number least) (if most.isEmpty then none else some (number most)), rest)
  | rest =>
    if least.isEmpty then none
    else (afterStart ending rest).map fun rest => (.repetition (number least) (some (number least)), rest)

/-- the sign at the start of a text, and the text behind it -/
def takeSign (style : Style) (cs : List Char) : Option (Sign × List Char) :=
  match cs with
  | '*' :: rest => some (.repetition 0 none, rest)
  | '\\' :: c :: rest =>
    if style.extended then none
    else
      match c with
      | '(' => some (.opening, rest)
      | ')' => some (.closing, rest)
      | '|' => some (.bar, rest)
      | '+' => some (.repetition 1 none, rest)
      | '?' => some (.repetition 0 (some 1), rest)
      | '\x7b' => bounds ['\\', '\x7d'] rest
      | _ => none
  | c :: rest =>
    if !style.extended then none
    else
      match c with
      | '(' => some (.opening, rest)
      | ')' => some (.closing, rest)
      | '|' => some (.bar, rest)
      | '+' => some (.repetition 1 none, rest)
      | '?' => some (.repetition 0 (some 1), rest)
      | '\x7b' => bounds ['\x7d'] rest
      | _ => none
  | [] => none

/-- what a character behind a backslash stands for -/
def escaped (style : Style) (c : Char) : LinePattern :=
  match c with
  | '<' => .spot .wordStart
  | '>' => .spot .wordEnd
  | 'b' => .spot .wordEdge
  | 'B' => .spot .noWordEdge
  | 'w' => .oneOf false wordRanges
  | 'W' => .oneOf true wordRanges
  | 's' => .oneOf false spaceRanges
  | 'S' => .oneOf true spaceRanges
  | '\x60' => .spot .lineStart
  | '\x27' => .spot .lineEnd
  | 'n' => if style.escapes then char '\n' else char c
  | 't' => if style.escapes then char '\t' else char c
  | c => if isAsciiDigit c && c != '0' then .again (c.toNat - 48) else char c

/-- the text ends a branch of a pattern -/
def endsBranch (style : Style) (cs : List Char) : Bool :=
  match takeSign style cs with
  | some (.closing, _) | some (.bar, _) => true
  | _ => cs.isEmpty

/-- one piece that is no sign, and the text behind it -/
def takeAtom (style : Style) (inFront : Bool) (cs : List Char) : Option (LinePattern × List Char) :=
  match cs with
  | [] => none
  | '.' :: rest => some (.any, rest)
  | '[' :: rest => bracket style rest
  | '^' :: rest => some (if inFront || style.extended then .spot .lineStart else char '^', rest)
  | '$' :: rest => some (if endsBranch style rest || style.extended then .spot .lineEnd else char '$', rest)
  | '\\' :: c :: rest => some (escaped style c, rest)
  | ['\\'] => none
  | c :: rest => some (char c, rest)

/-- the pattern with the repetitions behind it -/
def takeRepeats (style : Style) (fuel : Nat) (p : LinePattern) (cs : List Char) : LinePattern × List Char :=
  match fuel, takeSign style cs with
  | fuel + 1, some (.repetition least most, rest) => takeRepeats style fuel (.many least most p) rest
  | _, _ => (p, cs)

/-- a sign of repetition that has nothing to repeat, and the text behind it -/
def takeLiteral (cs : List Char) : Option (LinePattern × List Char) :=
  match cs with
  | '\\' :: c :: rest => some (char c, rest)
  | c :: rest => some (char c, rest)
  | [] => none

mutual

/-- branches between bars; `groups` were opened before, and the number of those is given too -/
def takeBranches (style : Style) (fuel groups : Nat) (cs : List Char) : Option (LinePattern × Nat × List Char) :=
  match fuel with
  | 0 => none
  | fuel + 1 => do
    let (first, groups, rest) ← takePieces style fuel groups true cs
    match takeSign style rest with
    | some (.bar, rest) =>
      let (second, groups, rest) ← takeBranches style fuel groups rest
      return (.either first second, groups, rest)
    | _ => return (first, groups, rest)

/-- pieces one behind another -/
def takePieces (style : Style) (fuel groups : Nat) (inFront : Bool) (cs : List Char) :
    Option (LinePattern × Nat × List Char) :=
  match fuel with
  | 0 => none
  | fuel + 1 =>
    if endsBranch style cs then some (.empty, groups, cs)
    else do
      let (piece, groups, rest) ←
        match takeSign style cs with
        | some (.opening, rest) => do
          let (inner, more, rest) ← takeBranches style fuel (groups + 1) rest
          match takeSign style rest with
          | some (.closing, rest) => pure (.group (groups + 1) inner, more, rest)
          | _ => none
        | some (.repetition _ _, _) =>
          if inFront then (takeLiteral cs).map fun (p, rest) => (p, groups, rest) else none
        | _ => (takeAtom style inFront cs).map fun (p, rest) => (p, groups, rest)
      let (piece, rest) := if piece = .spot .lineStart && !style.extended then (piece, rest)
        else takeRepeats style (rest.length + 1) piece rest
      let (more, groups, rest) ← takePieces style fuel groups (piece = .spot .lineStart && !style.extended) rest
      return (.sequence piece more, groups, rest)

end
/-- the pattern that a text writes -/
def read? (style : Style) (text : String) : Option LinePattern :=
  let cs := text.toList
  match takeBranches style (4 * cs.length + 8) 0 cs with
  | some (p, _, []) => some p
  | _ => none

/-- the pattern that matches a text -/
def literal (text : String) : LinePattern := text.toList.foldr (fun c p => .sequence (char c) p) .empty

end LinePattern

end CodeSurvey.Shell
