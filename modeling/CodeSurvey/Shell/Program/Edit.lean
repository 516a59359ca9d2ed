/-
Editing lines by a script.

A script is a list of instructions with addresses. Each line of the input goes through all of them in a space where it
can be changed; what is in that space at the end is written. Instructions can also jump to marks, keep text in a second
space, and read further lines.
-/
import CodeSurvey.Shell.Program.Lines
import CodeSurvey.Shell.Program.Search

namespace CodeSurvey.Shell.Edit

open Text

/-! ## Scripts -/

inductive Address where
  | line (n : Nat)
  | last
  /-- lines that match; no pattern means the one used last -/
  | matching (p : Option LinePattern) (anyCase : Bool)
  | every (first step : Nat)

/-- where a range of lines ends -/
inductive RangeEnd where
  | at (a : Address)
  | after (lines : Nat)
  /-- the next line whose number is a multiple -/
  | multiple (n : Nat)

/-- the lines that an instruction is for -/
structure Selection where
  first : Option Address
  last : Option RangeEnd
  negated : Bool

/-- how the case of letters is changed -/
inductive Casing where
  | upper
  | lower
  | none
  /-- only the next character -/
  | upperNext
  | lowerNext
  deriving DecidableEq, Repr

/-- a part of a replacement -/
inductive Image where
  | char (c : Char)
  | group (n : Nat)
  | casing (c : Casing)

/-- a replacement of matches -/
structure Substitution where
  /-- no pattern means the one used last -/
  pattern : Option LinePattern
  anyCase : Bool
  image : List Image
  /-- the first match that is replaced -/
  number : Nat
  all : Bool
  prints : Bool
  file : Option String

inductive Action where
  | substitute (s : Substitution)
  | translate (pairs : List (Char × Char))
  | print
  | printFirst
  | delete
  | deleteFirst
  | next
  | joinNext
  | quit (prints : Bool) (status : Nat)
  | hold (more : Bool)
  | unhold (more : Bool)
  | exchange
  | number
  | unambiguous
  | append (text : String)
  | insert (text : String)
  | change (text : String)
  | readFile (name : String)
  | writeFile (name : String)
  | jump (mark : String)
  /-- jumps if something was replaced since the last line or jump, or if nothing was -/
  | jumpIf (replaced : Bool) (mark : String)
  | mark (name : String)
  | opening
  | closing

structure Instruction where
  selection : Selection
  action : Action

/-! ## How scripts are written -/

/-- a text up to a delimiter, and the text behind it; a backslash before the delimiter makes it part of the text, and
brackets protect it where `brackets` says so -/
def delimited (delimiter : Char) (brackets inside : Bool) : List Char → Option (List Char × List Char)
  | [] => none
  | '\\' :: c :: rest =>
    let put := if c = delimiter && !inside then [c] else if c = 'n' && delimiter != 'n' then ['\\', 'n'] else ['\\', c]
    (delimited delimiter brackets inside rest).map fun (text, rest) => (put ++ text, rest)
  | c :: rest =>
    if c = delimiter && !inside then some ([], rest)
    else
      let inside := if inside then c != ']' else brackets && c = '['
      (delimited delimiter brackets inside rest).map fun (text, rest) => (c :: text, rest)

def isGap (c : Char) : Bool := c == ' ' || c == '\t'

def skipGaps (cs : List Char) : List Char := cs.dropWhile isGap

/-- a pattern of a script; an empty one means the last one -/
def patternOf (extended : Bool) (cs : List Char) : Option (Option LinePattern) :=
  if cs.isEmpty then some none else (LinePattern.read? ⟨extended, true⟩ (String.ofList cs)).map some

/-- an address in front of a text, and the text behind it; none in the middle where there is none -/
def takeAddress (extended : Bool) (cs : List Char) : Option (Option Address × List Char) :=
  let pattern := fun (delimiter : Char) (rest : List Char) => do
    let (text, rest) ← delimited delimiter true false rest
    let p ← patternOf extended text
    let anyCase := rest.head? == some 'I'
    pure (some (Address.matching p anyCase), if anyCase then rest.drop 1 else rest)
  match cs with
  | '/' :: rest => pattern '/' rest
  | '\\' :: c :: rest => pattern c rest
  | '$' :: rest => some (some .last, rest)
  | c :: _ =>
    if isAsciiDigit c then
      let digits := cs.takeWhile isAsciiDigit
      let n := Number.ofDigits 10 digits
      match cs.drop digits.length with
      | '~' :: rest =>
        let step := rest.takeWhile isAsciiDigit
        some (some (.every n (Number.ofDigits 10 step)), rest.drop step.length)
      | rest => some (some (.line n), rest)
    else some (none, cs)
  | [] => some (none, [])

/-- the end of a range, and the text behind it -/
def takeRangeEnd (extended : Bool) (cs : List Char) : Option (RangeEnd × List Char) :=
  let number := fun (rest : List Char) (f : Nat → RangeEnd) =>
    let digits := rest.takeWhile isAsciiDigit
    if digits.isEmpty then none else some (f (Number.ofDigits 10 digits), rest.drop digits.length)
  match cs with
  | '+' :: rest => number rest .after
  | '~' :: rest => number rest .multiple
  | _ => do
    let (some a, rest) ← takeAddress extended cs | none
    return (.at a, rest)

/-- the lines that an instruction is for, and the text behind them -/
def takeSelection (extended : Bool) (cs : List Char) : Option (Selection × List Char) := do
  let (first, rest) ← takeAddress extended cs
  let rest := skipGaps rest
  let (last, rest) ← match first, rest with
    | some _, ',' :: rest => (takeRangeEnd extended (skipGaps rest)).map fun (e, rest) => (some e, rest)
    | _, rest => pure (none, rest)
  let rest := skipGaps rest
  let signs := rest.takeWhile fun c => c == '!' || isGap c
  return (⟨first, last, signs.contains '!'⟩, rest.drop signs.length)

/-- the parts of a replacement -/
def imageOf : List Char → List Image
  | [] => []
  | '&' :: rest => .group 0 :: imageOf rest
  | '\\' :: c :: rest =>
    let part := match c with
      | 'n' => Image.char '\n'
      | 't' => .char '\t'
      | 'r' => .char '\r'
      | 'a' => .char '\x07'
      | 'U' => .casing .upper
      | 'L' => .casing .lower
      | 'E' => .casing .none
      | 'u' => .casing .upperNext
      | 'l' => .casing .lowerNext
      | c => if isAsciiDigit c then .group (c.toNat - 48) else .char c
    part :: imageOf rest
  | c :: rest => .char c :: imageOf rest

/-- the marks behind a substitution, and the text behind them -/
def takeMarks (fuel : Nat) (s : Substitution) (cs : List Char) : Substitution × List Char :=
  match fuel with
  | 0 => (s, cs)
  | fuel + 1 =>
    match cs with
    | 'g' :: rest => takeMarks fuel { s with all := true } rest
    | 'p' :: rest => takeMarks fuel { s with prints := true } rest
    | 'i' :: rest | 'I' :: rest => takeMarks fuel { s with anyCase := true } rest
    | 'm' :: rest | 'M' :: rest | 'e' :: rest => takeMarks fuel s rest
    | 'w' :: rest =>
      let name := (skipGaps rest).takeWhile (· != '\n')
      ({ s with file := some (String.ofList name) }, (skipGaps rest).drop name.length)
    | c :: _ =>
      if isAsciiDigit c then
        let digits := cs.takeWhile isAsciiDigit
        takeMarks fuel { s with number := Number.ofDigits 10 digits } (cs.drop digits.length)
      else (s, cs)
    | [] => (s, [])

/-- lines of a text that an instruction holds: a backslash at the end of a line goes on with the next one -/
def takeText : List Char → List Char × List Char
  | [] => ([], [])
  | '\n' :: rest => ([], rest)
  | '\\' :: c :: rest => let (text, rest) := takeText rest; (c :: text, rest)
  | c :: rest => let (text, rest) := takeText rest; (c :: text, rest)

/-- the text of an instruction, with a line end -/
def textArgument (cs : List Char) : String × List Char :=
  let rest := skipGaps cs
  let rest := match rest with
    | '\\' :: more =>
      match skipGaps more with
      | '\n' :: more => more
      | _ => more
    | _ => rest
  let (text, rest) := takeText rest
  (String.ofList text ++ "\n", rest)

/-- a word up to a separator -/
def wordArgument (cs : List Char) : String × List Char :=
  let word := (skipGaps cs).takeWhile fun c => c != ';' && c != '\n' && !isSpace c && c != '\x7d'
  (String.ofList word, (skipGaps cs).drop word.length)

/-- the rest of a line -/
def lineArgument (cs : List Char) : String × List Char :=
  let line := (skipGaps cs).takeWhile (· != '\n')
  (String.ofList line, (skipGaps cs).drop line.length)

/-- an action, and the text behind it -/
def takeAction (extended : Bool) (cs : List Char) : Option (Action × List Char) :=
  let status := fun (prints : Bool) (rest : List Char) =>
    let digits := (skipGaps rest).takeWhile isAsciiDigit
    some (Action.quit prints (Number.ofDigits 10 digits), (skipGaps rest).drop digits.length)
  match cs with
  | [] => none
  | c :: rest =>
    match c with
    | 'p' => some (.print, rest)
    | 'P' => some (.printFirst, rest)
    | 'd' => some (.delete, rest)
    | 'D' => some (.deleteFirst, rest)
    | 'n' => some (.next, rest)
    | 'N' => some (.joinNext, rest)
    | 'q' => status true rest
    | 'Q' => status false rest
    | 'h' => some (.hold false, rest)
    | 'H' => some (.hold true, rest)
    | 'g' => some (.unhold false, rest)
    | 'G' => some (.unhold true, rest)
    | 'x' => some (.exchange, rest)
    | '=' => some (.number, rest)
    | 'l' => some (.unambiguous, rest)
    | '\x7b' => some (.opening, rest)
    | '\x7d' => some (.closing, rest)
    | 'a' => let (text, rest) := textArgument rest; some (.append text, rest)
    | 'i' => let (text, rest) := textArgument rest; some (.insert text, rest)
    | 'c' => let (text, rest) := textArgument rest; some (.change text, rest)
    | 'r' => let (name, rest) := lineArgument rest; some (.readFile name, rest)
    | 'w' => let (name, rest) := lineArgument rest; some (.writeFile name, rest)
    | 'b' => let (name, rest) := wordArgument rest; some (.jump name, rest)
    | 't' => let (name, rest) := wordArgument rest; some (.jumpIf true name, rest)
    | 'T' => let (name, rest) := wordArgument rest; some (.jumpIf false name, rest)
    | ':' => let (name, rest) := wordArgument rest; if name.isEmpty then none else some (.mark name, rest)
    | 's' => do
      let delimiter :: rest := rest | none
      if delimiter = '\n' || delimiter = '\\' then none
      let (text, rest) ← delimited delimiter true false rest
      let (image, rest) ← delimited delimiter false false rest
      let pattern ← patternOf extended text
      let (s, rest) := takeMarks (rest.length + 1) ⟨pattern, false, imageOf image, 1, false, false, none⟩ rest
      return (.substitute s, rest)
    | 'y' => do
      let delimiter :: rest := rest | none
      let (first, rest) ← delimited delimiter false false rest
      let (second, rest) ← delimited delimiter false false rest
      let a := Lines.listedChars first
      let b := Lines.listedChars second
      if a.length ≠ b.length then none
      return (.translate (a.zip b), rest)
    | _ => none

/-- what may stand between instructions -/
def skipSeparators (cs : List Char) : List Char := cs.dropWhile fun c => isSpace c || c == ';'

/-- the instructions of a text -/
def readAll (extended : Bool) (fuel : Nat) (cs : List Char) : Option (List Instruction) :=
  match fuel with
  | 0 => none
  | fuel + 1 =>
    match skipSeparators cs with
    | [] => some []
    | '#' :: rest => readAll extended fuel (rest.dropWhile (· != '\n'))
    | cs => do
      let (selection, rest) ← takeSelection extended cs
      let (action, rest) ← takeAction extended rest
      let ends := match action with
        | .opening | .closing | .append _ | .insert _ | .change _ => true
        | _ =>
          match skipGaps rest with
          | c :: _ => c == ';' || c == '\n' || c == '#' || c == '\x7d'
          | [] => true
      if !ends then none
      return ⟨selection, action⟩ :: (← readAll extended fuel rest)

/-! ## Work -/

/-- lines that are being edited -/
structure Editing where
  space : String
  kept : String
  /-- the number of the line -/
  number : Nat
  /-- lines behind this one -/
  rest : List String
  /-- what was written, last text first -/
  output : List String
  /-- what is written behind the line, last text first -/
  behind : List String
  /-- instructions whose range is open, with the last line if it is known -/
  ranges : List (Nat × Option Nat)
  replaced : Bool
  /-- the pattern that was used last -/
  latest : Option LinePattern
  /-- texts for files, last one first -/
  files : List (String × String)
  /-- how the work ended: whether the space is still written, and the status -/
  ended : Option (Bool × Nat)

/-- what comes after an instruction -/
inductive Course where
  | onward
  | jumping (mark : String)
  /-- the line is done; its space is written or not -/
  | done (prints : Bool)
  /-- the line starts again without a new one -/
  | again

namespace Editing

def write (e : Editing) (text : String) : Editing := { e with output := text :: e.output }

def line (text : String) (anyCase : Bool) : LinePattern.Line := ⟨text.toList.toArray, anyCase, true⟩

/-- the pattern, or the one used last -/
def pattern (e : Editing) (p : Option LinePattern) : LinePattern := (p.or e.latest).getD .empty

/-- the editing after a pattern was used -/
def recalled (e : Editing) (p : Option LinePattern) : Editing := { e with latest := p.or e.latest }

/-- the address means the line -/
def isAt (e : Editing) : Address → Bool
  | .line n => e.number = n
  | .last => e.rest.isEmpty
  | .matching p anyCase => ((e.pattern p).findFrom (line e.space anyCase) 0).isSome
  | .every first step => if step = 0 then e.number = first else first ≤ e.number && (e.number - first) % step = 0

/-- the pattern that an address uses -/
def addressPattern : Address → Option LinePattern
  | .matching p _ => p
  | _ => none

/-- the editing with a range opened or closed -/
def setOpen (e : Editing) (i : Nat) (range : Option (Option Nat)) : Editing :=
  { e with ranges := (range.map (i, ·)).toList ++ e.ranges.filter (·.1 != i) }

/-- whether an instruction is for the line, and the editing after that was looked at -/
def selects (e : Editing) (i : Nat) (s : Selection) : Editing × Bool :=
  let answer := fun (e : Editing) (found : Bool) => (e, found != s.negated)
  match s.first, s.last with
  | none, _ => answer e true
  | some a, none =>
    let e := e.recalled (addressPattern a)
    answer e (e.isAt a)
  | some a, some last =>
    let isZero := match a with | .line 0 => true | _ => false
    let range := match e.ranges.lookup i with
      | some range => some range
      | none => if isZero && e.number = 1 then some none else none
    match range with
    | some known =>
      match known, last with
      | some n, _ => answer (if n ≤ e.number then e.setOpen i none else e) (e.number ≤ n)
      | none, .at b =>
        let e := e.recalled (addressPattern b)
        answer (if e.isAt b then e.setOpen i none else e.setOpen i (some none)) true
      | none, _ => answer e true
    | none =>
      let e := e.recalled (addressPattern a)
      if !e.isAt a then answer e false
      else
        match last with
        | .after n => answer (if n = 0 then e else e.setOpen i (some (some (e.number + n)))) true
        | .multiple n =>
          let final := if n = 0 then e.number else (e.number + n - 1) / n * n
          answer (if final ≤ e.number then e else e.setOpen i (some (some final))) true
        | .at (.line n) => answer (if n ≤ e.number then e else e.setOpen i (some (some n))) true
        | .at .last => answer (if e.rest.isEmpty then e else e.setOpen i (some none)) true
        | .at _ => answer (e.setOpen i (some none)) true

/-- a text with its case changed -/
def cased (casing : Casing) (next : Option Casing) (text : String) : String :=
  let whole := match casing with
    | .upper => text.toList.map Char.toUpper
    | .lower => text.toList.map Char.toLower
    | _ => text.toList
  match whole, next with
  | c :: rest, some .upperNext => String.ofList (c.toUpper :: rest)
  | c :: rest, some .lowerNext => String.ofList (c.toLower :: rest)
  | cs, _ => String.ofList cs

/-- the text that replaces a match -/
def imageText (image : List Image) (group : Nat → String) : String :=
  let put := fun (state : List String × Casing × Option Casing) (text : String) =>
    let (texts, casing, next) := state
    if text.isEmpty then state else (cased casing next text :: texts, casing, none)
  let (texts, _, _) := image.foldl (fun (state : List String × Casing × Option Casing) part =>
    let (texts, casing, next) := state
    match part with
    | .char c => put state (String.singleton c)
    | .group n => put state (group n)
    | .casing .upperNext => (texts, casing, some .upperNext)
    | .casing .lowerNext => (texts, casing, some .lowerNext)
    | .casing c => (texts, c, next)) ([], .none, none)
  String.join texts.reverse

/-- the text with matches replaced from some place on, and whether there was one; `seen` matches came before, and a
match ended at `last` -/
def substituted (l : LinePattern.Line) (p : LinePattern) (s : Substitution) (fuel : Nat) (seen start : Nat)
    (last : Option Nat) : List Char × Bool :=
  let chars := fun (a b : Nat) => (l.chars.toList.take b).drop a
  let rest := (chars start l.chars.size, false)
  match fuel with
  | 0 => rest
  | fuel + 1 =>
    match p.findFrom l start with
    | none => rest
    | some (a, found) =>
      let b := found.pos
      let behind := if a = b then chars a (a + 1) else []
      let next := if a = b then a + 1 else b
      let goesOn := fun (seen : Nat) (last : Option Nat) =>
        if next ≤ l.chars.size then substituted l p s fuel seen next last else ([], false)
      if a = b && last = some a then
        let (more, any) := goesOn seen none
        (chars start a ++ behind ++ more, any)
      else if seen + 1 < s.number then
        let (more, any) := goesOn (seen + 1) (some b)
        (chars start b ++ behind ++ more, any)
      else
        let group := fun (n : Nat) =>
          if n = 0 then String.ofList (chars a b)
          else
            match found.groups.lookup n with
            | some (x, y) => String.ofList (chars x y)
            | none => ""
        let image := (imageText s.image group).toList
        if s.all then
          let (more, _) := goesOn (seen + 1) (some b)
          (chars start a ++ image ++ behind ++ more, true)
        else (chars start a ++ image ++ chars b l.chars.size, true)

/-- the text shown without anything hidden -/
def unambiguousText (text : String) : String :=
  let shown := fun (c : Char) =>
    let known := [('\\', "\\\\"), ('\x07', "\\a"), ('\x08', "\\b"), ('\x0c', "\\f"), ('\n', "\\n"), ('\r', "\\r"),
      ('\t', "\\t"), ('\x0b', "\\v")]
    match known.lookup c with
    | some s => s
    | none =>
      if 32 ≤ c.toNat && c.toNat < 127 then String.singleton c
      else
        let digits := String.ofList (Nat.toDigits 8 c.toNat)
        "\\" ++ String.ofList (List.replicate (3 - digits.length) '0') ++ digits
  String.join (text.toList.map shown) ++ "$\n"

/-- the next line in the space, if there is one -/
def advance (e : Editing) (space : String → String) : Option Editing :=
  match e.rest with
  | next :: rest => some { e with space := space next, rest := rest, number := e.number + 1 }
  | [] => none

/-- the editing with what stands behind a line written -/
def flush (e : Editing) : Editing := { e with output := e.behind ++ e.output, behind := [] }

/-- the editing with the space written, and what stands behind it -/
def finishLine (quiet prints : Bool) (e : Editing) : Editing :=
  (if quiet || !prints then e else e.write (e.space ++ "\n")).flush

/-- the editing after an action; `read` gives what a file holds -/
def act (quiet : Bool) (read : String → String) (inRange : Bool) (e : Editing) : Action → Editing × Course
  | .substitute s =>
    let e := e.recalled s.pattern
    let l := line e.space s.anyCase
    let (text, any) := substituted l (e.pattern s.pattern) s (l.chars.size + 2) 0 0 none
    if !any then (e, .onward)
    else
      let e := { e with space := String.ofList text, replaced := true }
      let e := if s.prints then e.write (e.space ++ "\n") else e
      (match s.file with
        | some "/dev/stdout" => e.write (e.space ++ "\n")
        | some name => { e with files := (name, e.space ++ "\n") :: e.files }
        | none => e, .onward)
  | .translate pairs =>
    ({ e with space := String.ofList (e.space.toList.map fun c => (pairs.lookup c).getD c) }, .onward)
  | .print => (e.write (e.space ++ "\n"), .onward)
  | .printFirst => (e.write (beforeFirst e.space '\n' ++ "\n"), .onward)
  | .delete => (e, .done false)
  | .deleteFirst =>
    if e.space.contains '\n' then
      ({ e with space := String.ofList ((e.space.toList.dropWhile (· != '\n')).drop 1) }, .again)
    else (e, .done false)
  | .next =>
    match (finishLine quiet true e).advance id with
    | some e => (e, .onward)
    | none => (e, .done true)
  | .joinNext =>
    match e.flush.advance fun next => e.space ++ "\n" ++ next with
    | some e => (e, .onward)
    | none => (e, .done true)
  | .quit prints status => ({ e with ended := some (prints, status) }, .done prints)
  | .hold more => ({ e with kept := if more then e.kept ++ "\n" ++ e.space else e.space }, .onward)
  | .unhold more => ({ e with space := if more then e.space ++ "\n" ++ e.kept else e.kept }, .onward)
  | .exchange => ({ e with space := e.kept, kept := e.space }, .onward)
  | .number => (e.write (toString e.number ++ "\n"), .onward)
  | .unambiguous => (e.write (unambiguousText e.space), .onward)
  | .append text => ({ e with behind := text :: e.behind }, .onward)
  | .insert text => (e.write text, .onward)
  | .change text => (if inRange then e else e.write text, .done false)
  | .readFile name => ({ e with behind := read name :: e.behind }, .onward)
  | .writeFile name =>
    if name == "/dev/stdout" then (e.write (e.space ++ "\n"), .onward)
    else ({ e with files := (name, e.space ++ "\n") :: e.files }, .onward)
  | .jump mark => (e, .jumping mark)
  | .jumpIf replaced mark =>
    if e.replaced = replaced then ({ e with replaced := false }, .jumping mark)
    else ({ e with replaced := false }, .onward)
  | .mark _ | .opening | .closing => (e, .onward)

/-- the number of the instruction that closes the braces opened before some instruction -/
def closingFrom (script : Array Instruction) (fuel depth i : Nat) : Nat :=
  match fuel with
  | 0 => i
  | fuel + 1 =>
    match (script[i]?).map Instruction.action with
    | some .opening => closingFrom script fuel (depth + 1) (i + 1)
    | some .closing => if depth = 0 then i else closingFrom script fuel (depth - 1) (i + 1)
    | some _ => closingFrom script fuel depth (i + 1)
    | none => i

/-- the number of a mark; the end of the script has none -/
def markAt (script : Array Instruction) (mark : String) : Nat :=
  if mark.isEmpty then script.size
  else (script.findIdx? fun i => match i.action with | .mark name => name == mark | _ => false).getD script.size

/-- the editing after the instructions from some number on, and whether the space is written; none where the line
starts again -/
def steps (quiet : Bool) (read : String → String) (script : Array Instruction) (fuel i : Nat) (e : Editing) :
    Editing × Option Bool :=
  match fuel, script[i]? with
  | 0, _ => ({ e with ended := some (false, 1) }, some false)
  | _, none => (e, some true)
  | fuel + 1, some instruction =>
    let (e, selected) := e.selects i instruction.selection
    if !selected then
      match instruction.action with
      | .opening => steps quiet read script fuel (closingFrom script script.size 0 (i + 1)) e
      | _ => steps quiet read script fuel (i + 1) e
    else
      let inRange := instruction.selection.last.isSome && (e.ranges.lookup i).isSome && !e.rest.isEmpty
      match e.act quiet read inRange instruction.action with
      | (e, .onward) => steps quiet read script fuel (i + 1) e
      | (e, .jumping mark) => steps quiet read script fuel (markAt script mark) e
      | (e, .done prints) => (e, some prints)
      | (e, .again) => (e, none)

/-- how many instructions a line may go through -/
def stepLimit : Nat := 20000

/-- the editing after all lines -/
def run (quiet : Bool) (read : String → String) (script : Array Instruction) (fuel : Nat) (e : Editing) : Editing :=
  match fuel with
  | 0 => e
  | fuel + 1 =>
    match steps quiet read script stepLimit 0 { e with replaced := false } with
    | (e, none) => run quiet read script fuel e.flush
    | (e, some prints) =>
      let e := finishLine quiet prints e
      if e.ended.isSome then e
      else
        match e.advance id with
        | some e => run quiet read script fuel e
        | none => e

/-- the editing of lines -/
def ofLines (lines : List String) : Option Editing :=
  match lines with
  | [] => none
  | first :: rest => some ⟨first, "", 1, rest, [], [], [], false, none, [], none⟩

end Editing

/-- what a script makes of bytes: the text, what is for other files, and the status; a missing line end stays missing -/
def edit (quiet : Bool) (read : String → String) (script : Array Instruction) (content : Bytes) :
    String × List (String × String) × Nat :=
  let lines := linesOf content
  match Editing.ofLines lines with
  | none => ("", [], 0)
  | some e =>
    let e := e.run quiet read script (4 * lines.length + 4 + content.length)
    let text := String.join e.output.reverse
    let isOpen := content.getLast? != some 10 && e.rest.isEmpty && endsWith text "\n"
    (if isOpen then String.ofList text.toList.dropLast else text, e.files.reverse, (e.ended.map (·.2)).getD 0)

def form : OptionForm where
  flags := "nErszu"
  valued := "efl"
  long := [("quiet", 'n'), ("silent", 'n'), ("regexp-extended", 'E'), ("expression", 'e'), ("file", 'f'),
    ("separate", 's'), ("in-place", 'i'), ("null-data", 'z'), ("posix", 'u')]

/-- the arguments without the option that edits files themselves, and the ending of the names of copies; letters behind
the option's letter are such an ending -/
def takeInPlace (args : List String) : List String × Option String :=
  args.foldr (fun a (rest, found) =>
    let letters := a.toList.drop 1
    let before := letters.takeWhile fun c => ['n', 'E', 'r', 's', 'z', 'u'].contains c
    if startsWith a "--in-place" then (rest, some (String.ofList (a.toList.drop "--in-place=".length)))
    else if startsWith a "-" && !startsWith a "--" && (letters.drop before.length).head? == some 'i' then
      ((if before.isEmpty then rest else String.ofList ('-' :: before) :: rest),
        some (String.ofList (letters.drop (before.length + 1))))
    else (a :: rest, found)) ([], none)

/-- the run with texts in files, each of which starts anew -/
def writeFiles (files : List (String × String)) (r : Run) : Run :=
  ((files.map (·.1)).eraseDups).foldl (fun r name =>
    let text := String.join ((files.filter (·.1 == name)).map (·.2))
    Files.change r ("sed: couldn't open file " ++ name) (r.disk.write (path name) (bytesOf text))) r

def sed : Program := fun args r =>
  let beforeEnd := args.takeWhile (· != "--")
  let (kept, inPlace) := takeInPlace beforeEnd
  form.program "sed" 1 (fun g r =>
    let extended := g.has 'E' || g.has 'r'
    let given := g.options.filterMap fun (c, text) =>
      if c == 'e' then some text
      else if c == 'f' then some (textOf ((r.disk.readBytes (path text)).toOption.getD []))
      else none
    let (text, names) := if given.isEmpty then (g.operands.headD "", g.operands.drop 1)
      else (joined "\n" given, g.operands)
    if given.isEmpty && g.operands.isEmpty then r.refuse 1 "Usage: sed [OPTION]... {script-only-if-no-other-script} [input-file]..."
    else
      let quiet := g.has 'n' || startsWith text "#n\n"
      match readAll extended (text.length + 2) text.toList with
      | none => r.refuse 1 "sed: -e expression #1, char 0: unknown command"
      | some instructions =>
        let script := instructions.toArray
        let read := fun (r : Run) (name : String) => textOf ((r.disk.readBytes (path name)).toOption.getD [])
        if inPlace.isSome || g.has 's' then
          names.foldl (fun r name =>
            match r.disk.readBytes (path name) with
            | .error .isDirectory => r.refuse 4 ("sed: couldn't edit " ++ name ++ ": not a regular file")
            | .error fault => r.refuse 2 ("sed: can't read " ++ name ++ ": " ++ faultWords fault)
            | .ok content =>
              let (text, files, status) := edit quiet (read r) script content
              let r := writeFiles files r
              let r := if status != 0 then r.withStatus status else r
              match inPlace with
              | some ending =>
                let r := if ending.isEmpty then r
                  else
                    let copy := if ending.contains '*' then replace ending "*" name else name ++ ending
                    Files.change r "sed" (r.disk.write (path copy) content)
                Files.change r "sed" (r.disk.write (path name) (bytesOf text))
              | none => r.print text) r
        else
          let (r, contents) := (if names.isEmpty then ["-"] else names).foldl (fun (r, found) name =>
            match r.readOperand name with
            | (r, .ok content) => (r, found ++ [content])
            | (r, .error .isDirectory) => (r.refuse 2 ("sed: couldn't read " ++ name ++ ": Is a directory"), found)
            | (r, .error fault) => (r.refuse 2 ("sed: can't read " ++ name ++ ": " ++ faultWords fault), found)) (r, [])
          let joinedContent := contents.foldl (fun before content =>
            if before.isEmpty || before.getLast? == some 10 then before ++ content else before ++ 10 :: content) []
          let (text, files, status) := edit quiet (read r) script joinedContent
          let r := writeFiles files (r.print text)
          if status != 0 then r.withStatus status else r) (kept ++ args.drop beforeEnd.length) r

/-- the programs by their names -/
def program? (name : String) : Option Program :=
  match name with
  | "sed" => some sed
  | _ => none

end CodeSurvey.Shell.Edit
