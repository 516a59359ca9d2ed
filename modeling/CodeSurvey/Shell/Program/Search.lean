/-
Lines that match a pattern.

`grep` chooses lines by patterns and shows them, or what of them matched, or how many there are. Its status says whether
a line was chosen.
-/
import CodeSurvey.Shell.LinePattern
import CodeSurvey.Shell.Program.Contents

namespace CodeSurvey.Shell.Search

open Text

/-- what a line must have -/
structure Wanted where
  pattern : LinePattern
  anyCase : Bool
  /-- a match must be whole words -/
  words : Bool
  /-- a match must be the line -/
  whole : Bool

namespace Wanted

/-- the line as patterns see it -/
def line (w : Wanted) (text : String) : LinePattern.Line := ⟨text.toList.toArray, w.anyCase, true⟩

/-- the match at a place may count -/
def allows (w : Wanted) (l : LinePattern.Line) (start last : Nat) : Bool :=
  (!w.whole || (start = 0 && last = l.chars.size)) && (!w.words || (!l.wordBefore start && !l.wordBehind last))

/-- the first match from a place on, of those that start there the longest -/
def find (w : Wanted) (l : LinePattern.Line) (start : Nat) : Option (Nat × Nat) :=
  (List.range (l.chars.size + 1 - start)).findSome? fun i =>
    let lasts := ((w.pattern.ends l ⟨start + i, []⟩).map (·.pos)).filter (w.allows l (start + i))
    (lasts.foldl (fun best n => some (max n (best.getD n))) none).map (start + i, ·)

def matches? (w : Wanted) (text : String) : Bool := (w.find (w.line text) 0).isSome

/-- all matches in a line, without those of no characters -/
def all (w : Wanted) (l : LinePattern.Line) (fuel start : Nat) : List (Nat × Nat) :=
  match fuel with
  | 0 => []
  | fuel + 1 =>
    match w.find l start with
    | none => []
    | some (a, b) => if a = b then all w l fuel (a + 1) else (a, b) :: all w l fuel b

end Wanted

/-- lines that are shown, with whether each was chosen; blanks between groups have no line -/
def withContext (before after : Nat) (chosen : List Nat) (count : Nat) : List (Option (Nat × Bool)) :=
  let shown := (List.range count).filter fun n => chosen.any fun c => n ≤ c + after && c ≤ n + before
  let gap := before + after != 0
  (shown.foldl (fun (found, last) n =>
    let apart := gap && (match last with | some m => m + 1 < n | none => false)
    (some (n, chosen.contains n) :: (if apart then none :: found else found), some n)) ([], none)).1.reverse

def form : OptionForm where
  flags := "cvniyqslLowxEFGPrRhHabzU"
  valued := "efmABCIXD"
  long := [("count", 'c'), ("invert-match", 'v'), ("line-number", 'n'), ("ignore-case", 'i'), ("quiet", 'q'),
    ("silent", 'q'), ("no-messages", 's'), ("files-with-matches", 'l'), ("files-without-match", 'L'),
    ("only-matching", 'o'), ("word-regexp", 'w'), ("line-regexp", 'x'), ("extended-regexp", 'E'),
    ("fixed-strings", 'F'), ("basic-regexp", 'G'), ("perl-regexp", 'P'), ("recursive", 'r'), ("no-filename", 'h'),
    ("with-filename", 'H'), ("regexp", 'e'), ("file", 'f'), ("max-count", 'm'), ("after-context", 'A'),
    ("before-context", 'B'), ("context", 'C'), ("include", 'I'), ("exclude", 'X'), ("color", 'a'), ("text", 'a')]

/-- the files that operands mean; directories mean what is below them -/
def filesOf (g : Given) (d : Disk) (operands : List String) : List String :=
  let fits := fun (name : String) (pattern : String) =>
    Wildcard.accepts (Wildcard.read 0 (Letter.ofText false pattern)) (afterLast name '/').toList
  let wanted := fun (name : String) =>
    ((g.values 'I').isEmpty || (g.values 'I').any (fits name)) && !(g.values 'X').any (fits name)
  operands.flatMap fun name =>
    match d.locate (path name), d.isDirectory (path name) with
    | .ok place, true =>
      ((d.tree.below place).filterMap fun (names, e) =>
        if e.isFile then some (names.foldl (fun p n => Files.inDirectory p (ofLetters n)) name) else none).filter wanted
    | _, _ => [name]

/-- the pattern of the texts, of which a line must match one -/
def patternOf? (g : Given) (texts : List String) : Option LinePattern :=
  let extended := g.last? ['E', 'G', 'F', 'P'] == some 'E' || g.has 'P'
  let read := fun (text : String) =>
    if g.last? ['E', 'G', 'F', 'P'] == some 'F' then some (LinePattern.literal text)
    else LinePattern.read? ⟨extended, false⟩ text
  match (texts.flatMap fun text => split text '\n').mapM read with
  | none => none
  | some [] => none
  | some (p :: ps) => some (ps.foldl .either p)

/-- the texts of patterns, and the operands behind them -/
def patternTexts (g : Given) (d : Disk) : Option (List String) × List String :=
  let files := (g.values 'f').flatMap fun name => linesOf ((d.readBytes (path name)).toOption.getD [])
  if g.has 'e' || g.has 'f' then (some (g.values 'e' ++ files), g.operands)
  else
    match g.operands with
    | text :: rest => (some [text], rest)
    | [] => (none, [])

/-- the run after one file was searched, and whether a line was chosen -/
def searchFile (g : Given) (w : Wanted) (named : Bool) (name : String) (content : Bytes) (r : Run) : Run × Bool :=
  let shownName := if name == "-" then "(standard input)" else name
  let lines := linesOf content
  let chosen := (lines.zipIdx.filter fun (line, _) => w.matches? line != g.has 'v').map (·.2)
  let chosen := match (g.value? 'm').bind Number.count? with
    | some n => chosen.take n
    | none => chosen
  let number := fun (c : Char) => ((g.value? c).bind Number.count?)
  let context := (number 'C').getD 0
  let label := fun (n : Nat) (sign : String) =>
    (if named then shownName ++ sign else "") ++ (if g.has 'n' then toString (n + 1) ++ sign else "")
  let found := !chosen.isEmpty
  if g.has 'q' then (r, found)
  else if g.has 'l' then (if found then r.printLines [shownName] else r, found)
  else if g.has 'L' then (if found then r else r.printLines [shownName], found)
  else if g.has 'c' then (r.printLines [(if named then shownName ++ ":" else "") ++ toString chosen.length], found)
  else if g.has 'o' then
    let parts := if g.has 'v' then [] else chosen.flatMap fun n =>
      let line := w.line (lines.getD n "")
      (w.all line (line.chars.size + 1) 0).map fun (a, b) =>
        label n ":" ++ String.ofList ((line.chars.toList.take b).drop a)
    (r.printLines parts, found)
  else
    let shown := withContext ((number 'B').getD context) ((number 'A').getD context) chosen lines.length
    (r.printLines (shown.map fun
      | some (n, isChosen) => label n (if isChosen then ":" else "-") ++ lines.getD n ""
      | none => "--"), found)

/-- the program; `letter` is the kind of patterns that its name asks for -/
def grep (letter : Option Char) : Program := fun args r =>
  form.program "grep" 2 (fun g r =>
    let g := match letter with
      | some c => { g with options := (c, "") :: g.options }
      | none => g
    match patternTexts g r.disk with
    | (none, _) =>
      (r.refuse 2 "Usage: grep [OPTION]... PATTERNS [FILE]...").tell "Try 'grep --help' for more information."
    | (some texts, operands) =>
      match patternOf? g texts with
      | none => if texts.isEmpty then r.withStatus 1 else r.refuse 2 "grep: Invalid regular expression"
      | some pattern =>
        let w : Wanted := ⟨pattern, g.has 'i' || g.has 'y', g.has 'w', g.has 'x'⟩
        let below := g.has 'r' || g.has 'R'
        let isHere := below && operands.isEmpty
        let operands := if isHere then ["."] else operands
        let files := if below then filesOf g r.disk operands else operands
        let files := if isHere then files.map fun name => (stripStart name "./").getD name else files
        let isOneFile := operands.length < 2 && !(below && operands.any fun name => r.disk.isDirectory (path name))
        let named := (!isOneFile && !g.has 'h') || g.has 'H'
        let names := if files.isEmpty && !below then ["-"] else files
        let (r, found, failed) := names.foldl (fun (r, found, failed) name =>
          if g.has 'q' && found then (r, found, failed)
          else
            match r.readOperand name with
            | (r, .ok content) =>
              let (r, here) := searchFile g w named name content r
              (r, found || here, failed)
            | (r, .error fault) =>
              (if g.has 's' then r else r.tell ("grep: " ++ name ++ ": " ++ faultWords fault), found, true))
          (r, false, false)
        r.withStatus (if failed && !(g.has 'q' && found) then 2 else if g.has 'L' then (if found then 1 else 0)
          else if found then 0 else 1)) args r

/-- the programs by their names -/
def program? (name : String) : Option Program :=
  match name with
  | "grep" => some (grep none)
  | "egrep" => some (grep (some 'E'))
  | "fgrep" => some (grep (some 'F'))
  | _ => none

end CodeSurvey.Shell.Search
