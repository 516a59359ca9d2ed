/-
Flags, blanks and escapes of written patterns.

Flags say how a pattern is read. Where the flag `spaced` is set, blanks and remarks, which run from `#` to the end of a
line, do not count: `skip` passes over them, and `step` goes one character on and then skips. An escape is a backslash
and what follows it: a character, a set, or an edge of words or of the text. What cannot be read gives nothing.
-/
import CodeSurvey.Pattern.Regular
import CodeSurvey.Text.PropertyName

namespace CodeSurvey.Written

open Text

/-- how a part of a written pattern is read -/
structure Flags where
  ignoreCase : Bool
  multiLine : Bool
  dotAll : Bool
  swapGreed : Bool
  unicode : Bool
  returns : Bool
  spaced : Bool

def Flags.initial : Flags := ⟨false, false, false, false, true, false, false⟩

/-- the flags with one switched; nothing for an unknown letter -/
def Flags.set? (f : Flags) (letter : Char) (on : Bool) : Option Flags :=
  match letter with
  | 'i' => some { f with ignoreCase := on }
  | 'm' => some { f with multiLine := on }
  | 's' => some { f with dotAll := on }
  | 'U' => some { f with swapGreed := on }
  | 'u' => some { f with unicode := on }
  | 'R' => some { f with returns := on }
  | 'x' => some { f with spaced := on }
  | _ => none

/-- the set with case variants where case does not count; without the flag `unicode` only ASCII letters have case -/
def Flags.closed (f : Flags) (s : CharSet) : CharSet :=
  if f.ignoreCase then if f.unicode then s.folded else s.foldedAscii else s

/-- the set or, if it is negated, its complement, which may not go beyond ASCII without the flag `unicode` -/
def Flags.signed? (f : Flags) (negated : Bool) (s : CharSet) : Option CharSet :=
  if negated then if f.unicode then some s.complement else none else some s

/-- one character as written -/
def Flags.literal (f : Flags) (c : Char) : Regular := .ofSet (f.closed (.single c))

/-- the dot, which may not go beyond ASCII without the flag `unicode` -/
def Flags.dot? (f : Flags) : Option Regular :=
  if f.unicode then
    some (.ofSet (if f.dotAll then .all else (CharSet.ofText (if f.returns then "\r\n" else "\n")).complement))
  else none

/-- before a line -/
def Flags.lineStart (f : Flags) : Look :=
  if f.multiLine then if f.returns then .lineStartReturn else .lineStart else .textStart

/-- behind a line -/
def Flags.lineEnd (f : Flags) : Look :=
  if f.multiLine then if f.returns then .lineEndReturn else .lineEnd else .textEnd

/-! ## Blanks and remarks -/

/-- the text without its leading blanks and remarks; `inRemark` tells that it starts in a remark -/
def skipBlanks (inRemark : Bool) : List Char → List Char
  | [] => []
  | c :: cs =>
    if inRemark then skipBlanks (c != '\n') cs
    else if isBlank c then skipBlanks false cs
    else if c == '#' then skipBlanks true cs
    else c :: cs

theorem skipBlanks_length_le (inRemark : Bool) (cs : List Char) : (skipBlanks inRemark cs).length ≤ cs.length := by
  induction cs generalizing inRemark with
  | nil => simp [skipBlanks]
  | cons c cs ih =>
    rw [skipBlanks]
    split
    · exact Nat.le_succ_of_le (ih _)
    · split
      · exact Nat.le_succ_of_le (ih _)
      · split
        · exact Nat.le_succ_of_le (ih _)
        · exact Nat.le_refl _

/-- the text without leading blanks and remarks, where they do not count -/
def Flags.skip (f : Flags) (cs : List Char) : List Char :=
  if f.spaced then skipBlanks false cs else cs

theorem Flags.skip_length_le (f : Flags) (cs : List Char) : (f.skip cs).length ≤ cs.length := by
  rw [Flags.skip]
  split
  · exact skipBlanks_length_le false cs
  · exact Nat.le_refl _

/-- the text behind its first character, blanks and remarks skipped -/
def Flags.step (f : Flags) (cs : List Char) : List Char := f.skip (cs.drop 1)

/-- the characters that pass the test from the start on, blanks and remarks between them skipped, and the rest -/
def Flags.collect (f : Flags) (test : Char → Bool) : List Char → List Char × List Char
  | [] => ([], [])
  | c :: cs =>
    if test c then
      let (taken, rest) := f.collect test (f.skip cs)
      (c :: taken, rest)
    else ([], c :: cs)
termination_by cs => cs.length
decreasing_by exact Nat.lt_succ_of_le (f.skip_length_le cs)

/-- exactly `n` characters, blanks and remarks behind each skipped, and the rest -/
def Flags.collectExactly (f : Flags) : Nat → List Char → Option (List Char × List Char)
  | 0, cs => some ([], cs)
  | _ + 1, [] => none
  | n + 1, c :: cs => (f.collectExactly n (f.skip cs)).map fun (taken, rest) => (c :: taken, rest)

/-! ## Escapes -/

/-- what an escape stands for -/
inductive Escape where
  | literal (c : Char)
  | set (s : CharSet)
  | look (l : Look)

def hexDigit? (c : Char) : Option Nat :=
  if isAsciiDigit c then some (c.toNat - 48)
  else if 'a' ≤ c && c ≤ 'f' then some (c.toNat - 87)
  else if 'A' ≤ c && c ≤ 'F' then some (c.toNat - 55)
  else none

/-- the character of a code written in hexadecimal -/
def hexChar? (digits : List Char) : Option Char := do
  if digits.isEmpty then none
  let n ← digits.foldlM (fun n c => (hexDigit? c).map (n * 16 + ·)) 0
  if h : n.isValidChar then some (Char.ofNatAux n h) else none

/-- the character of a code of `width` digits, or of any number of digits in braces -/
def readHex (f : Flags) (width : Nat) (cs : List Char) : Option (Char × List Char) :=
  match cs with
  | '\x7b' :: _ =>
    let (digits, rest) := f.collect (· != '\x7d') (f.step cs)
    if rest.isEmpty then none else (hexChar? digits).map fun c => (c, f.step rest)
  | _ => (f.collectExactly width cs).bind fun (digits, rest) => (hexChar? digits).map fun c => (c, rest)

/-- the character after `\x`; two digits alone write a byte, which beyond ASCII is no character -/
def readByte (f : Flags) (cs : List Char) : Option (Char × List Char) :=
  (readHex f 2 cs).filter fun (c, _) => f.unicode || cs.head? == some '\x7b' || isAscii c

/-- the parts of a name around its operator: whether it negates, what stands before it and what behind it -/
def cutName (name : List Char) : Option (Bool × List Char × List Char) :=
  let unequal := (List.range name.length).find? fun i => ['!', '='].isPrefixOf (name.drop i)
  match unequal with
  | some i => some (true, name.take i, name.drop (i + 2))
  | none =>
    let mark := if name.contains ':' then ':' else '='
    if name.contains mark then
      some (false, name.takeWhile (· != mark), (name.dropWhile (· != mark)).drop 1)
    else none

/-- the set of a property: a single letter or a name in braces -/
def readProperty (f : Flags) (negated : Bool) (cs : List Char) : Option (CharSet × List Char) :=
  match cs with
  | [] => none
  | '\\' :: _ => none
  | '\x7b' :: _ =>
    let (name, rest) := f.collect (· != '\x7d') (f.step cs)
    if rest.isEmpty then none
    else
      match cutName name with
      | some (unequal, kind, value) =>
        (namedValue? (String.ofList kind) (String.ofList value)).bind fun s =>
          (f.signed? (negated != unequal) (f.closed s)).map fun s => (s, rest.drop 1)
      | none =>
        (named? (String.ofList name)).bind fun s =>
          (f.signed? negated (f.closed s)).map fun s => (s, rest.drop 1)
  | c :: _ =>
    (named? (String.ofList [c])).bind fun s => (f.signed? negated (f.closed s)).map fun s => (s, f.step cs)

/-- an edge of words, perhaps one named in braces; braces without a name belong to what follows -/
def readEdge (f : Flags) (cs : List Char) : Option (Look × List Char) :=
  let plain := some (.wordEdge f.unicode, cs)
  let isNameChar := fun c => isAsciiLetter c || c == '-'
  match cs with
  | '\x7b' :: _ =>
    let inside := f.step cs
    if inside.isEmpty then none
    else if inside.head?.any isNameChar then
      let (name, rest) := f.collect isNameChar inside
      if rest.head? != some '\x7d' then none
      else
        match String.ofList name with
        | "start" => some (.wordStart f.unicode, rest.drop 1)
        | "end" => some (.wordEnd f.unicode, rest.drop 1)
        | "start-half" => some (.noWordBefore f.unicode, rest.drop 1)
        | "end-half" => some (.noWordBehind f.unicode, rest.drop 1)
        | _ => none
    else plain
  | _ => plain

/-- one of the sets that have letters: digits, blanks and word characters -/
def letterSet (f : Flags) (negated : Bool) (s : CharSet) : Option CharSet :=
  f.signed? negated (if f.unicode then s else s.inter (.ofRanges [(0, 127)]))

/-- what stands after a backslash -/
def readEscape (f : Flags) : List Char → Option (Escape × List Char)
  | [] => none
  | c :: rest =>
    let set := fun (s : Option CharSet) => s.map fun s => (Escape.set s, rest)
    match c with
    | 'd' => set (letterSet f false Category.decimalNumberChars)
    | 'D' => set (letterSet f true Category.decimalNumberChars)
    | 's' => set (letterSet f false blanks)
    | 'S' => set (letterSet f true blanks)
    | 'w' => set (letterSet f false wordChars)
    | 'W' => set (letterSet f true wordChars)
    | 'x' => (readByte f (f.skip rest)).map fun (c, after) => (.literal c, after)
    | 'u' => (readHex f 4 (f.skip rest)).map fun (c, after) => (.literal c, after)
    | 'U' => (readHex f 8 (f.skip rest)).map fun (c, after) => (.literal c, after)
    | 'p' => if f.unicode then (readProperty f false (f.skip rest)).map fun (s, after) => (.set s, after) else none
    | 'P' => if f.unicode then (readProperty f true (f.skip rest)).map fun (s, after) => (.set s, after) else none
    | 'a' => some (.literal '\x07', rest)
    | 'f' => some (.literal '\x0c', rest)
    | 't' => some (.literal '\t', rest)
    | 'n' => some (.literal '\n', rest)
    | 'r' => some (.literal '\r', rest)
    | 'v' => some (.literal '\x0b', rest)
    | 'A' => some (.look .textStart, rest)
    | 'z' => some (.look .textEnd, rest)
    | 'b' => (readEdge f rest).map fun (l, after) => (.look l, after)
    | 'B' => some (.look (.noWordEdge f.unicode), rest)
    | '<' => some (.look (.wordStart f.unicode), rest)
    | '>' => some (.look (.wordEnd f.unicode), rest)
    | c => if isAscii c && !isAsciiAlphanumeric c then some (.literal c, rest) else none

end CodeSurvey.Written
