/-
Programs that put lines in order, cut them and join them.

Lines are compared byte by byte. A field of a line lies between separators, or, where none is named, starts with the
blanks before it.
-/
import CodeSurvey.Shell.Program.Contents

namespace CodeSurvey.Shell.Lines

open Text

/-! ## Order -/

/-- how two keys are compared -/
structure Comparison where
  numeric : Bool
  falling : Bool
  anyCase : Bool
  /-- blanks in front say nothing -/
  fromText : Bool
  /-- numbers inside of texts count as numbers -/
  versions : Bool
  deriving DecidableEq, Repr

/-- a part of a line: a field and a character in it, both counted from one; no character means the end of a field -/
structure KeyEnd where
  field : Nat
  char : Nat
  deriving DecidableEq, Repr

/-- what lines are ordered by -/
structure SortKey where
  start : KeyEnd
  last : Option KeyEnd
  comparison : Comparison
  deriving DecidableEq, Repr

namespace Comparison

def plain : Comparison := ⟨false, false, false, false, false⟩

/-- the comparison with what a letter says -/
def adjust (c : Comparison) (letter : Char) : Comparison :=
  match letter with
  | 'n' | 'g' | 'h' => { c with numeric := true }
  | 'r' => { c with falling := true }
  | 'f' => { c with anyCase := true }
  | 'b' => { c with fromText := true }
  | 'V' => { c with versions := true }
  | _ => c

/-- the number in front of a text, in units of its twelfth decimal place -/
def number (cs : List Char) : Int :=
  let cs := cs.dropWhile fun c => c == ' ' || c == '\t'
  let negative := cs.head? == some '-'
  let cs := if negative then cs.drop 1 else cs
  let whole := cs.takeWhile isAsciiDigit
  let part := match cs.drop whole.length with
    | '.' :: rest => rest.takeWhile isAsciiDigit
    | _ => []
  let n : Nat := Number.ofDigits 10 (whole ++ (part ++ List.replicate 12 '0').take 12)
  if negative then -n else n

/-- a text as texts and numbers one after another -/
def versionParts (fuel : Nat) (cs : List Char) : List (String × Nat) :=
  match fuel with
  | 0 => []
  | fuel + 1 =>
    if cs.isEmpty then []
    else
      let text := cs.takeWhile (!isAsciiDigit ·)
      let rest := cs.drop text.length
      let digits := rest.takeWhile isAsciiDigit
      (String.ofList text, Number.ofDigits 10 digits) :: versionParts fuel (rest.drop digits.length)

/-- the order of two lists of parts -/
def compareParts : List (String × Nat) → List (String × Nat) → Ordering
  | [], [] => .eq
  | [], _ => .lt
  | _, [] => .gt
  | (s, m) :: a, (t, n) :: b => ((compare s t).then (compare m n)).then (compareParts a b)

/-- the order of two keys -/
def order (c : Comparison) (a b : List Char) : Ordering :=
  let shown := fun (cs : List Char) => String.ofList (if c.anyCase then cs.map Char.toUpper else cs)
  let found := if c.numeric then compare (number a) (number b)
    else if c.versions then compareParts (versionParts a.length a) (versionParts b.length b)
    else compare (shown a) (shown b)
  if c.falling then found.swap else found

end Comparison

/-- the fields of a line, each with how many characters stand before it; without a separator a field starts with
blanks -/
def fieldStarts (separator : Option Char) (cs : List Char) : List (Nat × List Char) :=
  let parts := match separator with
    | some s => splitBy (· == s) cs
    | none => blankFields cs.length cs
  let gap := if separator.isSome then 1 else 0
  (parts.foldl (fun (found, at') part => ((at', part) :: found, at' + part.length + gap)) ([], 0)).1.reverse
where
  /-- fields with the blanks before them -/
  blankFields (fuel : Nat) (cs : List Char) : List (List Char) :=
    let isBlank := fun (c : Char) => c == ' ' || c == '\t'
    match fuel with
    | 0 => []
    | fuel + 1 =>
      if cs.isEmpty then []
      else
        let field := cs.takeWhile isBlank ++ (cs.dropWhile isBlank).takeWhile (!isBlank ·)
        field :: blankFields fuel (cs.drop field.length)

/-- where a part starts or ends in a line -/
def offset (fields : List (Nat × List Char)) (length : Nat) (skipBlanks isEnd : Bool) (e : KeyEnd) : Nat :=
  match fields[e.field - 1]? with
  | none => length
  | some (start, field) =>
    let blanks := if skipBlanks then (field.takeWhile fun c => c == ' ' || c == '\t').length else 0
    if isEnd then if e.char = 0 then start + field.length else min length (start + blanks + e.char)
    else min length (start + blanks + (e.char - 1))

/-- the part of a line that it is ordered by -/
def SortKey.part (k : SortKey) (separator : Option Char) (line : String) : List Char :=
  let cs := line.toList
  let fields := fieldStarts separator cs
  let start := offset fields cs.length k.comparison.fromText false k.start
  let last := match k.last with
    | some e => offset fields cs.length k.comparison.fromText true e
    | none => cs.length
  (cs.take last).drop start

/-- one end of a key, and the letters behind it -/
def readKeyEnd (cs : List Char) : Option (KeyEnd × List Char) :=
  let field := cs.takeWhile isAsciiDigit
  let rest := cs.drop field.length
  if field.isEmpty then none
  else
    match rest with
    | '.' :: rest =>
      let char := rest.takeWhile isAsciiDigit
      some (⟨Number.ofDigits 10 field, Number.ofDigits 10 char⟩, rest.drop char.length)
    | rest => some (⟨Number.ofDigits 10 field, 0⟩, rest)

/-- the key that a text writes; where it says nothing about the comparison, the common one counts -/
def readKey (common : Comparison) (text : String) : Option SortKey := do
  let first := text.toList.takeWhile (· != ',')
  let second := (text.toList.drop first.length).drop 1
  let (start, letters) ← readKeyEnd first
  let start := if start.char = 0 then { start with char := 1 } else start
  let (last, more) ← if second.isEmpty then pure (none, []) else (readKeyEnd second).map fun (e, cs) => (some e, cs)
  let letters := letters ++ more
  return ⟨start, last, if letters.isEmpty then common else letters.foldl Comparison.adjust Comparison.plain⟩

/-- options of which the letters say how lines are compared -/
def sortForm : OptionForm where
  flags := "nrfbghVMdiuscCmz"
  valued := "ktoSTp"
  long := [("numeric-sort", 'n'), ("reverse", 'r'), ("ignore-case", 'f'), ("ignore-leading-blanks", 'b'),
    ("unique", 'u'), ("stable", 's'), ("check", 'c'), ("key", 'k'), ("field-separator", 't'), ("output", 'o'),
    ("version-sort", 'V'), ("general-numeric-sort", 'g'), ("human-numeric-sort", 'h'), ("merge", 'm')]

def sort : Program :=
  sortForm.program "sort" 2 fun g r =>
    let common := g.options.foldl (fun c (letter, _) => c.adjust letter) Comparison.plain
    let separator := (g.value? 't').bind fun t => if t == "\\0" then some '\x00' else t.toList.head?
    match (g.values 'k').mapM (readKey common) with
    | none => r.refuse 2 ("sort: invalid number at field start: invalid count at start of "
        ++ Files.quoted ((g.value? 'k').getD ""))
    | some keys =>
      let keys := if keys.isEmpty then [⟨⟨1, 1⟩, none, common⟩] else keys
      let byKeys := fun (a b : String) => keys.foldl (fun (found : Ordering) k =>
        found.then (k.comparison.order (k.part separator a) (k.part separator b))) .eq
      let whole := fun (a b : String) => if common.falling then (compare a b).swap else compare a b
      let order := fun (a b : String) =>
        if g.has 'u' || g.has 's' then byKeys a b else (byKeys a b).then (whole a b)
      let (r, contents) := r.takeContents "sort" 2 g.operands
      if r.status != 0 then r
      else
        let lines := contents.flatMap linesOf
        if g.has 'c' || g.has 'C' then
          let disorder := (lines.zip (lines.drop 1)).zipIdx.find? fun ((a, b), _) =>
            order a b == .gt || (g.has 'u' && order a b == .eq)
          match disorder with
          | some ((_, b), n) =>
            let name := g.operands.headD "-"
            if g.has 'C' then r.withStatus 1
            else r.refuse 1 ("sort: " ++ name ++ ":" ++ toString (n + 2) ++ ": disorder: " ++ b)
          | none => r
        else
          let sorted := lines.mergeSort fun a b => order a b != .gt
          let kept := if g.has 'u' then
            (sorted.foldl (fun found line =>
              match found with
              | last :: _ => if byKeys last line == .eq then found else line :: found
              | [] => [line]) []).reverse
            else sorted
          match g.value? 'o' with
          | some file =>
            Files.change r ("sort: open failed: " ++ file)
              (r.disk.write (path file) (bytesOf (String.join (kept.map (· ++ "\n")))))
          | none => r.printLines kept

/-- lines with how many equal ones follow each other, last one first -/
def runs (same : String → String → Bool) (lines : List String) : List (String × Nat) :=
  lines.foldl (fun found line =>
    match found with
    | (first, n) :: before => if same first line then (first, n + 1) :: before else (line, 1) :: found
    | [] => [(line, 1)]) []

def uniq : Program :=
  { flags := "cduiz", valued := "fsw"
    long := [("count", 'c'), ("repeated", 'd'), ("unique", 'u'), ("ignore-case", 'i')] : OptionForm }.program "uniq" 1
    fun g r =>
      let count := fun (c : Char) => ((g.value? c).bind Number.count?).getD 0
      let key := fun (line : String) =>
        let cs := (List.range (count 'f')).foldl (fun cs _ =>
          (cs.dropWhile fun c => c == ' ' || c == '\t').dropWhile fun c => !(c == ' ' || c == '\t')) line.toList
        let cs := cs.drop (count 's')
        let cs := if g.has 'w' then cs.take (count 'w') else cs
        if g.has 'i' then cs.map Char.toLower else cs
      let (r, contents) := r.takeContents "uniq" 1 (g.operands.take 1)
      if r.status != 0 then r
      else
        let found := (runs (fun a b => key a == key b) (contents.flatMap linesOf)).reverse
        let found := found.filter fun (_, n) => (!g.has 'd' || 1 < n) && (!g.has 'u' || n = 1)
        let lines := found.map fun (line, n) =>
          if g.has 'c' then Contents.rightAligned 7 (toString n) ++ " " ++ line else line
        match g.operands[1]? with
        | some file =>
          Files.change r ("uniq: " ++ file) (r.disk.write (path file) (bytesOf (String.join (lines.map (· ++ "\n")))))
        | none => r.printLines lines

/-- lines of two ordered files, in columns for those of one file and of both -/
def commLines (fuel : Nat) : List String → List String → List (Nat × String)
  | [], b => b.map fun line => (2, line)
  | a, [] => a.map fun line => (1, line)
  | x :: a, y :: b =>
    match fuel with
    | 0 => []
    | fuel + 1 =>
      if x == y then (3, x) :: commLines fuel a b
      else if x < y then (1, x) :: commLines fuel a (y :: b)
      else (2, y) :: commLines fuel (x :: a) b

def comm : Program :=
  { flags := "123" : OptionForm }.program "comm" 1 fun g r =>
    match g.operands with
    | [a, b] =>
      match r.takeContents "comm" 1 [a, b] with
      | (r, [first, second]) =>
        let a := linesOf first
        let b := linesOf second
        let shows := fun (n : Nat) => !g.has (Char.ofNat (48 + n))
        let tabs := fun (n : Nat) => ((List.range (n - 1)).filter fun i => shows (i + 1)).length
        r.printLines ((commLines (a.length + b.length) a b).filterMap fun (n, line) =>
          if shows n then some (String.ofList (List.replicate (tabs n) '\t') ++ line) else none)
      | (r, _) => r
    | _ => Files.missing r "comm" "missing operand"

/-! ## Parts of lines -/

/-- ranges of a list of numbers; no end means all that follows -/
def readRanges (text : String) : Option (List (Nat × Option Nat)) :=
  (text.toList.map fun c => if c == ' ' then ',' else c) |> String.ofList |> (split · ',') |>.mapM fun part =>
    match split part '-' with
    | [n] => (Number.count? n).bind fun n => if n = 0 then none else some (n, some n)
    | [a, b] =>
      if a.isEmpty && b.isEmpty then none
      else if a.isEmpty then (Number.count? b).map fun n => (1, some n)
      else if b.isEmpty then (Number.count? a).map fun n => (n, none)
      else do
        let first ← Number.count? a
        let last ← Number.count? b
        if first = 0 || last < first then none else some (first, some last)
    | _ => none

/-- one of the ranges holds the number -/
def isListed (ranges : List (Nat × Option Nat)) (n : Nat) : Bool :=
  ranges.any fun (first, last) => first ≤ n && (last.map fun last => decide (n ≤ last)) != some false

def cut : Program :=
  { flags := "snz", valued := "fdcbO"
    long := [("fields", 'f'), ("delimiter", 'd'), ("characters", 'c'), ("bytes", 'b'), ("only-delimited", 's'),
      ("output-delimiter", 'O'), ("complement", 'N')] : OptionForm }.program "cut" 1 fun g r =>
    match (['f', 'c', 'b'].filterMap g.value?) with
    | [list] =>
      let byField := g.has 'f'
      let delimiter := (g.value? 'd').getD "\t"
      match readRanges list, delimiter.toList with
      | none, _ =>
        Files.missing r "cut" (if byField then "fields are numbered from 1" else "byte/character positions are numbered from 1")
      | _, _ :: _ :: _ => Files.missing r "cut" "the delimiter must be a single character"
      | some ranges, delimiter =>
        let d := delimiter.headD '\x00'
        let out := (g.value? 'O').getD (if byField then String.singleton d else "")
        let listed := fun n => isListed ranges n != g.has 'N'
        let select := fun (parts : List String) => (parts.zipIdx.filter fun (_, i) => listed (i + 1)).map (·.1)
        r.forContents "cut" 1 g.operands fun _ content r =>
          r.printLines ((linesOf content).filterMap fun line =>
            if byField then
              let parts := split line d
              if parts.length = 1 then if g.has 's' then none else some line
              else some (joined out (select parts))
            else some (joined out (select (line.toList.map String.singleton))))
    | [] => Files.missing r "cut" "you must specify a list of bytes, characters, or fields"
    | _ => Files.missing r "cut" "only one type of list may be specified"

/-- the texts with separators between them, which are used one after another -/
def joinCycled (separators : List Char) (texts : List String) : String :=
  match texts with
  | [] => ""
  | first :: rest =>
    let separator := fun (i : Nat) =>
      match separators[i % separators.length]? with
      | some c => String.singleton c
      | none => ""
    first ++ String.join (rest.zipIdx.map fun (text, i) => separator i ++ text)

/-- the characters of a list with backslash forms -/
def listedChars : List Char → List Char
  | '\\' :: 'n' :: rest => '\n' :: listedChars rest
  | '\\' :: 't' :: rest => '\t' :: listedChars rest
  | '\\' :: '\\' :: rest => '\\' :: listedChars rest
  | c :: rest => c :: listedChars rest
  | [] => []

def paste : Program :=
  { flags := "sz", valued := "d", long := [("serial", 's'), ("delimiters", 'd')] : OptionForm }.program "paste" 1 fun g r =>
    let separators := listedChars ((g.value? 'd').getD "\t").toList
    let names := if g.operands.isEmpty then ["-"] else g.operands
    let inputs := (names.filter (· == "-")).length
    let (r, contents) := r.takeContents "paste" 1 (if 1 < inputs then names.filter (· != "-") ++ ["-"] else names)
    if r.status != 0 then r
    else
      let files := contents.map linesOf
      let columns := if 1 < inputs && names.all (· == "-") then
        let lines := files.flatten
        (List.range inputs).map fun i => (lines.zipIdx.filter fun (_, n) => n % inputs = i).map (·.1)
        else files
      if g.has 's' then r.printLines (columns.map (joinCycled separators))
      else
        let rows := columns.foldl (fun n lines => max n lines.length) 0
        r.printLines ((List.range rows).map fun i => joinCycled separators (columns.map fun lines => lines.getD i ""))

/-! ## Single characters -/

/-- a character of a set as it is written, and the text behind it -/
def takeSetChar (cs : List Char) : Option (Char × List Char) :=
  match cs with
  | '\\' :: c :: rest =>
    let known := [('a', 7), ('b', 8), ('f', 12), ('n', 10), ('r', 13), ('t', 9), ('v', 11)]
    let digits := ((c :: rest).takeWhile fun c => '0' ≤ c && c ≤ '7').take 3
    if !digits.isEmpty then some (Char.ofNat (Number.ofDigits 8 digits % 256), (c :: rest).drop digits.length)
    else some (((known.lookup c).map Char.ofNat).getD c, rest)
  | c :: rest => some (c, rest)
  | [] => none

/-- the characters of a set in order; where a character is to be repeated to fill the set, `fill` says how often -/
def setChars (fill : Nat) (fuel : Nat) (cs : List Char) : List Char :=
  match fuel with
  | 0 => []
  | fuel + 1 =>
    match cs with
    | '[' :: ':' :: _ =>
      match CharRanges.colons? (cs.drop 1) with
      | some (ranges, n) => ranges.toList ++ setChars fill fuel (cs.drop (n + 1))
      | none => plain fuel cs
    | '[' :: '=' :: c :: '=' :: ']' :: rest => c :: setChars fill fuel rest
    | '[' :: c :: '*' :: rest =>
      let digits := rest.takeWhile isAsciiDigit
      match rest.drop digits.length with
      | ']' :: rest =>
        let n := Number.ofDigits (if digits.head? == some '0' then 8 else 10) digits
        List.replicate (if n = 0 then fill else n) c ++ setChars fill fuel rest
      | _ => plain fuel cs
    | _ => plain fuel cs
where
  /-- a character or a range in front of a set, with the set behind it -/
  plain (fuel : Nat) (cs : List Char) : List Char :=
    match takeSetChar cs with
    | none => []
    | some (first, rest) =>
      match rest with
      | '-' :: more =>
        match takeSetChar more with
        | some (last, rest) => CharRanges.toList [(first, last)] ++ setChars fill fuel rest
        | none => first :: setChars fill fuel rest
      | _ => first :: setChars fill fuel rest

/-- the characters of a text without those behind an equal one, where a set holds them -/
def squeeze (set : List Char) (before : Option Char) : List Char → List Char
  | [] => []
  | c :: cs => if before == some c && set.contains c then squeeze set before cs else c :: squeeze set (some c) cs

def tr : Program :=
  { flags := "dscCt", inOrder := true
    long := [("delete", 'd'), ("squeeze-repeats", 's'), ("complement", 'c'), ("truncate-set1", 't')] : OptionForm }.program
    "tr" 1 fun g r =>
      match g.operands with
      | [] => Files.missing r "tr" "missing operand"
      | first :: rest =>
        if rest.isEmpty && (!g.has 'd' && !g.has 's') then
          (r.refuse 1 ("tr: missing operand after " ++ Files.quoted first)).tell
            "Two strings must be given when translating.\nTry 'tr --help' for more information."
        else if g.has 'd' && !g.has 's' && 1 ≤ rest.length then
          (r.refuse 1 ("tr: extra operand " ++ Files.quoted (rest.headD ""))).tell
            "Only one string may be given when deleting without squeezing repeats.\nTry 'tr --help' for more information."
        else if g.has 'd' && g.has 's' && rest.isEmpty then
          (r.refuse 1 ("tr: missing operand after " ++ Files.quoted first)).tell
            "Two strings must be given when both deleting and squeezing repeats.\nTry 'tr --help' for more information."
        else
          let set := setChars 0 (first.length + 1) first.toList
          let from' := if g.has 'c' || g.has 'C' then
            (List.range 256).filterMap fun n => if set.contains (Char.ofNat n) then none else some (Char.ofNat n)
            else set
          let second := rest.headD ""
          let image := setChars (from'.length) (second.length + 1) second.toList
          let image := if from'.length ≤ image.length || g.has 't' then image
            else image ++ List.replicate (from'.length - image.length) (image.getLastD ' ')
          let (r, content) := r.takeAll 0
          let cs := (textOf content).toList
          if g.has 'd' then
            let kept := cs.filter fun c => !from'.contains c
            r.print (String.ofList (if g.has 's' then squeeze image none kept else kept))
          else if rest.isEmpty then r.print (String.ofList (squeeze from' none cs))
          else if second.isEmpty then r.refuse 1 "tr: when not truncating set1, string2 must be non-empty"
          else
            let pairs := (from'.zip image).reverse
            let moved := cs.map fun c => (pairs.lookup c).getD c
            r.print (String.ofList (if g.has 's' then squeeze image none moved else moved))

/-- the programs by their names -/
def program? (name : String) : Option Program :=
  match name with
  | "sort" => some sort
  | "uniq" => some uniq
  | "comm" => some comm
  | "cut" => some cut
  | "paste" => some paste
  | "tr" => some tr
  | _ => none

end CodeSurvey.Shell.Lines
