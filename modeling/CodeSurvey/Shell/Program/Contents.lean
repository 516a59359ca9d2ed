/-
Programs that show what files hold.

They write the contents of their operands, or parts of them, or how much there is; without operands they take their
input.
-/
import CodeSurvey.Shell.Program.Files

namespace CodeSurvey.Shell.Contents

open Text

/-- a text behind blanks up to a width -/
def rightAligned (width : Nat) (text : String) : String :=
  String.ofList (List.replicate (width - text.length) ' ') ++ text

/-- bytes as lines with their ends -/
def linesWithEnds (content : Bytes) : List Bytes :=
  let parts := splitBy (· == 10) content
  (parts.dropLast.map (· ++ [10])) ++ ((parts.getLast?).filter (!·.isEmpty)).toList

/-- the byte as it is shown where nothing may be hidden -/
def shownByte (b : UInt8) : String :=
  let n := b.toNat
  let low := fun (n : Nat) =>
    if n < 32 then "^" ++ String.singleton (Char.ofNat (n + 64))
    else if n = 127 then "^?"
    else String.singleton (Char.ofNat n)
  if n < 128 then low n else "M-" ++ low (n - 128)

/-- a line with marks, and the number of the next line -/
def markedLine (g : Given) (number : Nat) (line : Bytes) : String × Nat :=
  let all := g.has 'A'
  let ended := line.getLast? == some 10
  let body := if ended then line.dropLast else line
  let hidden := all || g.has 'v' || g.has 'e' || g.has 't'
  let tabs := all || g.has 'T' || g.has 't'
  let show' := fun (b : UInt8) =>
    if b = 9 then (if tabs then "^I" else "\t") else if hidden then shownByte b else textOf [b]
  let counts := if g.has 'b' then !body.isEmpty else g.has 'n'
  let front := if counts then rightAligned 6 (toString number) ++ "\t" else ""
  let back := if ended then (if all || g.has 'E' || g.has 'e' then "$\n" else "\n") else ""
  (front ++ String.join (body.map show') ++ back, if counts then number + 1 else number)

/-- the lines without empty ones behind empty ones -/
def squeezed (wasEmpty : Bool) : List Bytes → List Bytes
  | [] => []
  | line :: lines =>
    let isEmpty := line = [10]
    if isEmpty && wasEmpty then squeezed true lines else line :: squeezed isEmpty lines

def cat : Program :=
  { flags := "nbsEAvTetu", long := [("number", 'n'), ("show-all", 'A'), ("show-ends", 'E'), ("show-tabs", 'T'),
      ("number-nonblank", 'b'), ("squeeze-blank", 's')] : OptionForm }.program "cat" 1 fun g r =>
    if g.options.isEmpty then r.forContents "cat" 1 g.operands fun _ content r => r.say 1 content
    else
      let (r, contents) := r.takeContents "cat" 1 g.operands
      let lines := linesWithEnds contents.flatten
      let lines := if g.has 's' then squeezed false lines else lines
      let (texts, _) := lines.foldl (fun (texts, n) line => let (t, n) := markedLine g n line; (t :: texts, n)) ([], 1)
      r.print (String.join texts.reverse)

/-! ## Parts -/

/-- arguments with a number behind a dash as the value of an option -/
def withNumberOption (args : List String) : List String :=
  match args with
  | first :: rest =>
    let digits := first.toList.drop 1
    if startsWith first "-" && !digits.isEmpty && digits.all isAsciiDigit then "-n" :: String.ofList digits :: rest
    else if startsWith first "+" && !digits.isEmpty && digits.all isAsciiDigit then "-n" :: first :: rest
    else args
  | [] => []

/-- the number of a count, which may be in larger units -/
def amount? (text : String) : Option Nat :=
  let digits := text.toList.takeWhile isAsciiDigit
  if digits.isEmpty then none
  else
    let n := Number.ofDigits 10 digits
    match String.ofList (text.toList.drop digits.length) with
    | "" => some n
    | "b" => some (n * 512)
    | "k" | "K" | "KiB" => some (n * 1024)
    | "kB" | "KB" => some (n * 1000)
    | "M" => some (n * 1024 * 1024)
    | _ => none

/-- the file's name as a head over what it holds -/
def banner (name : String) : String := "==> " ++ (if name == "-" then "standard input" else name) ++ " <=="

/-- the program that shows a part of each operand, under heads if there are several -/
def showParts (program : String) (g : Given) (part : Bytes → Bytes) (r : Run) : Run :=
  let headed := (1 < g.operands.length && !g.has 'q') || g.has 'v'
  let names := if g.operands.isEmpty then ["-"] else g.operands
  (names.foldl (fun (r, isFirst) name =>
    match r.readOperand name with
    | (r, .ok content) =>
      let r := if headed then r.print ((if isFirst then "" else "\n") ++ banner name ++ "\n") else r
      (r.say 1 (part content), false)
    | (r, .error .isDirectory) =>
      let r := if headed then r.print ((if isFirst then "" else "\n") ++ banner name ++ "\n") else r
      (r.refuse 1 (program ++ ": error reading " ++ Files.quoted name ++ ": Is a directory"), false)
    | (r, .error fault) =>
      (r.refuse 1 (program ++ ": cannot open " ++ Files.quoted name ++ " for reading: " ++ faultWords fault), isFirst))
    (r, true)).1

/-- the options of programs that show parts -/
def partForm : OptionForm where
  flags := "qvfF"
  valued := "nc"
  long := [("lines", 'n'), ("bytes", 'c'), ("quiet", 'q'), ("silent", 'q'), ("verbose", 'v')]

/-- what is said about a number that is none -/
def badNumber (program : String) (isBytes : Bool) (text : String) : String :=
  program ++ ": invalid number of " ++ (if isBytes then "bytes" else "lines") ++ ": " ++ Files.quoted text

def head : Program := fun args r =>
  partForm.program "head" 1 (fun g r =>
    let isBytes := g.last? ['n', 'c'] == some 'c'
    let text := (g.value? (if isBytes then 'c' else 'n')).getD "10"
    match amount? ((stripStart text "-").getD text) with
    | none => r.refuse 1 (badNumber "head" isBytes text)
    | some n =>
      let allBut := startsWith text "-"
      let part := fun (content : Bytes) =>
        if isBytes then if allBut then content.take (content.length - n) else content.take n
        else
          let lines := linesWithEnds content
          (if allBut then lines.take (lines.length - n) else lines.take n).flatten
      let before := (r.stream? 0).map fun c => r.files.remaining c
      let r := showParts "head" g part r
      match before with
      | some content =>
        if g.operands.isEmpty || g.operands.contains "-" then r.putBack 0 (content.length - (part content).length) else r
      | none => r) (withNumberOption args) r

def tail : Program := fun args r =>
  partForm.program "tail" 1 (fun g r =>
    let isBytes := g.last? ['n', 'c'] == some 'c'
    let text := (g.value? (if isBytes then 'c' else 'n')).getD "10"
    let fromStart := startsWith text "+"
    match amount? (((stripStart text "-").or (stripStart text "+")).getD text) with
    | none => r.refuse 1 (badNumber "tail" isBytes text)
    | some n =>
      let part := fun (content : Bytes) =>
        if isBytes then if fromStart then content.drop (n - 1) else content.drop (content.length - n)
        else
          let lines := linesWithEnds content
          (if fromStart then lines.drop (n - 1) else lines.drop (lines.length - n)).flatten
      showParts "tail" g part r) (withNumberOption args) r

/-! ## Counts -/

/-- lines, words, bytes and the longest line -/
structure Counts where
  lines : Nat
  words : Nat
  bytes : Nat
  longest : Nat

namespace Counts

def ofContent (content : Bytes) : Counts where
  lines := content.countP (· == 10)
  words := ((splitBy isSpace (textOf content).toList).filter (!·.isEmpty)).length
  bytes := content.length
  longest := (splitBy (· == 10) content).foldl (fun n line => max n line.length) 0

def add (a b : Counts) : Counts := ⟨a.lines + b.lines, a.words + b.words, a.bytes + b.bytes, max a.longest b.longest⟩

/-- the counts that were asked for -/
def shown (g : Given) (c : Counts) : List Nat :=
  let all := !(['l', 'w', 'c', 'm', 'L'].any g.has)
  (if g.has 'l' || all then [c.lines] else []) ++ (if g.has 'w' || all then [c.words] else [])
    ++ (if g.has 'm' then [c.bytes] else []) ++ (if g.has 'c' || all then [c.bytes] else [])
    ++ (if g.has 'L' then [c.longest] else [])

end Counts

def wc : Program :=
  { flags := "lwcmL", long := [("lines", 'l'), ("words", 'w'), ("bytes", 'c'), ("chars", 'm'),
      ("max-line-length", 'L')] : OptionForm }.program "wc" 1 fun g r =>
    let names := if g.operands.isEmpty then ["-"] else g.operands
    let sizes := g.operands.map fun name => ((r.disk.readBytes (path name)).toOption.getD []).length
    let single := (Counts.shown g ⟨0, 0, 0, 0⟩).length = 1 && names.length = 1
    let input := g.operands.isEmpty || g.operands.contains "-"
    let total := toString (sizes.foldl (· + ·) 0)
    let isFile := ((r.stream? 0).map fun c => match r.files.channel c with | .file _ _ _ => true | _ => false) == some true
    let inputSize := ((r.stream? 0).map fun c => (r.files.remaining c).length).getD 0
    let width := if single then 1
      else if input then (if isFile && names.length = 1 then (toString inputSize).length else 7)
      else total.length
    let line := fun (c : Counts) (name : String) =>
      joined " " ((Counts.shown g c).map fun n => rightAligned width (toString n)) ++
        (if name.isEmpty then "" else " " ++ name)
    let (r, sum) := names.foldl (fun (r, sum) name =>
      match r.readOperand name with
      | (r, .ok content) =>
        let c := Counts.ofContent content
        (r.printLines [line c (if g.operands.isEmpty then "" else name)], sum.add c)
      | (r, .error fault) =>
        let r := r.refuse 1 ("wc: " ++ name ++ ": " ++ faultWords fault)
        (if fault = .isDirectory then r.printLines [line ⟨0, 0, 0, 0⟩ name] else r, sum)) (r, ⟨0, 0, 0, 0⟩)
    if 1 < names.length then r.printLines [line sum "total"] else r

/-! ## Other orders and other places -/

/-- writes its input to its output and to files -/
def tee : Program :=
  { flags := "aip", long := [("append", 'a')] : OptionForm }.program "tee" 1 fun g r =>
    let (r, content) := r.takeAll 0
    g.operands.foldl (fun r name =>
      let before := if g.has 'a' then (r.disk.readBytes (path name)).toOption.getD [] else []
      if name == "/dev/stdout" then r.say 1 content
      else if name == "/dev/stderr" then r.say 2 content
      else Files.change r ("tee: " ++ name) (r.disk.write (path name) (before ++ content))) (r.say 1 content)

/-- lines in reverse order -/
def tac : Program :=
  { flags := "b" : OptionForm }.program "tac" 1 fun g r =>
    r.forContents "tac" 1 g.operands fun _ content r => r.say 1 (linesWithEnds content).reverse.flatten

/-- lines backwards -/
def rev : Program :=
  { flags := "" : OptionForm }.program "rev" 1 fun g r =>
    r.forContents "rev" 1 g.operands fun _ content r =>
      r.say 1 ((linesWithEnds content).flatMap fun line =>
        if line.getLast? == some 10 then encode (String.ofList (decodeLossy line.dropLast).toList.reverse) ++ [10]
        else encode (String.ofList (decodeLossy line).toList.reverse))

/-- lines with numbers -/
def nl : Program :=
  { flags := "p", valued := "bwsnvi" : OptionForm }.program "nl" 1 fun g r =>
    let (r, contents) := r.takeContents "nl" 1 g.operands
    let all := (g.value? 'b') == some "a"
    let width := ((g.value? 'w').bind Number.count?).getD 6
    let separator := (g.value? 's').getD "\t"
    let start := ((g.value? 'v').bind Number.count?).getD 1
    let (texts, _) := (linesOf contents.flatten).foldl (fun ((texts : List String), n) line =>
      if line.isEmpty && !all then
        (String.ofList (List.replicate (width + separator.length) ' ') :: texts, n)
      else ((rightAligned width (toString n) ++ separator ++ line) :: texts, n + 1)) ([], start)
    r.printLines texts.reverse

/-- a text in pieces of a length -/
def pieces (width : Nat) (fuel : Nat) (cs : List Char) : List String :=
  match fuel with
  | 0 => [String.ofList cs]
  | fuel + 1 =>
    if cs.length ≤ width || width = 0 then [String.ofList cs]
    else String.ofList (cs.take width) :: pieces width fuel (cs.drop width)

/-- lines cut at a width -/
def fold : Program :=
  { flags := "bs", valued := "w", long := [("width", 'w')] : OptionForm }.program "fold" 1 fun g r =>
    let width := ((g.value? 'w').bind Number.count?).getD 80
    r.forContents "fold" 1 g.operands fun _ content r =>
      r.printLines ((linesOf content).flatMap fun line => pieces width line.length line.toList)

/-- one line again and again; nobody reads more of them than this -/
def yes : Program := fun args r =>
  let line := if args.isEmpty then "y" else joined " " args
  (r.withStatus 0).printLines (List.replicate 4096 line)

/-- compares two files byte by byte -/
def cmp : Program :=
  { flags := "sbl", long := [("silent", 's'), ("quiet", 's')] : OptionForm }.program "cmp" 2 fun g r =>
    match g.operands with
    | a :: rest =>
      let b := rest.headD "-"
      let (r, first) := r.readOperand a
      let (r, second) := r.readOperand b
      match first, second with
      | .ok first, .ok second =>
        let same := ((first.zip second).takeWhile fun (a, b) => a == b).length
        if first = second then r
        else
          let r := r.withStatus 1
          if g.has 's' then r
          else if same = min first.length second.length then
            let short := if first.length < second.length then a else b
            let line := (first.take same).countP (· == 10)
            if same = 0 then r.tell ("cmp: EOF on " ++ short ++ " which is empty")
            else
              r.tell ("cmp: EOF on " ++ short ++ " after byte " ++ toString same ++
                (if (first.take same).getLast? == some 10 then ", line " ++ toString line
                else ", in line " ++ toString (line + 1)))
          else
            r.printLines [a ++ " " ++ b ++ " differ: byte " ++ toString (same + 1) ++ ", line " ++
              toString ((first.take same).countP (· == 10) + 1)]
      | .error fault, _ => if g.has 's' then r.withStatus 2 else r.refuse 2 ("cmp: " ++ a ++ ": " ++ faultWords fault)
      | _, .error fault => if g.has 's' then r.withStatus 2 else r.refuse 2 ("cmp: " ++ b ++ ": " ++ faultWords fault)
    | [] => r.refuse 2 "cmp: missing operand after 'cmp'"

/-- the programs by their names -/
def program? (name : String) : Option Program :=
  match name with
  | "cat" => some cat
  | "head" => some head
  | "tail" => some tail
  | "wc" => some wc
  | "tee" => some tee
  | "tac" => some tac
  | "rev" => some rev
  | "nl" => some nl
  | "fold" => some fold
  | "yes" => some yes
  | "cmp" => some cmp
  | _ => none

end CodeSurvey.Shell.Contents
