/-
Programs that write their arguments.

Backslash forms stand for characters. A format holds directives, each of which shows an argument; it is used again
until all arguments are shown.
-/
import CodeSurvey.Shell.Program.Contents

namespace CodeSurvey.Shell.Formatted

open Text

/-! ## Backslash forms -/

/-- which backslash forms there are -/
structure Escapes where
  /-- eighths only behind a zero -/
  zero : Bool
  /-- sixteenths behind an x -/
  sixteenths : Bool
  /-- a quote may be escaped -/
  quote : Bool

/-- a number of at most so many digits in front of a text, and how many there are -/
def digitsOf (base most : Nat) (cs : List Char) : Nat × Nat :=
  let digits := (cs.takeWhile (Number.isDigitOf base)).take most
  (Number.ofDigits base digits, digits.length)

/-- the character that a text behind a backslash writes, and how many characters it takes; none where it is no form -/
def escape? (f : Escapes) (cs : List Char) : Option (Char × Nat) :=
  match cs with
  | [] => none
  | c :: rest =>
    let known := [('a', 7), ('b', 8), ('f', 12), ('n', 10), ('r', 13), ('t', 9), ('v', 11), ('\\', 92)]
    match known.lookup c with
    | some n => some (Char.ofNat n, 1)
    | none =>
      if c = 'e' && f.sixteenths then some ('\x1b', 1)
      else if c = '"' && f.quote then some ('"', 1)
      else if f.zero && c = '0' then
        let (n, length) := digitsOf 8 3 rest
        some (Char.ofNat (n % 256), length + 1)
      else if !f.zero && '0' ≤ c && c ≤ '7' then
        let (n, length) := digitsOf 8 3 cs
        some (Char.ofNat (n % 256), length)
      else if f.sixteenths && c = 'x' then
        let (n, length) := digitsOf 16 2 rest
        if length = 0 then none else some (Char.ofNat n, length + 1)
      else none

/-- the text with its backslash forms worked out, and whether it breaks off there; `skip` characters were read with the
last one -/
def unescape (f : Escapes) (skip : Nat) : List Char → List Char × Bool
  | [] => ([], false)
  | c :: cs =>
    match skip with
    | n + 1 => unescape f n cs
    | 0 =>
      let put := fun (c : Char) (n : Nat) => let (more, stopped) := unescape f n cs; (c :: more, stopped)
      if c != '\\' then put c 0
      else if cs.head? == some 'c' then ([], true)
      else
        match escape? f cs with
        | some (e, n) => put e n
        | none => put c 0

/-! ## Plain output -/

/-- how a shell writes its arguments -/
def echo : Program := fun args r =>
  let (args, ending) := if args.head? == some "-n" then (args.drop 1, "") else (args, "\n")
  let (text, stopped) := unescape ⟨true, false, false⟩ 0 (joined " " args).toList
  (r.withStatus 0).print (String.ofList text ++ if stopped then "" else ending)

/-- how the program outside of shells writes its arguments: backslash forms count only where an option says so -/
def echoProgram : Program := fun args r =>
  let isOption := fun (a : String) =>
    startsWith a "-" && a != "-" && (a.toList.drop 1).all fun c => ['n', 'e', 'E'].contains c
  let letters := ((args.takeWhile isOption).map fun a => a.toList.drop 1).flatten
  let rest := args.dropWhile isOption
  let ending := if letters.contains 'n' then "" else "\n"
  let forms := (letters.reverse.find? fun c => c == 'e' || c == 'E') == some 'e'
  if forms then
    let (text, stopped) := unescape ⟨true, true, false⟩ 0 (joined " " rest).toList
    (r.withStatus 0).print (String.ofList text ++ if stopped then "" else ending)
  else (r.withStatus 0).print (joined " " rest ++ ending)

/-! ## Formats -/

/-- a directive of a format -/
structure Directive where
  flags : List Char
  width : Nat
  precision : Option Nat
  kind : Char
  /-- the directive as it is written, without the sign in front -/
  written : String

/-- output of a format that is being used -/
structure Output where
  /-- last text first -/
  texts : List String
  args : List String
  /-- arguments were used -/
  used : Bool
  failed : Bool
  stopped : Bool
  /-- what was said about mistakes, last one first -/
  told : List String

namespace Output

def put (o : Output) (text : String) : Output := { o with texts := text :: o.texts }

/-- the next argument, and the output behind it -/
def take (o : Output) : Option String × Output :=
  match o.args with
  | a :: rest => (some a, { o with args := rest, used := true })
  | [] => (none, { o with used := true })

def blame (o : Output) (text : String) : Output := { o with failed := true, told := text :: o.told }

end Output

namespace Directive

/-- a text put into the width -/
def fit (d : Directive) (zeros : Bool) (sign text : String) : String :=
  let gap := d.width - (sign.length + text.length)
  let fill := fun (c : Char) => String.ofList (List.replicate gap c)
  if d.flags.contains '-' then sign ++ text ++ fill ' '
  else if zeros && d.flags.contains '0' then sign ++ fill '0' ++ text
  else fill ' ' ++ sign ++ text

/-- the sign of a number that has none written -/
def plusSign (d : Directive) : String :=
  if d.flags.contains '+' then "+" else if d.flags.contains ' ' then " " else ""

/-- digits up to a precision -/
def digits (d : Directive) (text : String) : String :=
  let least := d.precision.getD 1
  let text := if d.precision = some 0 && text == "0" then "" else text
  String.ofList (List.replicate (least - text.length) '0') ++ text

def upper (text : String) : String := String.ofList (text.toList.map Char.toUpper)

/-- a whole number as the directive shows it -/
def int (d : Directive) (n : Int) : String :=
  let zeros := d.precision.isNone
  match d.kind with
  | 'd' | 'i' => d.fit zeros (if n < 0 then "-" else d.plusSign) (d.digits (toString n.natAbs))
  | kind =>
    let bits := (n.emod (Int.pow 2 64)).toNat
    let other := d.flags.contains '#' && bits != 0
    match kind with
    | 'o' =>
      let text := d.digits (String.ofList (Nat.toDigits 8 bits))
      d.fit zeros "" (if d.flags.contains '#' && !startsWith text "0" then "0" ++ text else text)
    | 'x' => d.fit zeros (if other then "0x" else "") (d.digits (String.ofList (Nat.toDigits 16 bits)))
    | 'X' => d.fit zeros (if other then "0X" else "") (d.digits (upper (String.ofList (Nat.toDigits 16 bits))))
    | _ => d.fit zeros "" (d.digits (toString bits))

end Directive

/-! ### Decimal fractions -/

/-- a number of tenths: digits times a power of ten -/
structure Decimal where
  negative : Bool
  digits : Nat
  exponent : Int

namespace Decimal

/-- the number in front of a text, and the text behind it -/
def read? (text : String) : Option (Decimal × List Char) :=
  let cs := text.toList.dropWhile isSpace
  let negative := cs.head? == some '-'
  let cs := if negative || cs.head? == some '+' then cs.drop 1 else cs
  let whole := cs.takeWhile isAsciiDigit
  let rest := cs.drop whole.length
  let (part, rest) := match rest with
    | '.' :: more => (more.takeWhile isAsciiDigit, more.dropWhile isAsciiDigit)
    | _ => ([], rest)
  if whole.isEmpty && part.isEmpty then none
  else
    let (shift, rest) := exponent rest
    some (⟨negative, Number.ofDigits 10 (whole ++ part), shift - part.length⟩, rest)
where
  /-- the power of ten that a text starts with, and the text behind it -/
  exponent (cs : List Char) : Int × List Char :=
    match cs with
    | e :: rest =>
      let negative := rest.head? == some '-'
      let digits := if negative || rest.head? == some '+' then rest.drop 1 else rest
      let number := digits.takeWhile isAsciiDigit
      let n : Nat := Number.ofDigits 10 number
      if (e = 'e' || e = 'E') && !number.isEmpty then (if negative then -n else n, digits.drop number.length)
      else (0, cs)
    | [] => (0, [])

/-- the nearest number of 53 bits -/
def nearest (x : Decimal) : Decimal :=
  let bits := (Float.ofScientific x.digits (x.exponent < 0) x.exponent.natAbs).toBits.toNat
  let exponent := bits / Nat.pow 2 52 % 2048
  let fraction := bits % Nat.pow 2 52
  let m := if exponent = 0 then fraction else fraction + Nat.pow 2 52
  let q : Int := (max exponent 1 : Nat) - 1075
  if q < 0 then ⟨x.negative, m * Nat.pow 5 q.natAbs, q⟩ else ⟨x.negative, m * Nat.pow 2 q.toNat, 0⟩

/-- the quotient, rounded to the nearest number, a half to the even one -/
def roundDiv (n d : Nat) : Nat :=
  let q := n / d
  let twice := 2 * (n % d)
  if twice > d || (twice = d && q % 2 = 1) then q + 1 else q

/-- so many times ten to some power, rounded -/
def scaled (n : Nat) (power : Int) : Nat :=
  if power < 0 then roundDiv n (Nat.pow 10 power.natAbs) else n * Nat.pow 10 power.toNat

/-- digits with a point before the last ones -/
def pointed (digits : String) (places : Nat) : String :=
  let text := String.ofList (List.replicate (places + 1 - digits.length) '0') ++ digits
  let cs := text.toList
  let whole := String.ofList (cs.take (cs.length - places))
  if places = 0 then whole else whole ++ "." ++ String.ofList (cs.drop (cs.length - places))

/-- with so many places -/
def fixed (x : Decimal) (places : Nat) : String := pointed (toString (scaled x.digits (x.exponent + places))) places

/-- the power of ten of the first digit, and the digits rounded to so many places behind it -/
def leading (x : Decimal) (places : Nat) : Int × Nat :=
  if x.digits = 0 then (0, 0)
  else
    let length := (toString x.digits).length
    let power : Int := x.exponent + length - 1
    let n := scaled x.digits (x.exponent - power + places)
    if (toString n).length = places + 2 then (power + 1, n / 10) else (power, n)

/-- a power of ten with a sign and two digits at least -/
def shownPower (power : Int) : String :=
  let digits := toString power.natAbs
  "e" ++ (if power < 0 then "-" else "+") ++ (if digits.length < 2 then "0" ++ digits else digits)

/-- with one digit before the point and so many places -/
def scientific (x : Decimal) (places : Nat) : String :=
  let (power, n) := x.leading places
  pointed (toString n) places ++ shownPower power

/-- the text without zeros at its end behind a point -/
def stripped (text : String) : String :=
  if text.contains '.' then
    String.ofList ((text.toList.reverse.dropWhile (· == '0')).dropWhile (· == '.')).reverse
  else text

/-- with so many digits that count, in the shorter way -/
def general (x : Decimal) (precision : Nat) : String :=
  let digits := max precision 1
  let (power, n) := x.leading (digits - 1)
  if power < -4 || digits ≤ power then stripped (pointed (toString n) (digits - 1)) ++ shownPower power
  else stripped (x.fixed (digits - 1 - power).toNat)

end Decimal

/-- a fraction as a directive shows it -/
def Directive.decimal (d : Directive) (x : Decimal) : String :=
  let places := d.precision.getD 6
  let text := match d.kind with
    | 'f' | 'F' => x.fixed places
    | 'e' => x.scientific places
    | 'E' => Directive.upper (x.scientific places)
    | 'g' => x.general places
    | _ => Directive.upper (x.general places)
  d.fit true (if x.negative then "-" else d.plusSign) text

/-! ### Arguments -/

/-- the number that an argument writes, and what is wrong with it -/
def intArgument (text : Option String) : Int × Option String :=
  match text with
  | none => (0, none)
  | some text =>
    match text.toList with
    | '\x27' :: c :: _ | '"' :: c :: _ => (c.toNat, none)
    | [] => (0, none)
    | cs =>
      match Number.leading? cs with
      | none => (0, some (text ++ ": expected numeric value"))
      | some (n, rest) =>
        let whole := Number.ofDigits 10 (cs.filter isAsciiDigit)
        let tooLarge := (n = Number.largest || n = -Number.largest - 1) && n.natAbs < whole
        (n, if tooLarge then some (text ++ ": Numerical result out of range")
          else if rest.isEmpty then none else some (text ++ ": not completely converted"))

/-- the fraction that an argument writes, and what is wrong with it -/
def decimalArgument (text : Option String) : Decimal × Option String :=
  match text with
  | none => (⟨false, 0, 0⟩, none)
  | some text =>
    match text.toList with
    | '\x27' :: c :: _ | '"' :: c :: _ => (⟨false, c.toNat, 0⟩, none)
    | [] => (⟨false, 0, 0⟩, none)
    | _ =>
      match Decimal.read? text with
      | none => (⟨false, 0, 0⟩, some (text ++ ": expected numeric value"))
      | some (x, rest) => (x.nearest, if rest.isEmpty then none else some (text ++ ": not completely converted"))

/-- the backslash forms of the arguments that a format shows with them -/
def argumentEscapes (shell : Bool) : Escapes := ⟨true, !shell, false⟩

/-- the output behind a directive -/
def Output.show (shell : Bool) (o : Output) (d : Directive) : Output :=
  let tell := fun (o : Output) (wrong : Option String) => match wrong with
    | some text => o.blame text
    | none => o
  match d.kind with
  | 's' =>
    let (a, o) := o.take
    let text := a.getD ""
    o.put (d.fit false "" (match d.precision with | some n => String.ofList (text.toList.take n) | none => text))
  | 'c' =>
    let (a, o) := o.take
    o.put (d.fit false "" (String.singleton ((a.getD "").toList.headD '\x00')))
  | 'b' =>
    let (a, o) := o.take
    let cs := (a.getD "").toList
    let (text, stopped) := unescapeArgument 0 cs
    let text := match d.precision with | some n => text.take n | none => text
    { o.put (d.fit false "" (String.ofList text)) with stopped := stopped }
  | 'd' | 'i' | 'o' | 'u' | 'x' | 'X' =>
    let (a, o) := o.take
    let (n, wrong) := intArgument a
    tell (o.put (d.int n)) wrong
  | 'e' | 'E' | 'f' | 'F' | 'g' | 'G' =>
    let (a, o) := o.take
    let (x, wrong) := decimalArgument a
    tell (o.put (d.decimal x)) wrong
  | _ => if d.written == "%" then o.put "%" else { o.blame ("%" ++ d.written ++ ": invalid directive") with stopped := true }
where
  /-- backslash forms of an argument; eighths may stand behind a zero or alone, and `skip` characters were read with the
  last one -/
  unescapeArgument (skip : Nat) : List Char → List Char × Bool
    | [] => ([], false)
    | c :: cs =>
      match skip with
      | n + 1 => unescapeArgument n cs
      | 0 =>
        let put := fun (c : Char) (n : Nat) => let (more, stopped) := unescapeArgument n cs; (c :: more, stopped)
        if c != '\\' then put c 0
        else if cs.head? == some 'c' then ([], true)
        else
          match (escape? (argumentEscapes shell) cs).or (escape? ⟨false, !shell, false⟩ cs) with
          | some (e, n) => put e n
          | none => put c 0

/-- a number in a directive, or one that an argument gives behind a star -/
def takeNumber (o : Output) (cs : List Char) : Option Int × Output × Nat :=
  match cs with
  | '*' :: _ =>
    let (a, o) := o.take
    (some (intArgument a).1, o, 1)
  | _ =>
    let digits := cs.takeWhile isAsciiDigit
    (if digits.isEmpty then none else some (Number.ofDigits 10 digits : Nat), o, digits.length)

/-- the output behind a directive whose sign was read, and how many characters the directive takes -/
def takeDirective (shell : Bool) (o : Output) (cs : List Char) : Output × Nat :=
  let flags := cs.takeWhile fun c => ['-', '+', ' ', '#', '0'].contains c
  let (width, o, widthLength) := takeNumber o (cs.drop flags.length)
  let rest := cs.drop (flags.length + widthLength)
  let (precision, o, precisionLength) := match rest with
    | '.' :: more =>
      let (n, o, length) := takeNumber o more
      (some (n.getD 0), o, length + 1)
    | _ => (none, o, 0)
  let length := flags.length + widthLength + precisionLength
  let width := width.getD 0
  let flags := if width < 0 then '-' :: flags else flags
  let precision := precision.bind fun n => if n < 0 then none else some n.toNat
  match cs.drop length with
  | kind :: _ =>
    (o.show shell ⟨flags, width.natAbs, precision, kind, String.ofList (cs.take (length + 1))⟩, length + 1)
  | [] => ({ o.blame "missing format character" with stopped := true }, length)

/-- the output behind a format that is used once; `skip` characters were read with the last one -/
def format (shell : Bool) (skip : Nat) (o : Output) : List Char → Output
  | [] => o
  | c :: cs =>
    if o.stopped then o
    else
      match skip with
      | n + 1 => format shell n o cs
      | 0 =>
        if c = '%' then
          let (o, n) := takeDirective shell o cs
          format shell n o cs
        else if c = '\\' then
          if cs.head? == some 'c' then { o with stopped := true }
          else
            match escape? ⟨false, !shell, true⟩ cs with
            | some (e, n) => format shell n (o.put (String.singleton e)) cs
            | none => format shell 0 (o.put "\\") cs
        else format shell 0 (o.put (String.singleton c)) cs

/-- the output of a format that is used until all arguments are shown -/
def formatAll (shell : Bool) (fuel : Nat) (cs : List Char) (o : Output) : Output :=
  match fuel with
  | 0 => o
  | fuel + 1 =>
    let o := format shell 0 { o with used := false } cs
    if o.stopped || !o.used || o.args.isEmpty then o else formatAll shell fuel cs o

/-- writes arguments as a format says -/
def printf (shell : Bool) : Program := fun args r =>
  let first := args.headD ""
  if shell && startsWith first "-" && first != "-" && first != "--" then
    (r.withStatus 2).blame ("printf: Illegal option -" ++ String.ofList ((first.toList.drop 1).take 1))
  else match if first == "--" then args.drop 1 else args with
  | [] =>
    if shell then (r.withStatus 2).blame "printf: usage: printf format [arg ...]"
    else Files.missing r "printf" "missing operand"
  | text :: args =>
    let o := formatAll shell (args.length + 1) text.toList ⟨[], args, false, false, false, []⟩
    let status := if !o.failed then 0 else if shell && o.stopped then 2 else 1
    let r := o.told.reverse.foldl (fun r text =>
      if shell then r.blame ("printf: " ++ text) else r.tell ("printf: " ++ text)) (r.withStatus status)
    r.print (String.join o.texts.reverse)

end CodeSurvey.Shell.Formatted
