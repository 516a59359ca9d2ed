/-
Reading settings documents.

Each reader takes characters from the front of the text and gives what it read and the rest, or nothing where the text
is not of its form. A document is read line by line into statements, which `document?` turns into one table.
-/
import CodeSurvey.Text.Words
import CodeSurvey.Toml.Value

namespace CodeSurvey.Toml

open Text

/-- what a reader gives: what it read, and the rest -/
abbrev Read (α : Type) := Option (α × List Char)

def isGap (c : Char) : Bool := c == ' ' || c == '\t'

def skipGap (cs : List Char) : List Char := cs.dropWhile isGap

/-- may stand in remarks and literal strings -/
def isPlain (c : Char) : Bool := c == '\t' || (c.toNat ≥ 32 && c.toNat != 127)

/-- the rest after a remark, if one begins here -/
def skipRemark : List Char → Option (List Char)
  | '#' :: cs =>
    let rest := cs.dropWhile isPlain
    match rest with
    | [] => some []
    | '\n' :: _ => some rest
    | '\r' :: '\n' :: _ => some rest
    | _ => none
  | cs => some cs

/-- the rest after the end of a line -/
def skipLineEnd : List Char → Option (List Char)
  | [] => some []
  | '\n' :: cs => some cs
  | '\r' :: '\n' :: cs => some cs
  | _ => none

/-- the rest after blanks, remarks and line ends -/
def skipLines : (fuel : Nat) → List Char → Option (List Char)
  | 0, cs => some cs
  | fuel + 1, cs =>
    match skipGap cs with
    | '#' :: rest => (skipRemark ('#' :: rest)).bind (skipLines fuel)
    | '\n' :: rest => skipLines fuel rest
    | '\r' :: '\n' :: rest => skipLines fuel rest
    | rest => some rest

/-! ## Strings -/

def hexValue? (c : Char) : Option Nat :=
  if isAsciiDigit c then some (c.toNat - 48)
  else if 'a' ≤ c && c ≤ 'f' then some (c.toNat - 87)
  else if 'A' ≤ c && c ≤ 'F' then some (c.toNat - 55)
  else none

/-- the character of a code with so many hexadecimal digits -/
def readCode (width : Nat) (cs : List Char) : Option (Char × List Char) := do
  if cs.length < width then none
  let n ← (cs.take width).foldlM (fun n c => (hexValue? c).map (n * 16 + ·)) 0
  if h : n.isValidChar then some (Char.ofNatAux n h, cs.drop width) else none

/-- the character after a backslash -/
def readEscape : List Char → Read Char
  | 'b' :: cs => some ('\x08', cs)
  | 't' :: cs => some ('\t', cs)
  | 'n' :: cs => some ('\n', cs)
  | 'f' :: cs => some ('\x0c', cs)
  | 'r' :: cs => some ('\r', cs)
  | '"' :: cs => some ('"', cs)
  | '\\' :: cs => some ('\\', cs)
  | 'u' :: cs => readCode 4 cs
  | 'U' :: cs => readCode 8 cs
  | _ => none

/-- a string up to its double quote -/
def readBasic : (fuel : Nat) → List Char → Read (List Char)
  | 0, _ => none
  | fuel + 1, cs =>
    match cs with
    | [] => none
    | '"' :: rest => some ([], rest)
    | '\\' :: rest =>
      (readEscape rest).bind fun (c, rest) => (readBasic fuel rest).map fun (s, rest) => (c :: s, rest)
    | c :: rest => if isPlain c then (readBasic fuel rest).map fun (s, rest) => (c :: s, rest) else none

/-- a string up to its single quote, nothing in it escaped -/
def readLiteral (cs : List Char) : Read (List Char) :=
  match cs.dropWhile fun c => isPlain c && c != '\'' with
  | '\'' :: rest => some (cs.takeWhile fun c => isPlain c && c != '\'', rest)
  | _ => none

/-- how many of the quotes at the front belong to the end of a string of lines: three, and up to two before them -/
def closingQuotes (q : Char) (cs : List Char) : Option (Nat × List Char) :=
  let n := (cs.takeWhile (· == q)).length
  if n < 3 then none
  else if n > 5 then none
  else some (n - 3, cs.drop n)

/-- the text without its leading blanks and line ends -/
def dropLines : List Char → List Char
  | '\r' :: '\n' :: cs => dropLines cs
  | c :: cs => if isGap c || c == '\n' then dropLines cs else c :: cs
  | [] => []

/-- a string of lines up to its three double quotes -/
def readLinesBasic : (fuel : Nat) → List Char → Read (List Char)
  | 0, _ => none
  | fuel + 1, cs =>
    match cs with
    | [] => none
    | '"' :: rest =>
      match closingQuotes '"' cs with
      | some (n, after) => some (List.replicate n '"', after)
      | none =>
        if "\"\"\"".toList.isPrefixOf cs then none
        else (readLinesBasic fuel rest).map fun (s, rest) => ('"' :: s, rest)
    | '\\' :: rest =>
      match skipLineEnd (skipGap rest) with
      | some after =>
        if after.isEmpty then none
        else readLinesBasic fuel (dropLines after)
      | none => (readEscape rest).bind fun (c, rest) => (readLinesBasic fuel rest).map fun (s, rest) => (c :: s, rest)
    | '\r' :: '\n' :: rest => (readLinesBasic fuel rest).map fun (s, rest) => ('\n' :: s, rest)
    | c :: rest =>
      if isPlain c || c == '\n' then (readLinesBasic fuel rest).map fun (s, rest) => (c :: s, rest) else none

/-- a string of lines up to its three single quotes -/
def readLinesLiteral : (fuel : Nat) → List Char → Read (List Char)
  | 0, _ => none
  | fuel + 1, cs =>
    match cs with
    | [] => none
    | '\'' :: rest =>
      match closingQuotes '\'' cs with
      | some (n, after) => some (List.replicate n '\'', after)
      | none =>
        if "'''".toList.isPrefixOf cs then none
        else (readLinesLiteral fuel rest).map fun (s, rest) => ('\'' :: s, rest)
    | '\r' :: '\n' :: rest => (readLinesLiteral fuel rest).map fun (s, rest) => ('\n' :: s, rest)
    | c :: rest =>
      if isPlain c || c == '\n' then (readLinesLiteral fuel rest).map fun (s, rest) => (c :: s, rest) else none

/-- a line end right behind opening quotes says nothing -/
def skipFirstEnd : List Char → List Char
  | '\n' :: cs => cs
  | '\r' :: '\n' :: cs => cs
  | cs => cs

/-- a string of one of the four kinds -/
def readText (cs : List Char) : Read (List Char) :=
  match cs with
  | '"' :: '"' :: '"' :: rest => readLinesBasic (rest.length + 1) (skipFirstEnd rest)
  | '\'' :: '\'' :: '\'' :: rest => readLinesLiteral (rest.length + 1) (skipFirstEnd rest)
  | '"' :: rest => readBasic (rest.length + 1) rest
  | '\'' :: rest => readLiteral rest
  | _ => none

/-! ## Keys -/

def isKeyChar (c : Char) : Bool := isAsciiAlphanumeric c || c == '_' || c == '-'

/-- one part of a key -/
def readKeyPart (cs : List Char) : Read String :=
  match cs with
  | '"' :: rest => (readBasic (rest.length + 1) rest).map fun (s, rest) => (String.ofList s, rest)
  | '\'' :: rest => (readLiteral rest).map fun (s, rest) => (String.ofList s, rest)
  | _ =>
    let name := cs.takeWhile isKeyChar
    if name.isEmpty then none else some (String.ofList name, cs.dropWhile isKeyChar)

/-- the parts of a key between dots -/
def readParts : (fuel : Nat) → List Char → Read (List String)
  | 0, _ => none
  | fuel + 1, cs =>
    (readKeyPart (skipGap cs)).bind fun (part, rest) =>
      match skipGap rest with
      | '.' :: more => (readParts fuel more).map fun (parts, rest) => (part :: parts, rest)
      | rest => some ([part], rest)

/-- brackets stand inside one another, and parts in a key, fewer than this -/
def nestingLimit : Nat := 80

/-- a key -/
def readKey (cs : List Char) : Read (List String) :=
  (readParts (cs.length + 1) cs).filter fun (parts, _) => parts.length < nestingLimit

/-! ## Numbers and dates -/

/-- digits with single underscores between them; the first must be a digit -/
def readDigits (isDigit : Char → Bool) : List Char → List Char × List Char
  | '_' :: c :: cs =>
    if isDigit c then
      let (ds, rest) := readDigits isDigit cs
      (c :: ds, rest)
    else ([], '_' :: c :: cs)
  | c :: cs =>
    if isDigit c then
      let (ds, rest) := readDigits isDigit cs
      (c :: ds, rest)
    else ([], c :: cs)
  | [] => ([], [])

/-- at least one digit, the first without an underscore before it -/
def readNumber (isDigit : Char → Bool) (cs : List Char) : Read (List Char) :=
  match cs with
  | c :: _ => if isDigit c then some (readDigits isDigit cs) else none
  | [] => none

def numberOf (base : Nat) (digits : List Char) : Nat :=
  digits.foldl (fun n c => n * base + (hexValue? c).getD 0) 0

def isOctal (c : Char) : Bool := '0' ≤ c && c ≤ '7'

def isBinary (c : Char) : Bool := c == '0' || c == '1'

def isHex (c : Char) : Bool := (hexValue? c).isSome

def integer? (n : Int) : Option Value := if inRange n then some (.integer n) else none

/-- a whole number in base 16, 8 or 2 -/
def readBased (cs : List Char) : Option (Read Value) :=
  let read := fun (base : Nat) (isDigit : Char → Bool) (rest : List Char) =>
    (readNumber isDigit rest).bind fun (ds, rest) => (integer? (numberOf base ds)).map fun v => (v, rest)
  match cs with
  | '0' :: 'x' :: rest => some (read 16 isHex rest)
  | '0' :: 'o' :: rest => some (read 8 isOctal rest)
  | '0' :: 'b' :: rest => some (read 2 isBinary rest)
  | _ => none

/-- the exponent of a number, if one begins here -/
def readExponent (cs : List Char) : Option (Bool × List Char) :=
  let digits := fun rest => (readNumber isAsciiDigit rest).map fun (_, rest) => (true, rest)
  match cs with
  | c :: rest =>
    if c == 'e' || c == 'E' then
      match rest with
      | '+' :: rest => digits rest
      | '-' :: rest => digits rest
      | rest => digits rest
    else some (false, cs)
  | [] => some (false, [])

/-- the fraction of a number, if one begins here -/
def readFraction (cs : List Char) : Option (Bool × List Char) :=
  match cs with
  | '.' :: rest => (readNumber isAsciiDigit rest).map fun (_, rest) => (true, rest)
  | _ => some (false, cs)

/-- the least number that is nearer to the next power of two than to the greatest decimal of 64 bits -/
def decimalBound : Nat := Nat.pow 2 1024 - Nat.pow 2 970

/-- a decimal number as it is written, without a sign, is too great for 64 bits -/
def outgrows (written : List Char) : Bool :=
  let plain := written.filter (· != '_')
  let isMark := fun c => c == 'e' || c == 'E'
  let mantissa := plain.takeWhile (!isMark ·)
  let fraction := (mantissa.dropWhile (· != '.')).drop 1
  let shown : Int := match (plain.dropWhile (!isMark ·)).drop 1 with
    | '-' :: ds => -(numberOf 10 ds)
    | '+' :: ds => numberOf 10 ds
    | ds => numberOf 10 ds
  let exponent := shown - fraction.length
  let digits := (mantissa.filter (· != '.')).dropWhile (· == '0')
  let n := numberOf 10 digits
  let size := digits.length + exponent
  !digits.isEmpty && (309 < size ||
    (size = 309 && decimalBound * Nat.pow 10 (-exponent).toNat ≤ n * Nat.pow 10 exponent.toNat))

/-- a decimal number with the sign before it; a positive one must not be too great for 64 bits -/
def readDecimal (negative : Bool) (cs : List Char) : Read Value :=
  match afterStart "inf".toList cs, afterStart "nan".toList cs with
  | some rest, _ => some (.decimal "inf", rest)
  | _, some rest => some (.decimal "nan", rest)
  | none, none =>
    (readNumber isAsciiDigit cs).bind fun (ds, rest) =>
      if ds.head? == some '0' && ds.length > 1 then none
      else
        (readFraction rest).bind fun (fraction, rest) =>
          (readExponent rest).bind fun (exponent, rest) =>
            let written := cs.take (cs.length - rest.length)
            if fraction || exponent then
              if !negative && outgrows written then none else some (.decimal (String.ofList written), rest)
            else (integer? (if negative then -(numberOf 10 ds : Int) else numberOf 10 ds)).map fun v => (v, rest)

/-- so many digits as a number -/
def readFixed (width : Nat) (cs : List Char) : Read Nat :=
  let ds := cs.take width
  if ds.length = width && ds.all isAsciiDigit then some (numberOf 10 ds, cs.drop width) else none

/-- the given character -/
def expect (x : Char) : List Char → Option (List Char)
  | c :: cs => if c == x then some cs else none
  | [] => none

def isLeap (year : Nat) : Bool := year % 4 == 0 && (year % 100 != 0 || year % 400 == 0)

def daysIn (year month : Nat) : Nat :=
  if month == 2 then (if isLeap year then 29 else 28)
  else if [4, 6, 9, 11].contains month then 30
  else 31

/-- year, month and day -/
def readDay (cs : List Char) : Option (List Char) := do
  let (year, cs) ← readFixed 4 cs
  let cs ← expect '-' cs
  let (month, cs) ← readFixed 2 cs
  let cs ← expect '-' cs
  let (day, cs) ← readFixed 2 cs
  if 1 ≤ month && month ≤ 12 && 1 ≤ day && day ≤ daysIn year month then some cs else none

/-- hour, minute, second and a fraction -/
def readTime (cs : List Char) : Option (List Char) := do
  let (hour, cs) ← readFixed 2 cs
  let cs ← expect ':' cs
  let (minute, cs) ← readFixed 2 cs
  let cs ← expect ':' cs
  let (second, cs) ← readFixed 2 cs
  if hour > 23 || minute > 59 || second > 60 then none
  match cs with
  | '.' :: rest =>
    let ds := rest.takeWhile isAsciiDigit
    if ds.isEmpty then none else some (rest.dropWhile isAsciiDigit)
  | _ => some cs

/-- the distance of a time zone, if one begins here -/
def readZone (cs : List Char) : Option (List Char) :=
  let hours := fun rest => do
    let (hour, cs) ← readFixed 2 rest
    let cs ← expect ':' cs
    let (minute, cs) ← readFixed 2 cs
    if hour > 23 || minute > 59 then none else some cs
  match cs with
  | 'Z' :: rest => some rest
  | 'z' :: rest => some rest
  | '+' :: rest => hours rest
  | '-' :: rest => hours rest
  | _ => some cs

/-- the time behind a day, if one begins here -/
def readDayTime (cs : List Char) : Option (List Char) :=
  match cs with
  | 'T' :: rest => (readTime rest).bind readZone
  | 't' :: rest => (readTime rest).bind readZone
  | ' ' :: a :: b :: ':' :: _ =>
    if isAsciiDigit a && isAsciiDigit b then (readTime (cs.drop 1)).bind readZone else some cs
  | _ => some cs

/-- a date or a time of day begins here -/
def startsDate (cs : List Char) : Bool :=
  ((cs.take 4).all isAsciiDigit && (cs.drop 4).head? == some '-' && cs.length > 4) ||
    ((cs.take 2).all isAsciiDigit && (cs.drop 2).head? == some ':')

/-- a date, a time or both -/
def readDate (cs : List Char) : Read Value :=
  let rest := if (cs.drop 2).head? == some ':' then readTime cs else (readDay cs).bind readDayTime
  rest.map fun rest => (.date (String.ofList (cs.take (cs.length - rest.length))), rest)

/-! ## Values -/

mutual

/-- a value inside so many brackets -/
def readValue (inside : Nat) : (fuel : Nat) → List Char → Read Value
  | 0, _ => none
  | fuel + 1, cs =>
    match cs with
    | [] => none
    | '"' :: _ => (readText cs).map fun (s, rest) => (.text (String.ofList s), rest)
    | '\'' :: _ => (readText cs).map fun (s, rest) => (.text (String.ofList s), rest)
    | '[' :: rest =>
      if inside + 1 < nestingLimit then (readItems (inside + 1) fuel rest).map fun (items, rest) => (.array items, rest)
      else none
    | '\x7b' :: rest =>
      if inside + 1 < nestingLimit then
        match skipGap rest with
        | '\x7d' :: after => some (.table [], after)
        | rest => (readPairs (inside + 1) fuel rest).bind fun (pairs, rest) => (inline? pairs).map fun v => (v, rest)
      else none
    | '+' :: rest => readDecimal false rest
    | '-' :: rest => readDecimal true rest
    | _ =>
      match afterStart "true".toList cs, afterStart "false".toList cs with
      | some rest, _ => some (.boolean true, rest)
      | _, some rest => some (.boolean false, rest)
      | none, none =>
        if startsDate cs then readDate cs
        else (readBased cs).getD (readDecimal false cs)

/-- the items of a list up to its closing bracket -/
def readItems (inside : Nat) : (fuel : Nat) → List Char → Read (List Value)
  | 0, _ => none
  | fuel + 1, cs =>
    (skipLines cs.length cs).bind fun cs =>
      match cs with
      | ']' :: rest => some ([], rest)
      | _ =>
        (readValue inside fuel cs).bind fun (v, rest) =>
          (skipLines rest.length rest).bind fun rest =>
            match rest with
            | ',' :: more => (readItems inside fuel more).map fun (vs, rest) => (v :: vs, rest)
            | ']' :: rest => some ([v], rest)
            | _ => none

/-- the pairs of a table between braces up to its closing brace -/
def readPairs (inside : Nat) : (fuel : Nat) → List Char → Read (List (List String × Value))
  | 0, _ => none
  | fuel + 1, cs =>
    (readKey cs).bind fun (path, rest) =>
      (expect '=' rest).bind fun rest =>
        (readValue inside fuel (skipGap rest)).bind fun (v, rest) =>
          match skipGap rest with
          | ',' :: more => (readPairs inside fuel more).map fun (ps, rest) => ((path, v) :: ps, rest)
          | '\x7d' :: rest => some ([(path, v)], rest)
          | _ => none

end

/-! ## Documents -/

/-- the rest after the end of a statement -/
def endStatement (cs : List Char) : Option (List Char) :=
  (skipRemark (skipGap cs)).bind skipLineEnd

/-- one statement, its line end included -/
def readStatement (cs : List Char) : Option (Statement × List Char) :=
  match cs with
  | '[' :: '[' :: rest => do
    let (path, rest) ← readKey rest
    let rest ← expect ']' rest
    let rest ← expect ']' rest
    (endStatement rest).map fun rest => (.listHeader path, rest)
  | '[' :: rest => do
    let (path, rest) ← readKey rest
    let rest ← expect ']' rest
    (endStatement rest).map fun rest => (.header path, rest)
  | _ => do
    let (path, rest) ← readKey cs
    let rest ← expect '=' rest
    let (v, rest) ← readValue 0 (2 * rest.length + 2) (skipGap rest)
    (endStatement rest).map fun rest => (.pair path v, rest)

/-- the statements of a document -/
def readStatements : (fuel : Nat) → List Char → Option (List Statement)
  | 0, _ => none
  | fuel + 1, cs =>
    (skipLines cs.length cs).bind fun cs =>
      match cs with
      | [] => some []
      | _ => (readStatement cs).bind fun (s, rest) => (readStatements fuel rest).map (s :: ·)

/-- the table that a text describes; a byte order mark in front says nothing -/
def read? (text : String) : Option (List (String × Value)) :=
  let cs := ((stripStart text "\uFEFF").getD text).toList
  (readStatements (cs.length + 1) cs).bind document?

end CodeSurvey.Toml
