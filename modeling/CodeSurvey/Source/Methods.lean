/-
Method declarations found by counting delimiters.

The masked bytes of a text are walked from left to right. At each opening parenthesis `declarationAt` looks back for a
name and a type before it and forward for the closing parenthesis and a body or a semicolon; nothing is parsed, so text
that does not compile is read too. A declaration is a record of spans, places in the text in bytes; a walk goes on after
its last byte, so declarations never overlap. `methods` gives the same as texts.
-/
import CodeSurvey.Source.Literals

namespace CodeSurvey.Source

open Text

/-- the bytes from `start` up to, not with, `stop` -/
structure Span where
  start : Nat
  stop : Nat
  deriving DecidableEq, Repr

/-- the bytes of a span -/
def Span.of (s : Span) (bs : Bytes) : Bytes := (bs.drop s.start).take (s.stop - s.start)

/-- a declaration: where its parts are; a method without a body ends with a semicolon -/
structure Declaration where
  name : Span
  header : Span
  params : Span
  body : Option Span
  /-- the place of the last byte -/
  last : Nat
  deriving DecidableEq, Repr

/-- words that stand before a parenthesis and declare nothing -/
def notMethodNames : List String :=
  ["if", "for", "while", "switch", "catch", "synchronized", "try", "return", "new", "else", "do", "throw"]

def parenOpen : UInt8 := 0x28
def parenClose : UInt8 := 0x29
def braceOpen : UInt8 := 0x7B
def braceClose : UInt8 := 0x7D
def semicolon : UInt8 := 0x3B
def atSign : UInt8 := 0x40

def isAsciiDigitByte (b : UInt8) : Bool := 0x30 ≤ b && b ≤ 0x39

def isAsciiAlphanumericByte (b : UInt8) : Bool :=
  isAsciiDigitByte b || (0x41 ≤ b && b ≤ 0x5A) || (0x61 ≤ b && b ≤ 0x7A)

/-- tab, line feed, form feed, carriage return, space -/
def isBlankByte (b : UInt8) : Bool := b = 0x20 || b = 0x09 || b = 0x0A || b = 0x0C || b = 0x0D

/-- part of an identifier; every byte beyond ASCII is -/
def isIdentByte (b : UInt8) : Bool :=
  isAsciiAlphanumericByte b || b = 0x5F || b = 0x24 || 0x80 ≤ b

/-- may end the type before a method's name: a word character, `>` or `]` -/
def endsType (b : UInt8) : Bool :=
  isAsciiAlphanumericByte b || b = 0x5F || b = 0x3E || b = 0x5D || 0x80 ≤ b

/-- may stand between the parameters and the body: blanks and the names of a throws clause -/
def fitsThrows (b : UInt8) : Bool :=
  isBlankByte b || isAsciiAlphanumericByte b || b = 0x5F || b = 0x2E || b = 0x2C || b = 0x3C || b = 0x3E || 0x80 ≤ b

/-- how many of the bytes before a name, last first, belong to its header: all up to the nearest semicolon or brace that
is not inside parentheses -/
def headerLength (depth : Nat) : Bytes → Nat
  | [] => 0
  | b :: before =>
    if b = parenClose then headerLength (depth + 1) before + 1
    else if b = parenOpen then headerLength (depth - 1) before + 1
    else if (b = semicolon || b = braceOpen || b = braceClose) && depth = 0 then 0
    else headerLength depth before + 1

/-- the identifier that the bytes, last first, end with -/
def nameAtEnd (before : Bytes) : Option Bytes :=
  let name := (before.takeWhile isIdentByte).reverse
  match name.head? with
  | none => none
  | some first =>
    if isAsciiDigitByte first || (before.dropWhile isIdentByte).head? = some atSign then none else some name

/-- what stands before a method's name, last first: a type, and not the word that creates an object -/
def followsType (before : Bytes) : Bool :=
  let before := before.dropWhile isBlankByte
  match before.head? with
  | none => false
  | some b => endsType b && (before.takeWhile isIdentByte).reverse != encode "new"

/-- what ends the declaration whose parameters end before these bytes: a body with its length, or a semicolon; with how
far it is to there -/
def ending : Bytes → Option (Nat × Option Nat)
  | [] => none
  | b :: rest =>
    if b = braceOpen then (closing braceOpen braceClose 0 (b :: rest)).map fun n => (0, some (n + 1))
    else if b = semicolon then some (0, none)
    else if fitsThrows b then (ending rest).map fun (n, body) => (n + 1, body)
    else none

/-- the declaration whose parameters open between the masked bytes `before`, last first, and `rest` -/
def declarationAt (before rest : Bytes) : Option Declaration :=
  let upToName := before.dropWhile isBlankByte
  (nameAtEnd upToName).bind fun name =>
    let beforeName := upToName.dropWhile isIdentByte
    if (notMethodNames.map encode).contains name || !followsType beforeName then none
    else
      (closing parenOpen parenClose 0 (parenOpen :: rest)).bind fun n =>
        (ending (rest.drop n)).map fun (gap, body) =>
          let paren := before.length
          let nameStart := beforeName.length
          let stop := paren + n + 1 + gap
          { name := ⟨nameStart, upToName.length⟩
            header := ⟨nameStart - headerLength 0 beforeName, nameStart⟩
            params := ⟨paren + 1, paren + n⟩
            body := body.map fun length => ⟨stop, stop + length⟩
            last := match body with
              | some length => stop + length - 1
              | none => stop }

/-- the declarations in masked bytes; `before` holds the bytes already passed, last first, and the next `skip` bytes
belong to the last declaration -/
def declarationsFrom (before : Bytes) (skip : Nat) : Bytes → List Declaration
  | [] => []
  | b :: rest =>
    match skip with
    | n + 1 => declarationsFrom (b :: before) n rest
    | 0 =>
      if b = parenOpen then
        match declarationAt before rest with
        | some d => d :: declarationsFrom (b :: before) (d.last - before.length) rest
        | none => declarationsFrom (b :: before) 0 rest
      else declarationsFrom (b :: before) 0 rest

/-- the declarations of a text, in order -/
def declarations (bs : Bytes) : List Declaration := declarationsFrom [] 0 (mask bs)

/-- a method declaration -/
structure Method where
  name : String
  /-- annotations, modifiers and return type -/
  header : String
  /-- what stands between the parentheses -/
  params : String
  /-- the block with its braces; none for a method without one -/
  body : Option String
  deriving DecidableEq, Repr

/-- the text of a span -/
def spanText (bs : Bytes) (s : Span) : String := decodeLossy (s.of bs)

/-- the declaration as text -/
def Declaration.method (bs : Bytes) (d : Declaration) : Method where
  name := spanText bs d.name
  header := trimmed (spanText bs d.header)
  params := spanText bs d.params
  body := d.body.map (spanText bs)

/-- the methods of a text, in order -/
def methods (text : String) : List Method :=
  let bs := encode text
  (declarations bs).map (Declaration.method bs)

/-- the body of the first method of the name that has one -/
def bodyOf (ms : List Method) (name : String) : Option String :=
  (ms.filter (·.name == name)).findSome? (·.body)

/-- the text holds the word, between characters that are no part of a word -/
def hasWord (text word : String) : Bool :=
  (splitBy (fun c => !(isAlphanumeric c || c == '_')) text.toList).contains word.toList

def Method.isPublic (m : Method) : Bool := hasWord m.header "public"

def Method.isStatic (m : Method) : Bool := hasWord m.header "static"

end CodeSurvey.Source
