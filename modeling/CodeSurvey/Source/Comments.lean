/-
Comments taken out of source text.

The bytes of a text are read from left to right by a machine with six modes. At each place `move` says which bytes are
kept, the mode after it and how many further bytes belong to the move; `scan` makes the moves. A comment leaves one
space, a line comment keeps its line feed, and everything inside literals stays as it is. A string or character literal
that is still open at a line feed ends there; a text block, between triple quotes, runs over lines. `stripComments` is
the result as text, and `normalize` writes its words with one space between them.
-/
import CodeSurvey.Text.Utf8
import CodeSurvey.Text.Words
import CodeSurvey.Pattern.Search

namespace CodeSurvey.Source

open Text

/-- where the reader is -/
inductive Mode where
  | code
  | inString
  | inChar
  | textBlock
  | lineComment
  | blockComment
  deriving DecidableEq, Repr

/-- what is done at one place -/
structure Move where
  kept : Bytes
  mode : Mode
  /-- bytes after the first one that belong to the move -/
  more : Nat

def slash : UInt8 := 0x2F
def star : UInt8 := 0x2A
def backslash : UInt8 := 0x5C
def quote : UInt8 := 0x22
def apostrophe : UInt8 := 0x27
def newline : UInt8 := 0x0A
def space : UInt8 := 0x20

/-- two more quotes follow -/
def quotesFollow (rest : Bytes) : Bool := rest.take 2 == [quote, quote]

/-- the mode after a byte of a literal -/
def afterLiteralByte (mode : Mode) (b : UInt8) : Mode :=
  match mode with
  | .inString => if b = quote || b = newline then .code else .inString
  | .inChar => if b = apostrophe || b = newline then .code else .inChar
  | other => other

/-- what is done at the byte `b`, before the bytes `rest` -/
def move (mode : Mode) (b : UInt8) (rest : Bytes) : Move :=
  match mode with
  | .code =>
    if b = slash && rest.head? = some slash then ⟨[space], .lineComment, 1⟩
    else if b = slash && rest.head? = some star then ⟨[space], .blockComment, 1⟩
    else if b = quote && quotesFollow rest then ⟨[quote, quote, quote], .textBlock, 2⟩
    else if b = quote then ⟨[b], .inString, 0⟩
    else if b = apostrophe then ⟨[b], .inChar, 0⟩
    else ⟨[b], .code, 0⟩
  | .lineComment => if b = newline then ⟨[b], .code, 0⟩ else ⟨[], .lineComment, 0⟩
  | .blockComment => if b = star && rest.head? = some slash then ⟨[], .code, 1⟩ else ⟨[], .blockComment, 0⟩
  | literal =>
    if b = backslash then ⟨b :: rest.take 1, literal, 1⟩
    else if literal = .textBlock && b = quote && quotesFollow rest then ⟨[quote, quote, quote], .code, 2⟩
    else ⟨[b], afterLiteralByte literal b, 0⟩

/-- the mode at a place, and how many bytes from there belong to an earlier move -/
structure State where
  mode : Mode
  skip : Nat
  deriving DecidableEq, Repr

/-- the bytes kept, and the state at the end -/
def scan : State → Bytes → Bytes × State
  | st, [] => ([], st)
  | ⟨mode, n + 1⟩, _ :: rest => scan ⟨mode, n⟩ rest
  | ⟨mode, 0⟩, b :: rest =>
    let m := move mode b rest
    let (kept, last) := scan ⟨m.mode, m.more⟩ rest
    (m.kept ++ kept, last)

/-- the bytes of a text without its comments -/
def stripBytes (bs : Bytes) : Bytes := (scan ⟨.code, 0⟩ bs).1

/-- a text without its comments -/
def stripComments (text : String) : String := decodeLossy (stripBytes (encode text))

/-- the words of a text with one space between them -/
def collapse (text : String) : String :=
  joined " " ((words text.toList).map String.ofList)

/-- a text without comments, its blanks collapsed -/
def normalize (text : String) : String := collapse (stripComments text)

/-- a type declaration: its keyword and, as group 1, its name -/
def typeDeclaration : Pattern :=
  .wordEdge ++ .oneOf ["class", "interface", "enum"] ++ .blank ++ .group 1 .word

/-- the name in the first type declaration of a normalized text -/
def typeName (normalized : String) : Option String :=
  (typeDeclaration.find? normalized).map (·.group 1)

/-- the text of a source file: UTF-8 where the bytes are, else one character per byte -/
def textOfBytes (bs : Bytes) : String :=
  (decode? bs).getD (decodeLatin1 bs)

end CodeSurvey.Source
