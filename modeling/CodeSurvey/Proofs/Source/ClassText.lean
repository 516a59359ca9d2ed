/-
The text of a class, part by part.

A `ClassText` is a heading, a brace, members with spaces between them and a brace. A member is a field or a method; a
method is a header, a space, a name, parameters in parentheses, a throws clause, and a semicolon or a body in braces.
`lexemes` writes each of them, and `method?` says which method a member declares.

Every literal is closed, since parts are made of lexemes. Headings and headers have no parentheses but those of
annotations; parameters are balanced in parentheses and bodies in braces (`Balanced`), and hold anything else.
-/
import CodeSurvey.Proofs.Source.Matching

namespace CodeSurvey.Source

open Text

/-! ## Characters -/

/-- part of an identifier; every character beyond ASCII is -/
def isIdentChar (c : Char) : Bool := isAsciiAlphanumeric c || c == '_' || c == '$' || !isAscii c

/-- may end a type -/
def isTypeEnd (c : Char) : Bool := isAsciiAlphanumeric c || c == '_' || c == '>' || c == ']' || !isAscii c

/-- part of the name of an annotation -/
def isDottedChar (c : Char) : Bool := isIdentChar c || c == '.'

/-- part of a throws clause, with the blanks around it -/
def isClauseChar (c : Char) : Bool :=
  [' ', '\t', '\n', '\x0c', '\r', '_', '.', ',', '<', '>'].contains c || isAsciiAlphanumeric c || !isAscii c

def isParen (c : Char) : Bool := c == '(' || c == ')'

/-- ends a member or opens a body -/
def isStop (c : Char) : Bool := c == ';' || c == '{' || c == '}'

namespace Lexeme

def blank : Lexeme := .code ' ' (by decide)
def atMark : Lexeme := .code '@' (by decide)
def parenOpen : Lexeme := .code '(' (by decide)
def parenClose : Lexeme := .code ')' (by decide)
def braceOpen : Lexeme := .code '{' (by decide)
def braceClose : Lexeme := .code '}' (by decide)
def semicolon : Lexeme := .code ';' (by decide)

end Lexeme

/-! ## Headings and headers -/

/-- a character of a heading or a header, or an annotation with arguments -/
inductive Part where
  | plain (l : Lexeme) (code : l.Is (fun c => !isParen c && !isStop c) = true)
  | annotated (name args : List Lexeme) (named : ∀ l ∈ name, l.Is isDottedChar = true)
      (flat : ∀ l ∈ args, l.Is isParen = false)

def Part.lexemes : Part → List Lexeme
  | plain l _ => [l]
  | annotated name args _ _ => .atMark :: name ++ .parenOpen :: args ++ [.parenClose]

def partsOf (ps : List Part) : List Lexeme := ps.flatMap Part.lexemes

/-- the identifier that the text ends with -/
def lastWord (ls : List Lexeme) : String := textOf (ls.rtakeWhile (Lexeme.Is · isIdentChar))

/-! ## Members -/

/-- annotations, modifiers, type and name of a field, and what stands behind them -/
structure FieldText where
  header : List Part
  rest : List Lexeme
  flat : ∀ l ∈ rest, l.Is isParen = false

def FieldText.lexemes (f : FieldText) : List Lexeme := partsOf f.header ++ f.rest ++ [.semicolon]

structure MethodText where
  /-- annotations, modifiers and return type -/
  header : List Part
  name : List Lexeme
  params : List Lexeme
  /-- the throws clause -/
  clause : List Lexeme
  /-- what stands between the braces; a method without a body ends with a semicolon -/
  body : Option (List Lexeme)
  /-- the header ends with the end of a type -/
  typed : ∃ l, (partsOf header).getLast? = some l ∧ l.Is isTypeEnd = true
  /-- its last word is not the one that creates an object -/
  not_creation : lastWord (partsOf header) ≠ "new"
  name_ident : ∀ l ∈ name, l.Is isIdentChar = true
  name_starts : ∃ l, name.head? = some l ∧ l.Is isAsciiDigit = false
  name_declares : textOf name ∉ notMethodNames
  params_balanced : Balanced '(' ')' params
  clause_fits : ∀ l ∈ clause, l.Is isClauseChar = true
  body_balanced : ∀ inner ∈ body, Balanced '{' '}' inner

/-- the text in braces -/
def blockOf (inner : List Lexeme) : List Lexeme := .braceOpen :: inner ++ [.braceClose]

namespace MethodText

/-- a body or a semicolon -/
def lastPart (m : MethodText) : List Lexeme :=
  match m.body with
  | none => [.semicolon]
  | some inner => blockOf inner

def lexemes (m : MethodText) : List Lexeme :=
  partsOf m.header ++ .blank :: m.name ++ .parenOpen :: m.params ++ .parenClose :: m.clause ++ m.lastPart

/-- the declaration that the text is -/
def method (m : MethodText) : Method where
  name := textOf m.name
  header := trimmed (textOf (partsOf m.header))
  params := textOf m.params
  body := m.body.map fun inner => textOf (blockOf inner)

end MethodText

inductive Member where
  | field (f : FieldText)
  | method (m : MethodText)

namespace Member

def lexemes : Member → List Lexeme
  | field f => f.lexemes
  | method m => m.lexemes

def method? : Member → Option Method
  | field _ => none
  | method m => some m.method

end Member

/-! ## Classes -/

def spaces (n : Nat) : List Lexeme := List.replicate n .blank

structure ClassText where
  /-- annotations, modifiers, name and supertypes -/
  heading : List Part
  /-- each behind so many spaces -/
  members : List (Nat × Member)
  /-- how many spaces stand before the last brace -/
  gap : Nat

/-- members with the spaces before them -/
def membersOf (ms : List (Nat × Member)) : List Lexeme := ms.flatMap fun (n, m) => spaces n ++ m.lexemes

def ClassText.lexemes (t : ClassText) : List Lexeme :=
  partsOf t.heading ++ .braceOpen :: membersOf t.members ++ spaces t.gap ++ [.braceClose]

/-- an annotation with a semicolon in a literal, parentheses in parameters and braces in a body -/
def sampleMethod : MethodText where
  header := [.annotated [.code 'A' (by decide)] [.literal .string [.plain ';' (by decide)]] (by decide) (by decide),
    .plain (.code 'T' (by decide)) rfl]
  name := [.code 'f' (by decide)]
  params := [.parenOpen, .parenClose]
  clause := []
  body := some [.literal .char [.escape '\''], .braceOpen, .braceClose]
  typed := ⟨_, rfl, rfl⟩
  not_creation := by decide +kernel
  name_ident := by decide
  name_starts := ⟨_, rfl, rfl⟩
  name_declares := by decide +kernel
  params_balanced := by
    have hinner : Balanced '(' ')' [] := .nil
    exact .block rfl hinner rfl .nil
  clause_fits := by decide
  body_balanced := by
    rintro inner ⟨⟩
    have hinner : Balanced '{' '}' [] := .nil
    exact .other rfl rfl (.block rfl hinner rfl .nil)

example : textOf (ClassText.lexemes ⟨[], [(1, .method sampleMethod)], 1⟩) =
    "\x7b @A(\";\")T f(())\x7b'\\''\x7b\x7d\x7d \x7d" := by
  decide +kernel

end CodeSurvey.Source
