/-
Words of command scripts as they are written.

A word is a list of parts: letters, and forms behind a dollar sign that are worked out when the word is used.
`takePart` reads what the first character of a text adds to a word between quotes or outside of them; `readWord` reads
a whole text. Both give nothing where a quotation or a form is not closed.
-/
import CodeSurvey.Shell.Wildcard

namespace CodeSurvey.Shell

open Text

/-- what the braces around a parameter do with its value -/
inductive Forming where
  | plain
  | size
  | orElse (whenEmpty : Bool)
  | orAssign (whenEmpty : Bool)
  | orFail (whenEmpty : Bool)
  | instead (whenEmpty : Bool)
  | withoutStart (longest : Bool)
  | withoutEnd (longest : Bool)
  deriving DecidableEq, Repr

/-- a part of a word -/
inductive Part where
  | letter (l : Letter)
  /-- quotes around nothing still make a word -/
  | nothing
  /-- the value of a parameter; `operand` is the word that its braces hold -/
  | parameter (name : String) (form : Forming) (operand : String) (quoted : Bool)
  /-- what a script writes -/
  | output (script : String) (quoted : Bool)
  /-- the value of a calculation -/
  | number (expression : String) (quoted : Bool)
  /-- braces that hold no parameter; a script fails where it uses them -/
  | unknown
  deriving DecidableEq, Repr

abbrev Word := List Part

/-- the quotes that a character stands in -/
inductive Quote where
  | none
  | single
  | double
  /-- double quotes that are not written, as around a document -/
  | document
  /-- braces between double quotes, in which quotes say nothing -/
  | braces
  deriving DecidableEq, Repr

/-- may stand in the name of a variable -/
def isNameChar (c : Char) : Bool := isAsciiAlphanumeric c || c == '_'

/-- the text is a name of a variable -/
def isName (cs : List Char) : Bool :=
  !cs.isEmpty && cs.all isNameChar && !(cs.head?.map isAsciiDigit).getD false

/-- names of parameters that are one sign -/
def isSignParameter (c : Char) : Bool := ['@', '*', '#', '?', '$', '!', '-'].contains c

/-! ## What belongs together -/

/-- what stands open at some character of a text -/
inductive Nesting where
  /-- round brackets around commands -/
  | round
  /-- a choice between cases, whose patterns end in a closing bracket -/
  | cases
  /-- round brackets of a calculation -/
  | number
  | double
  /-- braces around a parameter -/
  | braces
  /-- braces around a parameter between quotes, where an apostrophe stands for itself -/
  | quotedBraces
  deriving DecidableEq, Repr

namespace Nesting

/-- commands stand here -/
def holdsCommands (n : Nesting) : Bool := n == .round || n == .cases

/-- quotes stand around this place -/
def isQuoted (n : Nesting) : Bool := n == .double || n == .quotedBraces

/-- words behind which a command may begin -/
def openingWords : List String := ["if", "then", "elif", "else", "while", "until", "do", "!", "\x7b"]

/-- the character separates words of commands -/
def separates (c : Char) : Bool := [' ', '\t', '\n', ';', '&', '|', '(', ')'].contains c

/-- how many characters a text in backquotes takes with the closing one -/
def backquotedLength (skipped : Bool) : List Char → Option Nat
  | [] => none
  | c :: cs =>
    if !skipped && c = '\x60' then some 1
    else (backquotedLength (!skipped && c = '\\') cs).map (· + 1)

/-- what the braces of a parameter open; those that cut its value are as without quotes around them -/
def ofBraces (quoted : Bool) (inside : List Char) : Nesting :=
  let name := match inside with
    | c :: _ => if isSignParameter c then [c] else inside.takeWhile isNameChar
    | [] => []
  match inside.drop name.length with
  | c :: _ => if quoted && !(c = '%' || c = '#') then .quotedBraces else .braces
  | [] => .braces

/-- where a scan of a text stands -/
structure Scan where
  /-- what is open, innermost first -/
  opened : List Nesting
  /-- a command may begin here -/
  atStart : Bool
  /-- a word begins here -/
  atWord : Bool
  /-- characters that say nothing -/
  skip : Nat

/-- a scan inside of a word, behind some more characters than the one in front -/
def Scan.within (more : Nat) (opened : List Nesting) : Scan := ⟨opened, false, false, more⟩

/-- the scan behind a character that stands for itself -/
def Scan.plain (s : Scan) (c : Char) : Scan :=
  { s with atStart := (s.atStart && isSpace c) || [';', '&', '|', '(', ')', '\n'].contains c, atWord := separates c }

/-- the scan behind the first character of a text, in commands -/
def Scan.command (s : Scan) (top : Nesting) (below : List Nesting) (c : Char) (cs : List Char) : Scan :=
  let word := String.ofList ((c :: cs).takeWhile fun c => !separates c)
  if c = '(' then { s.plain c with opened := .round :: s.opened }
  else if c = ')' && top = .round then { s.plain c with opened := below, atStart := false }
  else if s.atWord && c = '#' then .within (cs.takeWhile (· != '\n')).length s.opened
  else if s.atStart && s.atWord && word == "case" then .within 3 (.cases :: s.opened)
  else if s.atStart && s.atWord && word == "esac" && top = .cases then .within 3 below
  else if s.atStart && s.atWord && openingWords.contains word then
    { s with skip := word.length - 1, atWord := false }
  else s.plain c

/-- the scan behind the first character of a text -/
def Scan.next (s : Scan) (c : Char) (cs : List Char) : Scan :=
  match s.opened with
  | [] => s
  | top :: below =>
    if c = '\\' then .within 1 s.opened
    else if c = '\x60' then .within ((backquotedLength false cs).getD cs.length) s.opened
    else if c = '\x27' && (top.holdsCommands || top = .braces) then
      .within ((cs.takeWhile (· != '\x27')).length + 1) s.opened
    else if c = '"' && top = .double then .within 0 below
    else if c = '"' && top != .number then .within 0 (.double :: s.opened)
    else if c = '\x7d' && (top = .braces || top = .quotedBraces) then .within 0 below
    else
      match c, cs with
      | '$', '(' :: '(' :: _ => .within 2 (.number :: .number :: s.opened)
      | '$', '(' :: _ => ⟨.round :: s.opened, true, true, 1⟩
      | '$', '\x7b' :: inside => .within 1 (ofBraces top.isQuoted inside :: s.opened)
      | _, _ =>
        if top = .number then
          if c = '(' then .within 0 (.number :: s.opened) else if c = ')' then .within 0 below else s
        else if top.holdsCommands then s.command top below c cs
        else s

/-- the text before the character that closes all that is open -/
def inside (s : Scan) : List Char → Option (List Char)
  | [] => none
  | c :: cs =>
    match s.skip with
    | n + 1 => (inside { s with skip := n } cs).map (c :: ·)
    | 0 =>
      let next := s.next c cs
      if next.opened.isEmpty then some [] else (inside next cs).map (c :: ·)

end Nesting

/-- the name at the start of what braces hold -/
def bracedName (inside : List Char) : List Char :=
  match inside with
  | c :: rest =>
    if isSignParameter c then [c]
    else if isAsciiDigit c then c :: rest.takeWhile isAsciiDigit
    else inside.takeWhile isNameChar
  | [] => []

/-- how the text behind the name in braces forms its value, and the operand -/
def forming (behind : List Char) : Option (Forming × List Char) :=
  let whenEmpty := behind.head? == some ':'
  match if whenEmpty then behind.drop 1 else behind with
  | '-' :: operand => some (.orElse whenEmpty, operand)
  | '=' :: operand => some (.orAssign whenEmpty, operand)
  | '?' :: operand => some (.orFail whenEmpty, operand)
  | '+' :: operand => some (.instead whenEmpty, operand)
  | rest =>
    if whenEmpty then none
    else
      match rest with
      | [] => some (.plain, [])
      | '#' :: '#' :: operand => some (.withoutStart true, operand)
      | '#' :: operand => some (.withoutStart false, operand)
      | '%' :: '%' :: operand => some (.withoutEnd true, operand)
      | '%' :: operand => some (.withoutEnd false, operand)
      | _ => none

/-- the parameter that braces hold -/
def braced (quoted : Bool) (inside : List Char) : Option Part :=
  match inside with
  | '#' :: c :: rest =>
    if bracedName (c :: rest) = c :: rest then some (.parameter (String.ofList (c :: rest)) .size "" quoted)
    else (forming (c :: rest)).map fun (form, operand) => .parameter "#" form (String.ofList operand) quoted
  | _ =>
    let name := bracedName inside
    if name.isEmpty then none
    else (forming (inside.drop name.length)).map fun (form, operand) =>
      .parameter (String.ofList name) form (String.ofList operand) quoted

/-- the part behind a dollar sign and how many characters it takes; a sign without a part stands for itself -/
def takeDollar (quoted : Bool) (cs : List Char) : Option (Part × Nat) :=
  match cs with
  | '\x7b' :: rest => do
    let inside ← Nesting.inside ⟨[Nesting.ofBraces quoted rest], false, false, 0⟩ rest
    return ((braced quoted inside).getD .unknown, inside.length + 2)
  | '(' :: '(' :: rest => do
    let inside ← Nesting.inside ⟨[.number, .number], false, false, 0⟩ rest
    if inside.getLast? ≠ some ')' then none
    return (.number (String.ofList inside.dropLast) quoted, inside.length + 3)
  | '(' :: rest => do
    let inside ← Nesting.inside ⟨[.round], true, true, 0⟩ rest
    return (.output (String.ofList inside) quoted, inside.length + 2)
  | c :: rest =>
    let name := if isSignParameter c || isAsciiDigit c then [c] else (c :: rest).takeWhile isNameChar
    if name.isEmpty then some (.letter ⟨'$', quoted⟩, 0)
    else some (.parameter (String.ofList name) .plain "" quoted, name.length)
  | [] => some (.letter ⟨'$', quoted⟩, 0)

/-- the text without backslashes before backslashes, dollar signs and backquotes, between quotes also before quotes;
`skipped` says that the next character stands for itself -/
def unescaped (quoted skipped : Bool) : List Char → List Char
  | [] => if skipped then ['\\'] else []
  | c :: cs =>
    if skipped then
      if c = '\\' || c = '$' || c = '\x60' || (quoted && c = '"') then c :: unescaped quoted false cs
      else '\\' :: c :: unescaped quoted false cs
    else if c = '\\' then unescaped quoted true cs
    else c :: unescaped quoted false cs

/-- the part behind a backquote and how many characters it takes -/
def takeBackquoted (quoted : Bool) (cs : List Char) : Option (Part × Nat) :=
  (Nesting.backquotedLength false cs).map fun n =>
    let inside := cs.take (n - 1)
    (.output (String.ofList (unescaped quoted false inside)) quoted, n)

/-- what a text adds to a word -/
structure Taken where
  /-- the quotes behind it -/
  quote : Quote
  parts : List Part
  /-- characters read besides the first one -/
  length : Nat

/-- the first character of a text with what belongs to it -/
def takePart (quote : Quote) (c : Char) (cs : List Char) : Option Taken :=
  let quoted := quote != .none
  let letter := fun (c : Char) (n : Nat) => some ⟨quote, [.letter ⟨c, quoted⟩], n⟩
  let form := fun (part : Option (Part × Nat)) => part.map fun (p, n) => ⟨quote, [p], n⟩
  match quote with
  | .single => if c = '\x27' then some ⟨.none, [], 0⟩ else letter c 0
  | .none =>
    if c = '\x27' then some ⟨.single, [.nothing], 0⟩
    else if c = '"' then
      let arguments := ['$', '@', '"'].isPrefixOf cs || ['$', '\x7b', '@', '\x7d', '"'].isPrefixOf cs
      some ⟨.double, if arguments then [] else [.nothing], 0⟩
    else if c = '\\' then
      match cs with
      | '\n' :: _ => some ⟨quote, [], 1⟩
      | e :: _ => some ⟨quote, [.letter ⟨e, true⟩], 1⟩
      | [] => some ⟨quote, [.letter ⟨c, true⟩], 0⟩
    else if c = '$' then form (takeDollar false cs)
    else if c = '\x60' then form (takeBackquoted false cs)
    else letter c 0
  | _ =>
    if c = '"' && quote = .double then some ⟨.none, [], 0⟩
    else if c = '"' && quote = .braces then some ⟨quote, [], 0⟩
    else if c = '\\' then
      match cs with
      | e :: _ =>
        if e = '\n' then some ⟨quote, [], 1⟩
        else if e = '\\' || e = '$' || e = '\x60' || (e = '"' && quote != .document) then letter e 1
        else if e = '\x7d' && quote = .braces then letter e 1
        else letter c 0
      | [] => letter c 0
    else if c = '$' then form (takeDollar true cs)
    else if c = '\x60' then form (takeBackquoted true cs)
    else letter c 0

/-- the word that a whole text writes; `skip` characters were read with the last part -/
def readWord (quote : Quote) (skip : Nat) : List Char → Option Word
  | [] => if quote = .single || quote = .double then none else some []
  | c :: cs =>
    match skip with
    | n + 1 => readWord quote n cs
    | 0 =>
      match takePart quote c cs with
      | some t => (readWord t.quote t.length cs).map (t.parts ++ ·)
      | none => none

/-- the character of a part that is an unquoted letter -/
def Part.bareChar? : Part → Option Char
  | .letter l => if l.quoted then none else some l.char
  | _ => none

/-- the text of a word that is nothing but unquoted letters -/
def plainText? (w : Word) : Option String := (w.mapM Part.bareChar?).map String.ofList

/-- the part is an unquoted letter -/
def Part.bare (p : Part) (c : Char) : Bool := p.bareChar? == some c

/-- the variable that a word sets, and the word of its value -/
def assignment? (w : Word) : Option (String × Word) :=
  let name := w.takeWhile fun p => !p.bare '='
  match plainText? name with
  | some text => if isName text.toList && name.length < w.length then some (text, w.drop (name.length + 1)) else none
  | none => none

/-- the word with a home in place of a tilde that stands alone in front, or before a slash; in a value also behind
colons -/
def withHome (home : String) (value inFront : Bool) : Word → Word
  | [] => []
  | p :: w =>
    let ends := match w with
      | [] => true
      | next :: _ => next.bare '/' || (value && next.bare ':')
    let here := if inFront && p.bare '~' && ends then home.toList.map fun c => Part.letter ⟨c, true⟩ else [p]
    here ++ withHome home value (value && p.bare ':') w

end CodeSurvey.Shell
