/-
Command scripts as they are written.

`tokens` cuts a text into words and signs, and `Script.read` reads the commands that they make. A script runs line by
line, so a line that cannot be read does not keep the lines before it from running: a script is the commands up to
such a line, and whether there is one.
-/
import CodeSurvey.Shell.Word

namespace CodeSurvey.Shell

open Text

/-- where output goes or input comes from -/
inductive RedirectKind where
  | read
  | write
  /-- behind what the file holds -/
  | append
  /-- also where files are not to be written over -/
  | force
  /-- reads and writes, from the start of what the file holds -/
  | both
  /-- the stream goes where the one goes that the word numbers -/
  | join
  /-- the word is the input itself -/
  | document
  deriving DecidableEq, Repr

/-- a stream of a command that is led elsewhere -/
structure Redirect where
  stream : Nat
  kind : RedirectKind
  target : Word
  deriving DecidableEq, Repr

/-! ## Tokens -/

inductive Token where
  | word (w : Word) (line : Nat)
  /-- a redirection whose word follows -/
  | redirect (stream : Nat) (kind : RedirectKind)
  | document (stream : Nat) (content : Word)
  /-- an operator; the end of a line is one -/
  | sign (s : String)
  /-- text that cannot be read -/
  | broken
  deriving DecidableEq, Repr

/-- a script read up to some character -/
structure Reading where
  /-- the tokens, last one first -/
  tokens : List Token
  /-- the parts of the word that is open -/
  word : Option Word
  /-- characters of documents that stand behind the line -/
  behind : Nat
  /-- the number of the line -/
  line : Nat

namespace Reading

/-- the reading with parts more -/
def add (r : Reading) (parts : List Part) : Reading :=
  if parts.isEmpty then r else { r with word := some (r.word.getD [] ++ parts) }

/-- the reading without an open word -/
def close (r : Reading) : Reading :=
  match r.word with
  | some w => { r with tokens := .word w r.line :: r.tokens, word := none }
  | none => r

/-- the reading with a token behind the open word -/
def push (r : Reading) (t : Token) : Reading := { r.close with tokens := t :: r.close.tokens }

/-- the number of a stream that is written before a redirection, and the reading without it -/
def stream (r : Reading) (standard : Nat) : Nat × Reading :=
  match r.word with
  | some [.letter l] =>
    if isAsciiDigit l.char && !l.quoted then (l.char.toNat - 48, { r with word := none }) else (standard, r.close)
  | _ => (standard, r.close)

/-- the reading with the start of a redirection -/
def redirect (r : Reading) (standard : Nat) (kind : RedirectKind) : Reading :=
  let (stream, r) := r.stream standard
  r.push (.redirect stream kind)

/-- the reading behind a character -/
def past (r : Reading) (c : Char) : Reading := if c = '\n' then { r with line := r.line + 1 } else r

/-- all tokens in order -/
def finish (r : Reading) : List Token := r.close.tokens.reverse

end Reading

/-- the operators that are more than one character, longest first -/
def longSigns : List String := ["&&", "||", ";;"]

def isBlankInLine (c : Char) : Bool := c == ' ' || c == '\t'

/-- the character ends a word -/
def isSignChar (c : Char) : Bool := [';', '&', '|', '(', ')', '\n', '<', '>'].contains c

/-- the operator at the start of a text -/
def takeSign (c : Char) (cs : List Char) : String :=
  (longSigns.find? fun s => s.toList.isPrefixOf (c :: cs)).getD (String.singleton c)

/-- the lines of a document up to the one that ends it, with their ends, and how many characters they and that one
take -/
def documentLines (tabs : Bool) (ending : List Char) : List (List Char) → List Char × Nat
  | [] => ([], 0)
  | line :: rest =>
    let shown := if tabs then line.dropWhile (· == '\t') else line
    if shown = ending then ([], line.length + 1)
    else if rest.isEmpty then (shown, line.length)
    else
      let (more, n) := documentLines tabs ending rest
      (shown ++ '\n' :: more, line.length + 1 + n)

/-- how many characters the mark of a document takes, which may have quotes in it -/
def markLength (quote : Option Char) : List Char → Nat
  | [] => 0
  | c :: cs =>
    match quote with
    | some q => markLength (if c = q then none else quote) cs + 1
    | none =>
      if c = '\x27' || c = '"' then markLength (some c) cs + 1
      else if isBlankInLine c || isSignChar c then 0
      else markLength none cs + 1

/-- the document that two opening signs announce: its word, how many characters the announcement takes, and how many the
document takes behind the line -/
def takeDocument (tabs : Bool) (cs : List Char) (behind : Nat) : Option (Word × Nat × Nat) :=
  let blanks := cs.takeWhile isBlankInLine
  let mark := (cs.drop blanks.length).take (markLength none (cs.drop blanks.length))
  let quotes := fun c => c == '\x27' || c == '"' || c == '\\'
  let text := ((cs.dropWhile (· != '\n')).drop 1).drop behind
  let (content, n) := documentLines tabs (mark.filter fun c => !quotes c) (splitBy (· == '\n') text)
  let word := if mark.any quotes then some (content.map fun c => .letter ⟨c, true⟩) else readWord .document 0 content
  word.map fun w => (w, blanks.length + mark.length, n)

/-- the redirection that starts with one of the angle signs, and how many characters more it takes -/
def takeRedirect (r : Reading) (c : Char) (cs : List Char) : Option (Reading × Nat) :=
  if c = '<' then
    match cs with
    | '<' :: rest =>
      let tabs := rest.head? == some '-'
      (takeDocument tabs (if tabs then rest.drop 1 else rest) r.behind).map fun (content, n, behind) =>
        let (stream, r) := r.stream 0
        ({ r.push (.document stream content) with behind := r.behind + behind }, n + 1 + (if tabs then 1 else 0))
    | '&' :: _ => some (r.redirect 0 .join, 1)
    | '>' :: _ => some (r.redirect 0 .both, 1)
    | _ => some (r.redirect 0 .read, 0)
  else
    match cs with
    | '>' :: _ => some (r.redirect 1 .append, 1)
    | '&' :: _ => some (r.redirect 1 .join, 1)
    | '|' :: _ => some (r.redirect 1 .force, 1)
    | _ => some (r.redirect 1 .write, 0)

/-- the tokens of a text; `skip` characters were read with the last one -/
def tokens (quote : Quote) (skip : Nat) (r : Reading) : List Char → List Token
  | [] => if quote = .none then r.finish else (r.push .broken).finish
  | c :: cs =>
    match skip with
    | n + 1 => tokens quote n (r.past c) cs
    | 0 =>
      if quote = .none && isBlankInLine c then tokens .none 0 r.close cs
      else if quote = .none && c = '#' && r.word.isNone then tokens .none (cs.takeWhile (· != '\n')).length r cs
      else if quote = .none && c = '\n' then
        tokens .none r.behind { (r.push (.sign "\n")).past c with behind := 0 } cs
      else if quote = .none && (c = '<' || c = '>') then
        match takeRedirect r c cs with
        | some (r, n) => tokens .none n r cs
        | none => (r.push .broken).finish
      else if quote = .none && isSignChar c then
        tokens .none ((takeSign c cs).length - 1) (r.push (.sign (takeSign c cs))) cs
      else
        match takePart quote c cs with
        | some t => tokens t.quote t.length ((r.add t.parts).past c) cs
        | none => (r.push .broken).finish

/-! ## Commands -/

/-- a command, with the commands that it is made of -/
inductive Command where
  /-- does nothing -/
  | nothing
  /-- the first word that is no assignment names what is done -/
  | simple (line : Nat) (words : List Word) (redirects : List Redirect)
  | redirected (c : Command) (redirects : List Redirect)
  | sequence (first second : Command)
  /-- runs beside the commands behind it -/
  | aside (c : Command)
  | both (first second : Command)
  | either (first second : Command)
  | negated (c : Command)
  | pipe (first second : Command)
  /-- cannot change what its surroundings know -/
  | apart (c : Command)
  | branch (condition yes no : Command)
  /-- goes on while the condition succeeds, or until it does -/
  | loop (stopOnSuccess : Bool) (condition body : Command)
  /-- runs once for each field of the words, or for each argument -/
  | each (name : String) (words : Option (List Word)) (body : Command)
  /-- runs the body if the subject fits one of the patterns, else goes on with the rest -/
  | choice (subject : Word) (patterns : List Word) (body rest : Command)
  | define (line : Nat) (name : String) (body : Command)
  deriving DecidableEq, Repr

/-- words that belong to the form of commands where a command may begin -/
def keywords : List String :=
  ["if", "then", "elif", "else", "fi", "while", "until", "for", "do", "done", "case", "esac", "\x7b", "\x7d", "!"]

/-- words that end a list of commands -/
def closingKeywords : List String := ["then", "elif", "else", "fi", "do", "done", "esac", "\x7d"]

/-- the keyword that a token is -/
def Token.keyword? : Token → Option String
  | .word w _ => (plainText? w).filter keywords.contains
  | _ => none

/-- the words of a token -/
def Token.words : Token → List Word
  | .word w _ => [w]
  | .document _ content => [content]
  | _ => []

namespace Command

/-- what is left of tokens behind a keyword -/
def after (keyword : String) : List Token → Option (List Token)
  | t :: ts => if t.keyword? = some keyword then some ts else none
  | [] => none

/-- what is left of tokens behind a sign -/
def afterSign (s : String) : List Token → Option (List Token)
  | t :: ts => if t = .sign s then some ts else none
  | [] => none

/-- tokens without the line ends in front -/
def skipLines (ts : List Token) : List Token := ts.dropWhile (· == .sign "\n")

/-- a command may start with the tokens -/
def mayStart : List Token → Bool
  | t :: _ =>
    match t with
    | .sign s => s == "("
    | .broken => false
    | t => !((t.keyword?.map closingKeywords.contains).getD false)
  | [] => false

/-- the redirections at the start of tokens -/
def takeRedirects : List Token → List Redirect × List Token
  | .redirect stream kind :: .word w _ :: ts =>
    let (more, rest) := takeRedirects ts
    (⟨stream, kind, w⟩ :: more, rest)
  | .document stream content :: ts =>
    let (more, rest) := takeRedirects ts
    (⟨stream, .document, content⟩ :: more, rest)
  | ts => ([], ts)

/-- the command with the redirections behind it -/
def withRedirects (c : Command) (ts : List Token) : Command × List Token :=
  match takeRedirects ts with
  | ([], rest) => (c, rest)
  | (redirects, rest) => (.redirected c redirects, rest)

/-- the words and redirections of a simple command -/
def takeSimple (line : Nat) (words : List Word) (redirects : List Redirect) : List Token → Command × List Token
  | .word w _ :: ts => takeSimple line (words ++ [w]) redirects ts
  | .redirect stream kind :: .word w _ :: ts => takeSimple line words (redirects ++ [⟨stream, kind, w⟩]) ts
  | .document stream content :: ts => takeSimple line words (redirects ++ [⟨stream, .document, content⟩]) ts
  | ts => (.simple line words redirects, ts)

/-- the line of the first word of tokens -/
def lineOf : List Token → Nat
  | .word _ line :: _ => line
  | _ :: ts => lineOf ts
  | [] => 0

/-- the words at the start of tokens -/
def takeWords : List Token → List Word × List Token
  | .word w _ :: ts => let (more, rest) := takeWords ts; (w :: more, rest)
  | ts => ([], ts)

/-- the words behind the name of a loop; none where it has no list of them -/
def takeFields (ts : List Token) : Option (List Word) × List Token :=
  match skipLines ts with
  | .word w _ :: rest =>
    if plainText? w = some "in" then let (words, rest) := takeWords rest; (some words, rest) else (none, ts)
  | _ => (none, ts)

/-- the patterns of a case up to the closing bracket -/
def takePatterns : List Token → Option (List Word × List Token)
  | .word w _ :: .sign ")" :: ts => some ([w], ts)
  | .word w _ :: .sign "|" :: ts => (takePatterns ts).map fun (more, rest) => (w :: more, rest)
  | _ => none

mutual

/-- commands one after another; only inside other commands do line ends separate them -/
def takeList (fuel : Nat) (inside : Bool) (ts : List Token) : Option (Command × List Token) :=
  match fuel with
  | 0 => none
  | fuel + 1 => do
    let (first, rest) ← takeChain fuel .nothing "" ts
    let (first, rest, separated) := match rest with
      | .sign ";" :: rest => (first, rest, true)
      | .sign "&" :: rest => (.aside first, rest, true)
      | rest => (first, rest, inside && rest.head? == some (.sign "\n"))
    let rest := if inside && separated then skipLines rest else rest
    if separated && mayStart rest then
      let (more, rest) ← takeList fuel inside rest
      return (.sequence first more, rest)
    return (first, rest)

/-- commands linked by conditions; `before` is what the link binds the next one to -/
def takeChain (fuel : Nat) (before : Command) (link : String) (ts : List Token) : Option (Command × List Token) :=
  match fuel with
  | 0 => none
  | fuel + 1 => do
    let (next, rest) ← takePipeline fuel ts
    let linked := if link == "&&" then .both before next else if link == "||" then .either before next else next
    match rest with
    | .sign "&&" :: rest => takeChain fuel linked "&&" (skipLines rest)
    | .sign "||" :: rest => takeChain fuel linked "||" (skipLines rest)
    | rest => return (linked, rest)

/-- commands of which each reads what the one before it writes -/
def takePipeline (fuel : Nat) (ts : List Token) : Option (Command × List Token) :=
  match fuel with
  | 0 => none
  | fuel + 1 =>
    match after "!" ts with
    | some rest => (takePipeline fuel rest).map fun (c, rest) => (.negated c, rest)
    | none => do
      let (first, rest) ← takeCommand fuel ts
      match afterSign "|" rest with
      | some rest => (takePipeline fuel (skipLines rest)).map fun (more, rest) => (.pipe first more, rest)
      | none => return (first, rest)

/-- one command -/
def takeCommand (fuel : Nat) (ts : List Token) : Option (Command × List Token) :=
  match fuel with
  | 0 => none
  | fuel + 1 =>
    if !mayStart ts then none
    else
      match ts with
      | .sign "(" :: rest => do
        let (c, rest) ← takeList fuel true (skipLines rest)
        return withRedirects (.apart c) (← afterSign ")" rest)
      | .word w line :: .sign "(" :: .sign ")" :: rest => do
        let (body, rest) ← takeCommand fuel (skipLines rest)
        return (.define line (← plainText? w) body, rest)
      | t :: rest =>
        match t.keyword? with
        | none => some (takeSimple (lineOf ts) [] [] ts)
        | some "\x7b" => do
          let (c, rest) ← takeList fuel true (skipLines rest)
          return withRedirects c (← after "\x7d" rest)
        | some "if" => do
          let (c, rest) ← takeBranch fuel rest
          return withRedirects c rest
        | some "for" => do
          let .word w _ :: rest := rest | none
          let (words, rest) := takeFields rest
          let (body, rest) ← takeBody fuel (skipLines ((afterSign ";" rest).getD rest))
          return withRedirects (.each (← plainText? w) words body) rest
        | some "case" => do
          let .word w _ :: rest := rest | none
          let .word i _ :: rest := skipLines rest | none
          if plainText? i ≠ some "in" then none
          let (c, rest) ← takeChoices fuel w rest
          return withRedirects c rest
        | some other => do
          if other != "while" && other != "until" then none
          let (condition, rest) ← takeList fuel true (skipLines rest)
          let (body, rest) ← takeBody fuel rest
          return withRedirects (.loop (other == "until") condition body) rest
      | [] => none

/-- what a loop does -/
def takeBody (fuel : Nat) (ts : List Token) : Option (Command × List Token) :=
  match fuel with
  | 0 => none
  | fuel + 1 => do
    let (body, rest) ← takeList fuel true (skipLines (← after "do" ts))
    return (body, ← after "done" rest)

/-- a condition with its branches -/
def takeBranch (fuel : Nat) (ts : List Token) : Option (Command × List Token) :=
  match fuel with
  | 0 => none
  | fuel + 1 => do
    let (condition, rest) ← takeList fuel true (skipLines ts)
    let (yes, rest) ← takeList fuel true (skipLines (← after "then" rest))
    match after "elif" rest, after "else" rest with
    | some rest, _ =>
      let (no, rest) ← takeBranch fuel rest
      return (.branch condition yes no, rest)
    | none, some rest =>
      let (no, rest) ← takeList fuel true (skipLines rest)
      return (.branch condition yes no, ← after "fi" rest)
    | none, none => return (.branch condition yes .nothing, ← after "fi" rest)

/-- the cases of a subject -/
def takeChoices (fuel : Nat) (subject : Word) (ts : List Token) : Option (Command × List Token) :=
  match fuel with
  | 0 => none
  | fuel + 1 =>
    let ts := skipLines ts
    match after "esac" ts with
    | some rest => some (.nothing, rest)
    | none => do
      let (patterns, rest) ← takePatterns ((afterSign "(" ts).getD ts)
      let rest := skipLines rest
      let (body, rest) ← if mayStart rest then takeList fuel true rest else some (.nothing, rest)
      let (others, rest) ← takeChoices fuel subject ((afterSign ";;" rest).getD rest)
      return (.choice subject patterns body others, rest)

end

end Command

/-! ## Scripts -/

/-- the commands of a script, line by line, up to a line that cannot be read -/
structure Script where
  lines : List Command
  readable : Bool
  deriving DecidableEq, Repr

namespace Script

/-- the commands of tokens; `sound` says that what a word holds can be read -/
def ofTokens (sound : Word → Bool) (fuel : Nat) (ts : List Token) : Script :=
  match fuel, Command.skipLines ts with
  | _, [] => ⟨[], true⟩
  | 0, _ => ⟨[], false⟩
  | fuel + 1, ts =>
    let goesOn := fun (rest : List Token) => (ts.take (ts.length - rest.length)).all fun t => t.words.all sound
    match Command.takeList (8 * ts.length + 8) false ts with
    | some (c, []) => if goesOn [] then ⟨[c], true⟩ else ⟨[], false⟩
    | some (c, .sign "\n" :: rest) =>
      if goesOn rest then let s := ofTokens sound fuel rest; ⟨c :: s.lines, s.readable⟩ else ⟨[], false⟩
    | _ => ⟨[], false⟩

/-- the commands of a text that starts in some line; scripts inside of words are looked at so deep -/
def readTo (depth line : Nat) (text : String) : Script :=
  let ts := tokens .none 0 ⟨[], none, 0, line⟩ text.toList
  let sound := fun (w : Word) => match depth with
    | 0 => true
    | depth + 1 => w.all fun
      | .output script _ => (readTo depth line script).readable
      | _ => true
  ofTokens sound (ts.length + 1) ts

/-- how deep scripts inside of words are looked at before they are run -/
def readingDepth : Nat := 8

/-- the commands of a text that starts in some line -/
def readFrom (line : Nat) (text : String) : Script := readTo readingDepth line text

/-- the commands of a text -/
def read (text : String) : Script := readFrom 1 text

end Script

end CodeSurvey.Shell
