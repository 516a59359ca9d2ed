/-
Globs: patterns for paths.

A glob is read into tokens and the tokens become a pattern over the bytes of a path, each byte shown as one character. A
star stays within one name, two stars between slashes cross any number of directories, and braces list alternatives, of
which blank ones do not count. A bracket that begins no class is an ordinary character. A glob that cannot be read (an
open brace, a range that runs backwards, a last backslash) gives nothing. The bytes of a class stand for themselves: a
range of characters is the bytes of both ends, with the bytes between the last of one end and the first of the other,
and a glob is not `sound` if those run backwards.
-/
import CodeSurvey.Pattern.Search
import CodeSurvey.Text.Utf8

namespace CodeSurvey

open Text

/-- a piece of a glob -/
inductive GlobToken where
  | literal (c : Char)
  /-- one byte other than a slash -/
  | anyByte
  /-- bytes other than slashes -/
  | anyBytes
  /-- any directories in front -/
  | leadingDirectories
  /-- any path behind a slash -/
  | trailingPath
  /-- any directories between -/
  | innerDirectories
  | oneOf (negated : Bool) (ranges : List (Char × Char))
  | alternatives (branches : List (List GlobToken))

namespace Glob

/-- what may follow an opening bracket -/
inductive ClassReading where
  | ranges (rs : List (Char × Char)) (rest : List Char)
  | backwards
  | unclosed

/-- reads the ranges of a class up to its closing bracket -/
def readClass (first : Bool) (inRange : Bool) (ranges : List (Char × Char)) : List Char → ClassReading
  | [] => .unclosed
  | c :: cs =>
    if c == ']' && !first then .ranges (if inRange then ('-', '-') :: ranges else ranges).reverse cs
    else if c == '-' && !first && !inRange then readClass false true ranges cs
    else if inRange then
      match ranges with
      | (low, _) :: before => if low ≤ c then readClass false false ((low, c) :: before) cs else .backwards
      | [] => .backwards
    else readClass false false ((c, c) :: ranges) cs

/-- a byte as a character of the text that globs match -/
def byteChar (b : UInt8) : Char := Char.ofNat b.toNat

/-- the bytes of a text as characters -/
def byteChars (cs : List Char) : List Char := (encodeChars cs).map byteChar

/-- the ranges of bytes that a range of characters stands for -/
def byteRanges (r : Char × Char) : List (Char × Char) :=
  let low := byteChars [r.1]
  let high := byteChars [r.2]
  let alone := fun (bs : List Char) => bs.map fun b => (b, b)
  if r.1 == r.2 then alone low
  else alone low.dropLast ++ [(low.getLastD r.1, high.headD r.2)] ++ alone (high.drop 1)

/-- the tokens with a run of two stars that stands between slashes; `closed` when nothing follows it -/
def pushDirectories (closed : Bool) : List GlobToken → List GlobToken
  | .leadingDirectories :: acc => .leadingDirectories :: acc
  | .trailingPath :: acc => .trailingPath :: acc
  | _ :: acc => (if closed then .trailingPath else .innerDirectories) :: acc
  | [] => []

/-- what was read of a glob: the tokens, the rest, and whether a bracket may still begin a class -/
structure Branch where
  tokens : List GlobToken
  rest : List Char
  classes : Bool

/-- reads one branch, its tokens last first; inside braces it ends before a comma or a closing brace. After a bracket
that no other one closes, brackets begin no classes. -/
def readBranch (nested : Bool) : (fuel : Nat) → (classes : Bool) → (acc : List GlobToken) → (before : Option Char) →
    List Char → Option Branch
  | 0, _, _, _, _ => none
  | _ + 1, classes, acc, _, [] => if nested then none else some ⟨acc.reverse, [], classes⟩
  | fuel + 1, classes, acc, before, c :: cs =>
    let push := fun t => readBranch nested fuel classes (t :: acc) (some c) cs
    match c with
    | '?' => push .anyByte
    | '*' =>
      match cs with
      | '*' :: rest =>
        let two := fun _ : Unit => readBranch nested fuel classes (.anyBytes :: .anyBytes :: acc) (some '*') rest
        if acc.isEmpty then
          match rest with
          | [] => readBranch nested fuel classes [.leadingDirectories] (some '*') []
          | '/' :: more => readBranch nested fuel classes [.leadingDirectories] (some '/') more
          | _ => two ()
        else if before != some '/' && !(nested && (before == some ',' || before == some '\x7b')) then two ()
        else
          match rest with
          | [] => readBranch nested fuel classes (pushDirectories true acc) (some '*') []
          | '/' :: more => readBranch nested fuel classes (pushDirectories false acc) (some '/') more
          | x :: _ =>
            if nested && (x == ',' || x == '\x7d') then
              readBranch nested fuel classes (pushDirectories true acc) (some '*') rest
            else two ()
      | _ => push .anyBytes
    | '[' =>
      let (negated, inside) := match cs with
        | '!' :: r => (true, r)
        | '^' :: r => (true, r)
        | r => (false, r)
      match if classes then readClass true false [] inside else .unclosed with
      | .ranges rs rest =>
        readBranch nested fuel classes (.oneOf negated (rs.flatMap byteRanges) :: acc) (some ']') rest
      | .backwards => none
      | .unclosed => readBranch nested fuel false (.literal '[' :: acc) (some '[') cs
    | '\x7b' => readBranches fuel classes acc [] (some c) cs
    | '\x7d' => if nested then some ⟨acc.reverse, c :: cs, classes⟩ else none
    | ',' => if nested then some ⟨acc.reverse, c :: cs, classes⟩ else push (.literal ',')
    | '\\' =>
      match cs with
      | x :: rest => readBranch nested fuel classes (.literal x :: acc) (some x) rest
      | [] => none
    | c => push (.literal c)
where
  /-- reads the branches of a brace, then the rest of the branch that holds it -/
  readBranches : (fuel : Nat) → (classes : Bool) → (acc : List GlobToken) → (branches : List (List GlobToken)) →
      (before : Option Char) → List Char → Option Branch
    | 0, _, _, _, _, _ => none
    | fuel + 1, classes, acc, branches, before, cs =>
      (readBranch true fuel classes [] before cs).bind fun b =>
        match b.rest with
        | ',' :: more => readBranches fuel b.classes acc (b.tokens :: branches) (some ',') more
        | '\x7d' :: more =>
          readBranch nested fuel b.classes (.alternatives (b.tokens :: branches).reverse :: acc) (some '\x7d') more
        | _ => none

/-- the tokens of a glob -/
def read? (glob : List Char) : Option (List GlobToken) :=
  (readBranch false (2 * glob.length + 2) true [] none glob).map (·.tokens)

mutual

/-- the token stands for nothing at all -/
def isBlankToken : GlobToken → Bool
  | .alternatives branches => areBlank branches
  | _ => false

/-- every token of a row stands for nothing -/
def isBlankRow : List GlobToken → Bool
  | [] => true
  | t :: ts => isBlankToken t && isBlankRow ts

/-- every row stands for nothing -/
def areBlank : List (List GlobToken) → Bool
  | [] => true
  | b :: bs => isBlankRow b && areBlank bs

end

mutual

/-- no range of bytes in the token runs backwards -/
def isSound : GlobToken → Bool
  | .oneOf _ ranges => ranges.all fun (a, b) => a ≤ b
  | .alternatives branches => areSound branches
  | _ => true

/-- no range of bytes in the row runs backwards -/
def isSoundRow : List GlobToken → Bool
  | [] => true
  | t :: ts => isSound t && isSoundRow ts

/-- no range of bytes in the rows runs backwards -/
def areSound : List (List GlobToken) → Bool
  | [] => true
  | b :: bs => isSoundRow b && areSound bs

end

def notSlash (c : Char) : Bool := c != '/'

def anyChar (_ : Char) : Bool := true

mutual

/-- the pattern of one token -/
def tokenPattern : GlobToken → Pattern
  | .literal c => .exactly (byteChars [c])
  | .anyByte => .char notSlash
  | .anyBytes => .any0 notSlash
  | .leadingDirectories => .opt (.lit "/") <|> (.any0 anyChar ++ .lit "/")
  | .trailingPath => .lit "/" ++ .any0 anyChar
  | .innerDirectories => .lit "/" <|> (.lit "/" ++ .any0 anyChar ++ .lit "/")
  | .oneOf negated ranges => .char fun c => negated != ranges.any fun (a, b) => a ≤ c && c ≤ b
  | .alternatives branches => branchesPattern branches

/-- the pattern of tokens in a row -/
def tokensPattern : List GlobToken → Pattern
  | [] => .nothing
  | t :: ts => tokenPattern t ++ tokensPattern ts

/-- the pattern of alternatives, of which the blank ones do not count -/
def branchesPattern : List (List GlobToken) → Pattern
  | [] => .nothing
  | b :: bs =>
    if isBlankRow b then branchesPattern bs
    else if areBlank bs then tokensPattern b
    else tokensPattern b <|> branchesPattern bs

end

/-- the pattern for whole paths -/
def pattern : List GlobToken → Pattern
  | [.leadingDirectories] => .textStart ++ .any0 anyChar ++ .textEnd
  | tokens => .textStart ++ tokensPattern tokens ++ .textEnd

/-- the pattern matches the path -/
def accepts (p : Pattern) (path : String) : Bool :=
  (p.matchHere none (byteChars path.toList)).isSome

end Glob

end CodeSurvey
