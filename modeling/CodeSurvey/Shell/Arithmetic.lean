/-
Calculations of command scripts.

A calculation is read and worked out at once. Operators bind in levels, the loosest first; operators of one level work
from left to right. Truth is 1 and falsehood 0. A calculation can set variables, but not in a part whose value does not
count: such a part is only read. All numbers have 64 bits.
-/
import CodeSurvey.Shell.Number
import CodeSurvey.Shell.Word

namespace CodeSurvey.Shell.Arithmetic

open Text

/-- a piece of a calculation -/
inductive Item where
  | value (n : Int)
  | name (s : String)
  | sign (s : String)
  deriving DecidableEq, Repr

/-- why a calculation has no value -/
inductive Fault where
  | divisionByZero
  /-- something should stand in another place -/
  | expecting (what : String)
  /-- a variable holds no number -/
  | illegalNumber (text : String)
  deriving DecidableEq, Repr

/-- the operators between two values, loosest level first -/
def levels : List (List String) :=
  [["||"], ["&&"], ["|"], ["^"], ["&"], ["==", "!="], ["<=", ">=", "<", ">"], ["<<", ">>"], ["+", "-"],
    ["*", "/", "%"]]

/-- the operators that set a variable, and the operators that they work with -/
def settings : List (String × String) :=
  [("=", ""), ("+=", "+"), ("-=", "-"), ("*=", "*"), ("/=", "/"), ("%=", "%"), ("<<=", "<<"), (">>=", ">>"),
    ("&=", "&"), ("^=", "^"), ("|=", "|")]

/-- all signs, longest first -/
def signs : List String :=
  (settings.map (·.1) ++ levels.flatten ++ ["(", ")", "!", "~", "?", ":"]).mergeSort fun a b => b.length ≤ a.length

/-- the sign at the start of a text -/
def takeSign (cs : List Char) : Option String := signs.find? fun s => s.toList.isPrefixOf cs

/-- the pieces of a text; `skip` characters were read with the last one -/
def items (skip : Nat) : List Char → Option (List Item)
  | [] => some []
  | c :: cs =>
    match skip with
    | n + 1 => items n cs
    | 0 =>
      if isSpace c then items 0 cs
      else if isAsciiDigit c then do
        let (n, rest) ← Number.leading? (c :: cs)
        return .value n :: (← items (cs.length - rest.length) cs)
      else if isNameChar c then
        let word := (c :: cs).takeWhile isNameChar
        (items (word.length - 1) cs).map (.name (String.ofList word) :: ·)
      else
        match takeSign (c :: cs) with
        | some s => (items (s.length - 1) cs).map (.sign s :: ·)
        | none => none

/-- truth as a number -/
def truth (b : Bool) : Int := if b then 1 else 0

/-- the low 64 bits of a number -/
def bits (n : Int) : Nat := (n.emod (Int.pow 2 64)).toNat

/-- an operation on the bits of two numbers -/
def bitwise (f : Nat → Nat → Nat) (a b : Int) : Int := Number.wrapped (f (bits a) (bits b))

/-- the value of an operator between two values; nothing is divided by zero -/
def apply (sign : String) (a b : Int) : Except Fault Int :=
  match sign with
  | "||" => .ok (truth (a != 0 || b != 0))
  | "&&" => .ok (truth (a != 0 && b != 0))
  | "|" => .ok (bitwise (· ||| ·) a b)
  | "^" => .ok (bitwise (· ^^^ ·) a b)
  | "&" => .ok (bitwise (· &&& ·) a b)
  | "==" => .ok (truth (a == b))
  | "!=" => .ok (truth (a != b))
  | "<=" => .ok (truth (a ≤ b))
  | ">=" => .ok (truth (b ≤ a))
  | "<" => .ok (truth (a < b))
  | ">" => .ok (truth (b < a))
  | "<<" => .ok (Number.wrapped (a * Int.pow 2 (bits b % 64)))
  | ">>" => .ok (a / Int.pow 2 (bits b % 64))
  | "+" => .ok (Number.wrapped (a + b))
  | "-" => .ok (Number.wrapped (a - b))
  | "*" => .ok (Number.wrapped (a * b))
  | "/" => if b = 0 then .error .divisionByZero else .ok (Number.wrapped (a.tdiv b))
  | "%" => if b = 0 then .error .divisionByZero else .ok (a.tmod b)
  | _ => .ok b

/-- a calculation that was worked out up to some item -/
structure Progress where
  /-- the values that were set, last one first -/
  set : List (String × Int)
  rest : List Item

/-- a calculation, and whether its value counts -/
abbrev Step := Bool → Progress → Except Fault (Int × Progress)

/-- the value of an operator, if it counts -/
def applyIf (counts : Bool) (sign : String) (a b : Int) : Except Fault Int := if counts then apply sign a b else .ok 0

/-- the value of a variable -/
def look (values : String → Option String) (p : Progress) (name : String) : Except Fault Int :=
  match p.set.lookup name, values name with
  | some n, _ => .ok n
  | none, none => .ok 0
  | none, some text =>
    if text.toList.all isSpace then .ok 0
    else
      match Number.read? text with
      | some n => .ok n
      | none => .error (.illegalNumber text)

mutual

/-- a value with the operators of the levels -/
def value (values : String → Option String) (fuel : Nat) (levels : List (List String)) : Step := fun counts p =>
  match fuel with
  | 0 => .error (.expecting "primary")
  | fuel + 1 =>
    match levels with
    | signs :: tighter => do
      let (a, p) ← value values fuel tighter counts p
      operate values fuel signs tighter a counts p
    | [] => single values fuel counts p

/-- one value -/
def single (values : String → Option String) (fuel : Nat) : Step := fun counts p =>
  match fuel with
  | 0 => .error (.expecting "primary")
  | fuel + 1 =>
    match p.rest with
    | .value n :: rest => .ok (n, { p with rest := rest })
    | .name s :: rest => do
      let n ← if counts then look values p s else .ok 0
      .ok (n, { p with rest := rest })
    | .sign "(" :: rest => do
      let (n, p) ← whole values fuel counts { p with rest := rest }
      match p.rest with
      | .sign ")" :: rest => .ok (n, { p with rest := rest })
      | _ => .error (.expecting "\x27)\x27")
    | .sign "-" :: rest => do
      let (n, p) ← single values fuel counts { p with rest := rest }
      .ok (Number.wrapped (-n), p)
    | .sign "+" :: rest => single values fuel counts { p with rest := rest }
    | .sign "!" :: rest => do
      let (n, p) ← single values fuel counts { p with rest := rest }
      .ok (truth (n == 0), p)
    | .sign "~" :: rest => do
      let (n, p) ← single values fuel counts { p with rest := rest }
      .ok (-n - 1, p)
    | _ => .error (.expecting "primary")

/-- the value so far, with the operators of one level that follow; the right side of a condition counts only where the
left one leaves it open -/
def operate (values : String → Option String) (fuel : Nat) (signs : List String) (tighter : List (List String))
    (a : Int) : Step := fun counts p =>
  match fuel with
  | 0 => .error (.expecting "primary")
  | fuel + 1 =>
    match p.rest with
    | .sign s :: rest =>
      if signs.contains s then do
        let isOpen := if s == "||" then a == 0 else if s == "&&" then a != 0 else true
        let (b, p) ← value values fuel tighter (counts && isOpen) { p with rest := rest }
        operate values fuel signs tighter (← applyIf counts s a b) counts p
      else .ok (a, p)
    | _ => .ok (a, p)

/-- a value, perhaps chosen by a condition -/
def choice (values : String → Option String) (fuel : Nat) : Step := fun counts p =>
  match fuel with
  | 0 => .error (.expecting "primary")
  | fuel + 1 => do
    let (a, p) ← value values fuel levels counts p
    match p.rest with
    | .sign "?" :: rest =>
      let (yes, p) ← whole values fuel (counts && a != 0) { p with rest := rest }
      match p.rest with
      | .sign ":" :: rest =>
        let (no, p) ← choice values fuel (counts && a == 0) { p with rest := rest }
        .ok (if a != 0 then yes else no, p)
      | _ => .error (.expecting "\x27:\x27")
    | _ => .ok (a, p)

/-- a value, perhaps set to a variable -/
def whole (values : String → Option String) (fuel : Nat) : Step := fun counts p =>
  match fuel with
  | 0 => .error (.expecting "primary")
  | fuel + 1 =>
    match p.rest with
    | .name name :: .sign s :: rest =>
      match settings.lookup s with
      | some sign => do
        let before ← if counts && !sign.isEmpty then look values p name else .ok 0
        let (b, p) ← whole values fuel counts { p with rest := rest }
        let n ← applyIf counts sign before b
        .ok (n, if counts then { p with set := (name, n) :: p.set } else p)
      | none => choice values fuel counts p
    | _ => choice values fuel counts p

end

/-- the value of a text given those of names, and the names that it sets, last one first -/
def evaluate (values : String → Option String) (text : String) : Except Fault (Int × List (String × Int)) := do
  let some is := items 0 text.toList | .error (.expecting "primary")
  if is.isEmpty then return (0, [])
  let (n, p) ← whole values (32 * is.length + 32) true ⟨[], is⟩
  if p.rest.isEmpty then .ok (n, p.set) else .error (.expecting "EOF")

end CodeSurvey.Shell.Arithmetic
