/-
Whole numbers as scripts write them.

A number in front of a text is sixteenths behind `0x`, eighths behind a zero, and tenths else. Numbers have 64 bits:
what is written too large counts as the largest number, and calculations start again at the other end.
-/
import CodeSurvey.Shell.ByteText

namespace CodeSurvey.Shell.Number

open Text

def largest : Int := Int.pow 2 63 - 1

/-- the number of 64 bits that is left of a larger one -/
def wrapped (n : Int) : Int := n.bmod (Nat.pow 2 64)

/-- the number or the nearest one of 64 bits -/
def clamped (n : Int) : Int := if n > largest then largest else if n < -largest - 1 then -largest - 1 else n

/-- the value of a digit -/
def digit? (c : Char) : Option Nat :=
  if isAsciiDigit c then some (c.toNat - 48)
  else if 'a' ≤ c && c ≤ 'z' then some (c.toNat - 87)
  else if 'A' ≤ c && c ≤ 'Z' then some (c.toNat - 55)
  else none

/-- the character is a digit of the base -/
def isDigitOf (base : Nat) (c : Char) : Bool := (digit? c).any (· < base)

/-- the value of digits -/
def ofDigits (base : Nat) (digits : List Char) : Nat := digits.foldl (fun n c => n * base + (digit? c).getD 0) 0

/-- the number without a sign in front of a text, and the text behind it -/
def unsigned? (cs : List Char) : Option (Nat × List Char) :=
  match cs with
  | '0' :: x :: c :: rest =>
    if (x = 'x' || x = 'X') && isDigitOf 16 c then some (take 16 (c :: rest)) else some (take 8 cs)
  | '0' :: _ => some (take 8 cs)
  | c :: _ => if isAsciiDigit c then some (take 10 cs) else none
  | [] => none
where
  /-- the number of the digits in front -/
  take (base : Nat) (cs : List Char) : Nat × List Char :=
    (ofDigits base (cs.takeWhile (isDigitOf base)), cs.dropWhile (isDigitOf base))

/-- the number in front of a text, with blanks and a sign, and the text behind it -/
def leading? (cs : List Char) : Option (Int × List Char) :=
  match cs.dropWhile isSpace with
  | '-' :: rest => (unsigned? rest).map fun (n, rest) => (clamped (-n), rest)
  | '+' :: rest => (unsigned? rest).map fun (n, rest) => (clamped n, rest)
  | rest => (unsigned? rest).map fun (n, rest) => (clamped n, rest)

/-- the number that a text writes, up to blanks around it -/
def read? (text : String) : Option Int :=
  match leading? text.toList with
  | some (n, rest) => if rest.all isSpace then some n else none
  | none => none

/-- the number of tenths that a text writes, with nothing around it but blanks and a sign -/
def decimal? (text : String) : Option Int :=
  let cs := ((text.toList.dropWhile isSpace).reverse.dropWhile isSpace).reverse
  let digits := match cs with
    | '-' :: rest => rest
    | '+' :: rest => rest
    | _ => cs
  let n : Nat := ofDigits 10 digits
  if digits.isEmpty || !digits.all isAsciiDigit then none
  else some (clamped (if cs.head? = some '-' then -n else n))

/-- the number of tenths without a sign that a text writes -/
def count? (text : String) : Option Nat :=
  if text.isEmpty || !text.toList.all isAsciiDigit then none else some (ofDigits 10 text.toList)

end CodeSurvey.Shell.Number
