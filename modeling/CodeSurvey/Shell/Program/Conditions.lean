/-
Conditions and calculations as programs.

A condition succeeds if it holds, fails with status 1 if it does not, and with status 2 where it cannot be read. The
number of arguments decides first what they mean; longer conditions have links and brackets.
-/
import CodeSurvey.Shell.LinePattern
import CodeSurvey.Shell.Program.Contents

namespace CodeSurvey.Shell.Conditions

open Text

/-! ## Conditions -/

/-- what a condition is decided on -/
structure Grounds where
  run : Run
  /-- a path that names a program of the system -/
  isSystem : String → Bool

/-- why a condition cannot be decided -/
inductive Trouble where
  | unexpected (word : String)
  | illegalNumber (word : String)
  | argumentExpected
  | closingExpected
  deriving DecidableEq, Repr

def Trouble.message : Trouble → String
  | .unexpected word => word ++ ": unexpected operator"
  | .illegalNumber word => "Illegal number: " ++ word
  | .argumentExpected => "argument expected"
  | .closingExpected => "closing paren expected"

/-- a number of a condition -/
def number (text : String) : Except Trouble Int :=
  match Number.decimal? text with
  | some n => .ok n
  | none => .error (.illegalNumber text)

/-- whether a condition with one operand holds; none where the sign is no such condition -/
def unary? (g : Grounds) (sign operand : String) : Option Bool :=
  let d := g.run.disk
  let p := path operand
  let there := d.exists? p || g.isSystem operand
  match sign with
  | "-n" => some (!operand.isEmpty)
  | "-z" => some operand.isEmpty
  | "-e" | "-r" | "-w" | "-O" | "-G" => some there
  | "-f" => some (d.isFile p || g.isSystem operand)
  | "-d" => some (d.isDirectory p)
  | "-s" => some (d.isDirectory p || g.isSystem operand || !((d.readBytes p).toOption.getD []).isEmpty)
  | "-x" =>
    let runs := match d.locate p with
      | .ok place => d.executable.contains place
      | .error _ => false
    some (d.isDirectory p || (d.exists? p && runs) || g.isSystem operand)
  | "-c" => some (match d.entry p with | .ok .void => true | _ => false)
  | "-h" | "-L" | "-p" | "-S" | "-b" | "-t" | "-u" | "-g" | "-k" => some false
  | _ => none

/-- whether a condition between two operands holds; none where the sign is no such condition -/
def binary? (g : Grounds) (a sign b : String) : Option (Except Trouble Bool) :=
  let compare := fun (f : Int → Int → Bool) => some (do return f (← number a) (← number b))
  match sign with
  | "=" => some (.ok (a == b))
  | "!=" => some (.ok (a != b))
  | "<" => some (.ok (a < b))
  | ">" => some (.ok (b < a))
  | "-eq" => compare fun a b => a == b
  | "-ne" => compare fun a b => a != b
  | "-lt" => compare fun a b => a < b
  | "-le" => compare fun a b => a ≤ b
  | "-gt" => compare fun a b => b < a
  | "-ge" => compare fun a b => b ≤ a
  | "-ef" =>
    let d := g.run.disk
    some (.ok (d.exists? (path a) && (d.locate (path a)).toOption == (d.locate (path b)).toOption))
  | "-nt" => some (.ok (g.run.disk.exists? (path a) && !g.run.disk.exists? (path b)))
  | "-ot" => some (.ok (!g.run.disk.exists? (path a) && g.run.disk.exists? (path b)))
  | _ => none

/-- signs between two operands -/
def isBinary (sign : String) : Bool :=
  ["=", "!=", "<", ">", "-eq", "-ne", "-lt", "-le", "-gt", "-ge", "-ef", "-nt", "-ot"].contains sign

/-- a condition read up to some argument -/
abbrev Step := List String → Except Trouble (Bool × List String)

mutual

/-- conditions of which one must hold -/
def anyOf (g : Grounds) (fuel : Nat) : Step := fun args =>
  match fuel with
  | 0 => .error .argumentExpected
  | fuel + 1 => do
    let (a, rest) ← allOf g fuel args
    match rest with
    | "-o" :: rest =>
      let (b, rest) ← anyOf g fuel rest
      .ok (a || b, rest)
    | rest => .ok (a, rest)

/-- conditions that must all hold -/
def allOf (g : Grounds) (fuel : Nat) : Step := fun args =>
  match fuel with
  | 0 => .error .argumentExpected
  | fuel + 1 => do
    let (a, rest) ← denied g fuel args
    match rest with
    | "-a" :: rest =>
      let (b, rest) ← allOf g fuel rest
      .ok (a && b, rest)
    | rest => .ok (a, rest)

/-- a condition, perhaps with the opposite meaning -/
def denied (g : Grounds) (fuel : Nat) : Step := fun args =>
  match fuel with
  | 0 => .error .argumentExpected
  | fuel + 1 =>
    match args with
    | "!" :: rest =>
      match rest with
      | sign :: _ :: _ => if isBinary sign then single g fuel args else opposite g fuel rest
      | _ => opposite g fuel rest
    | _ => single g fuel args

/-- the opposite of a condition -/
def opposite (g : Grounds) (fuel : Nat) : Step := fun args =>
  match fuel with
  | 0 => .error .argumentExpected
  | fuel + 1 => (denied g fuel args).map fun (a, rest) => (!a, rest)

/-- a condition without links -/
def single (g : Grounds) (fuel : Nat) : Step := fun args =>
  match fuel with
  | 0 => .error .argumentExpected
  | fuel + 1 =>
    match args with
    | [] => .error .argumentExpected
    | a :: rest =>
      match rest with
      | sign :: b :: behind =>
        match binary? g a sign b with
        | some found => found.map fun holds => (holds, behind)
        | none => simple g fuel a rest
      | _ => simple g fuel a rest

/-- a condition that is no comparison -/
def simple (g : Grounds) (fuel : Nat) (a : String) : Step := fun rest =>
  match fuel with
  | 0 => .error .argumentExpected
  | fuel + 1 =>
    if a == "(" && !rest.isEmpty then do
      let (holds, rest) ← anyOf g fuel rest
      match rest with
      | ")" :: rest => .ok (holds, rest)
      | _ => .error .closingExpected
    else
      match rest with
      | operand :: behind =>
        match unary? g a operand with
        | some holds => .ok (holds, behind)
        | none => .ok (!a.isEmpty, rest)
      | [] => .ok (!a.isEmpty, [])

end

/-- whether the condition of the arguments holds -/
def holds (g : Grounds) (args : List String) : Except Trouble Bool :=
  let long := do
    let (found, rest) ← anyOf g (8 * args.length + 8) args
    match rest with
    | [] => .ok found
    | word :: _ => .error (.unexpected word)
  match args with
  | [] => .ok false
  | [a] => .ok (!a.isEmpty)
  | [sign, a] =>
    if sign == "!" then .ok a.isEmpty
    else
      match unary? g sign a with
      | some found => .ok found
      | none => .error (.unexpected sign)
  | [a, sign, b] =>
    match binary? g a sign b with
    | some found => found
    | none =>
      if a == "(" && b == ")" then .ok (!sign.isEmpty)
      else if a == "!" || sign == "-a" || sign == "-o" then long
      else .error (.unexpected sign)
  | _ => long

/-- the program that has the status of a condition; between brackets the last argument closes it -/
def test (isSystem : String → Bool) (bracket : Bool) : Program := fun args r =>
  let name := if bracket then "[" else "test"
  if bracket && args.getLast? != some "]" then (r.withStatus 2).blame "[: missing ]"
  else
    match holds ⟨r, isSystem⟩ (if bracket then args.dropLast else args) with
    | .ok true => r.withStatus 0
    | .ok false => r.withStatus 1
    | .error trouble => (r.withStatus 2).blame (name ++ ": " ++ trouble.message)

/-! ## Calculations -/

/-- why a calculation has no value -/
inductive Mistake where
  | form
  | missing (behind : String)
  | unexpected (word : String)
  | notNumber
  | zeroDivision
  deriving DecidableEq, Repr

def Mistake.message : Mistake → String
  | .form => "syntax error"
  | .missing behind => "syntax error: missing argument after '" ++ behind ++ "'"
  | .unexpected word => "syntax error: unexpected argument '" ++ word ++ "'"
  | .notNumber => "non-integer argument"
  | .zeroDivision => "division by zero"

/-- the number that a text is -/
def wholeNumber? (text : String) : Option Int :=
  let digits := (stripStart text "-").getD text
  (Number.count? digits).map fun n => if startsWith text "-" then -(n : Int) else n

/-- the value of a sign between two texts -/
def combine (sign a b : String) : Except Mistake String :=
  let truth := fun (b : Bool) => if b then "1" else "0"
  let isFalse := fun (t : String) => t.isEmpty || wholeNumber? t == some 0
  let compare := fun (numbers : Int → Int → Bool) (texts : String → String → Bool) =>
    match wholeNumber? a, wholeNumber? b with
    | some m, some n => .ok (truth (numbers m n))
    | _, _ => .ok (truth (texts a b))
  let calculate := fun (f : Int → Int → Except Mistake Int) =>
    match wholeNumber? a, wholeNumber? b with
    | some m, some n => (f m n).map fun n => toString n
    | _, _ => .error .notNumber
  match sign with
  | "|" => .ok (if !isFalse a then a else if !isFalse b then b else "0")
  | "&" => .ok (if isFalse a || isFalse b then "0" else a)
  | "=" | "==" => compare (fun m n => m == n) (fun s t => s == t)
  | "!=" => compare (fun m n => m != n) (fun s t => s != t)
  | "<" => compare (fun m n => m < n) (fun s t => s < t)
  | "<=" => compare (fun m n => m ≤ n) (fun s t => s ≤ t)
  | ">" => compare (fun m n => n < m) (fun s t => t < s)
  | ">=" => compare (fun m n => n ≤ m) (fun s t => t ≤ s)
  | "+" => calculate fun m n => .ok (m + n)
  | "-" => calculate fun m n => .ok (m - n)
  | "*" => calculate fun m n => .ok (m * n)
  | "/" => calculate fun m n => if n = 0 then .error .zeroDivision else .ok (m.tdiv n)
  | "%" => calculate fun m n => if n = 0 then .error .zeroDivision else .ok (m.tmod n)
  | _ => matching a b

where
  /-- what a pattern matches from the start of a text: its first group, or how much -/
  matching (text pattern : String) : Except Mistake String :=
    match LinePattern.read? ⟨false, false⟩ pattern with
    | none => .error .form
    | some p =>
      let hasGroup := contains pattern "\\("
      match p.longest ⟨text.toList.toArray, false, true⟩ 0 with
      | none => .ok (if hasGroup then "" else "0")
      | some s =>
        if hasGroup then
          match s.groups.lookup 1 with
          | some (first, last) => .ok (String.ofList ((text.toList.take last).drop first))
          | none => .ok ""
        else .ok (toString s.pos)

/-- signs between two texts, loosest level first -/
def levels : List (List String) :=
  [["|"], ["&"], ["=", "==", "!=", "<", "<=", ">", ">="], ["+", "-"], ["*", "/", "%"], [":"]]

mutual

/-- a value with the signs of the levels -/
def value (fuel : Nat) (before : String) (levels : List (List String)) (args : List String) :
    Except Mistake (String × List String) :=
  match fuel with
  | 0 => .error .form
  | fuel + 1 =>
    match levels with
    | signs :: tighter => do
      let (a, rest) ← value fuel before tighter args
      more fuel signs tighter a rest
    | [] => one fuel before args

/-- the value so far, with the signs of one level that follow -/
def more (fuel : Nat) (signs : List String) (tighter : List (List String)) (a : String) (args : List String) :
    Except Mistake (String × List String) :=
  match fuel with
  | 0 => .error .form
  | fuel + 1 =>
    match args with
    | sign :: rest =>
      if signs.contains sign then do
        let (b, rest) ← value fuel sign tighter rest
        more fuel signs tighter (← combine sign a b) rest
      else .ok (a, args)
    | [] => .ok (a, [])

/-- one value -/
def one (fuel : Nat) (before : String) (args : List String) : Except Mistake (String × List String) :=
  match fuel with
  | 0 => .error .form
  | fuel + 1 =>
    match args with
    | [] => .error (if before.isEmpty then .form else .missing before)
    | "(" :: rest => do
      let (a, rest) ← value fuel "(" levels rest
      match rest with
      | ")" :: rest => .ok (a, rest)
      | _ => .error .form
    | "length" :: rest => do
      let (a, rest) ← one fuel "length" rest
      .ok (toString a.length, rest)
    | "match" :: rest => do
      let (a, rest) ← one fuel "match" rest
      let (b, rest) ← one fuel a rest
      .ok (← combine ":" a b, rest)
    | "index" :: rest => do
      let (a, rest) ← one fuel "index" rest
      let (b, rest) ← one fuel a rest
      let before := a.toList.takeWhile fun c => !b.toList.contains c
      .ok (toString (if before.length = a.length then 0 else before.length + 1), rest)
    | "substr" :: rest => do
      let (a, rest) ← one fuel "substr" rest
      let (first, rest) ← one fuel a rest
      let (length, rest) ← one fuel first rest
      match wholeNumber? first, wholeNumber? length with
      | some first, some length =>
        if first < 1 || length < 1 then .ok ("", rest)
        else .ok (String.ofList ((a.toList.drop (first.toNat - 1)).take length.toNat), rest)
      | _, _ => .ok ("", rest)
    | "+" :: a :: rest => .ok (a, rest)
    | a :: rest => .ok (a, rest)

end

/-- writes the value of its arguments -/
def expr : Program := fun args r =>
  let found := do
    let (a, rest) ← value (16 * args.length + 16) "" levels args
    match rest with
    | [] => .ok a
    | word :: _ => .error (Mistake.unexpected word)
  if args.isEmpty then (Files.missing r "expr" "missing operand").withStatus 2
  else
    match found with
    | .ok a => (r.withStatus (if a.isEmpty || wholeNumber? a == some 0 then 1 else 0)).printLines [a]
    | .error mistake => r.refuse 2 ("expr: " ++ mistake.message)

end CodeSurvey.Shell.Conditions
