/-
Sets in brackets, as written patterns hold them.

A set has members: characters, ranges, escapes, sets named between colons and sets in brackets of their own. Between
runs of members stand `&&`, `--` and `~~`, which are applied from the left. Each set comes with its height, the number
of brackets, runs and operations that stand inside one another.
-/
import CodeSurvey.Written.Escape

namespace CodeSurvey.Written

open Text

/-- the greatest height of a pattern -/
def heightLimit : Nat := 250

/-- sets named between colons -/
def colonSets : List (String × CharSet) :=
  [("alnum", .table ["30-39 41-5A 61-7A"]), ("alpha", .table ["41-5A 61-7A"]), ("ascii", .table ["0-7F"]),
    ("blank", .table ["9 20"]), ("cntrl", .table ["0-1F 7F"]), ("digit", .table ["30-39"]),
    ("graph", .table ["21-7E"]), ("lower", .table ["61-7A"]), ("print", .table ["20-7E"]),
    ("punct", .table ["21-2F 3A-40 5B-60 7B-7E"]), ("space", .table ["9-D 20"]), ("upper", .table ["41-5A"]),
    ("word", .table ["30-39 41-5A 5F 61-7A"]), ("xdigit", .table ["30-39 41-46 61-66"])]

/-- a set named between colons, after its opening bracket: its name, whether it is negated, and the rest -/
def readColonName (cs : List Char) : Option (Bool × CharSet × List Char) :=
  match cs with
  | ':' :: rest =>
    let (negated, rest) := match rest with
      | '^' :: r => (true, r)
      | r => (false, r)
    match rest.dropWhile (· != ':') with
    | ':' :: ']' :: after =>
      (colonSets.lookup (String.ofList (rest.takeWhile (· != ':')))).map fun s => (negated, s, after)
    | _ => none
  | _ => none

/-- one member of a set: a character or a set of its own -/
def readMember (f : Flags) (cs : List Char) : Option ((Char ⊕ CharSet) × List Char) :=
  match cs with
  | [] => none
  | '\\' :: rest =>
    (readEscape f rest).bind fun (e, after) =>
      match e with
      | .literal c => if f.unicode || isAscii c then some (.inl c, after) else none
      | .set s => some (.inr s, after)
      | .look _ => none
  | c :: rest => if f.unicode || isAscii c then some (.inl c, rest) else none

/-- the character that decides what a hyphen means: the next one that is no blank, even in a remark -/
def peekSpaced : (inRemark : Bool) → List Char → Option Char
  | _, [] => none
  | inRemark, c :: cs =>
    if isBlank c then peekSpaced inRemark cs
    else if c == '#' && !inRemark then peekSpaced true cs
    else some c

/-- the character after a hyphen that decides what the hyphen means -/
def peek (f : Flags) (cs : List Char) : Option Char :=
  if f.spaced then (peekSpaced false cs).or cs.head? else cs.head?

/-- one member or a range of characters -/
def readRange (f : Flags) (cs : List Char) : Option (CharSet × List Char) :=
  (readMember f cs).bind fun (low, rest) =>
    let alone : CharSet := match low with
      | .inl c => .single c
      | .inr s => s
    match f.skip rest with
    | [] => none
    | '-' :: more =>
      if peek f more == some ']' || peek f more == some '-' then some (alone, '-' :: more)
      else
        (readMember f (f.skip more)).bind fun (high, after) =>
          match low, high with
          | .inl a, .inl b => if a ≤ b then some (.span a b, after) else none
          | _, _ => none
    | rest => some (alone, rest)

/-- how two sets are joined -/
inductive SetOp where
  | both
  | without
  | oneOnly

def SetOp.apply : SetOp → CharSet → CharSet → CharSet
  | .both, s, t => s.inter t
  | .without, s, t => s.without t
  | .oneOnly, s, t => s.oneOnly t

/-- a set with its height -/
structure HighSet where
  chars : CharSet
  height : Nat

/-- members of a set that stand side by side: their union, their number and the height of the highest -/
structure MemberRun where
  chars : CharSet
  count : Nat
  height : Nat

/-- the run with one member more -/
def MemberRun.add (r : MemberRun) (s : HighSet) : MemberRun :=
  ⟨r.chars.union s.chars, r.count + 1, max r.height s.height⟩

/-- the run as a set: several members stand one higher -/
def MemberRun.set (r : MemberRun) : HighSet := ⟨r.chars, if 1 < r.count then r.height + 1 else r.height⟩

/-- the set so far: an operation that waits for its right side is applied, if there is one -/
def settle (f : Flags) (pending : Option (SetOp × HighSet)) (run : MemberRun) : HighSet :=
  match pending with
  | some (op, left) =>
    ⟨op.apply (f.closed left.chars) (f.closed run.set.chars), max left.height run.set.height + 1⟩
  | none => run.set

/-- the hyphens in front of a set's members are members: their number and the rest -/
def readHyphens (f : Flags) : (fuel : Nat) → List Char → Nat × List Char
  | fuel + 1, '-' :: cs =>
    let (n, rest) := readHyphens f fuel (f.skip cs)
    (n + 1, rest)
  | _, cs => (0, cs)

/-- the members in front of a set that would mean something else further on: hyphens, or one closing bracket -/
def readFirst (f : Flags) (cs : List Char) : MemberRun × List Char :=
  match readHyphens f cs.length cs with
  | (0, ']' :: rest) => (⟨.single ']', 1, 0⟩, f.skip rest)
  | (0, rest) => (⟨.none, 0, 0⟩, rest)
  | (n, rest) => (⟨.single '-', n, 0⟩, rest)

mutual

/-- a set after its opening bracket; `depth` brackets are open -/
def readSet (f : Flags) : (fuel depth : Nat) → List Char → Option (HighSet × List Char)
  | 0, _, _ => none
  | fuel + 1, depth, cs =>
    if heightLimit < depth then none
    else
      let cs := f.skip cs
      let (negated, cs) := match cs with
        | '^' :: r => (true, f.skip r)
        | r => (false, r)
      let (run, cs) := readFirst f cs
      (readMembers f fuel depth none run cs).bind fun (s, rest) =>
        (f.signed? negated (f.closed s.chars)).map fun chars => (⟨chars, s.height + 1⟩, rest)

/-- the members of a set up to its closing bracket -/
def readMembers (f : Flags) : (fuel depth : Nat) → (pending : Option (SetOp × HighSet)) → MemberRun → List Char →
    Option (HighSet × List Char)
  | 0, _, _, _, _ => none
  | fuel + 1, depth, pending, run, cs =>
    let operation := fun (op : SetOp) (rest : List Char) =>
      readMembers f fuel depth (some (op, settle f pending run)) ⟨.none, 0, 0⟩ rest
    match f.skip cs with
    | [] => none
    | ']' :: rest => some (settle f pending run, rest)
    | '[' :: rest =>
      match readColonName rest with
      | some (negated, s, after) =>
        (f.signed? negated (f.closed s)).bind fun s => readMembers f fuel depth pending (run.add ⟨s, 0⟩) after
      | none => (readSet f fuel (depth + 1) rest).bind fun (s, after) => readMembers f fuel depth pending (run.add s) after
    | '&' :: '&' :: rest => operation .both rest
    | '-' :: '-' :: rest => operation .without rest
    | '~' :: '~' :: rest => operation .oneOnly rest
    | cs => (readRange f cs).bind fun (s, after) => readMembers f fuel depth pending (run.add ⟨s, 0⟩) after

end

/-- a set after its opening bracket -/
def readBracket (f : Flags) (cs : List Char) : Option (HighSet × List Char) :=
  readSet f (2 * cs.length + 2) 1 cs

end CodeSurvey.Written
