/-
Regular expressions and the texts they fit.

An expression is built by `seq`, `either`, `repeated` and `ofSet`, which keep it in a plain form: texts that stand side
by side are one text, a choice between characters is a set, a start that all alternatives share stands before them. It
is matched character by character. `after c r` gives what is left to match of `r` once `c` is taken, in every way that
`c` can be taken, and `fits` says whether nothing need be taken; looks at the neighbours are answered on the spot. So a
search walks the text once with the list of all that may be left, and never goes back.
-/
import CodeSurvey.Text.Folding

namespace CodeSurvey

open Text

/-- a condition on the characters before and behind a place; the word conditions take all words or ASCII words only -/
inductive Look where
  | textStart
  | textEnd
  | lineStart
  | lineEnd
  /-- a line starts behind a carriage return, a line feed, or both in this order -/
  | lineStartReturn
  | lineEndReturn
  | wordEdge (wide : Bool)
  | noWordEdge (wide : Bool)
  | wordStart (wide : Bool)
  | wordEnd (wide : Bool)
  | noWordBefore (wide : Bool)
  | noWordBehind (wide : Bool)
  deriving DecidableEq

/-- the neighbour is a word character -/
def Look.wordAt (wide : Bool) : Option Char → Bool
  | some c => isWord c && (wide || isAscii c)
  | none => false

/-- the condition holds between two neighbours -/
def Look.holds (before behind : Option Char) : Look → Bool
  | textStart => before.isNone
  | textEnd => behind.isNone
  | lineStart => before.isNone || before == some '\n'
  | lineEnd => behind.isNone || behind == some '\n'
  | lineStartReturn => before.isNone || before == some '\n' || (before == some '\r' && behind != some '\n')
  | lineEndReturn => behind.isNone || behind == some '\r' || (behind == some '\n' && before != some '\r')
  | wordEdge w => wordAt w before != wordAt w behind
  | noWordEdge w => wordAt w before == wordAt w behind
  | wordStart w => !wordAt w before && wordAt w behind
  | wordEnd w => wordAt w before && !wordAt w behind
  | noWordBefore w => !wordAt w before
  | noWordBehind w => !wordAt w behind

/-- regular expressions -/
inductive Regular where
  | empty
  | text (cs : List Char)
  | oneOf (s : CharSet)
  | look (l : Look)
  /-- at least `low` repetitions, and at most `high` if it is given -/
  | times (low : Nat) (high : Option Nat) (lazily : Bool) (r : Regular)
  /-- the group of a number -/
  | group (n : Nat) (r : Regular)
  | concat (rs : List Regular)
  | choice (rs : List Regular)

namespace Regular

mutual

/-- the same expression -/
def same : Regular → Regular → Bool
  | empty, empty => true
  | text a, text b => a == b
  | oneOf s, oneOf t => s == t
  | look l, look m => l == m
  | times low high lazily r, times low' high' lazily' r' =>
    low == low' && high == high' && lazily == lazily' && same r r'
  | group n r, group m s => n == m && same r s
  | concat rs, concat ss => sameAll rs ss
  | choice rs, choice ss => sameAll rs ss
  | _, _ => false

/-- the same expressions in the same order -/
def sameAll : List Regular → List Regular → Bool
  | [], [] => true
  | r :: rs, s :: ss => same r s && sameAll rs ss
  | _, _ => false

end

mutual

/-- the expression fits the empty text and no other, whatever stands around it -/
def isEmptyOnly : Regular → Bool
  | empty => true
  | text cs => cs.isEmpty
  | oneOf _ => false
  | look _ => true
  | times _ _ _ r => isEmptyOnly r
  | group _ r => isEmptyOnly r
  | concat rs => areEmptyOnly rs
  | choice rs => areEmptyOnly rs

/-- each of the expressions fits the empty text and no other -/
def areEmptyOnly : List Regular → Bool
  | [] => true
  | r :: rs => isEmptyOnly r && areEmptyOnly rs

end

mutual

/-- the length of the shortest texts that the expression fits; nothing where a part of it fits no text -/
def least? : Regular → Option Nat
  | empty => some 0
  | text cs => some cs.length
  | oneOf s => if s.isNone then none else some 1
  | look _ => some 0
  | times low _ _ r => (least? r).map (low * ·)
  | group _ r => least? r
  | concat rs => leastSum? rs
  | choice rs => leastOf? rs

/-- the sum of the shortest lengths -/
def leastSum? : List Regular → Option Nat
  | [] => some 0
  | r :: rs => (least? r).bind fun n => (leastSum? rs).map (n + ·)

/-- the least of the shortest lengths -/
def leastOf? : List Regular → Option Nat
  | [] => none
  | [r] => least? r
  | r :: rs => (least? r).bind fun n => (leastOf? rs).map (min n ·)

end

/-! ## Building expressions -/

/-- one character of a set -/
def ofSet (s : CharSet) : Regular :=
  match s.single? with
  | some c => text [c]
  | none => oneOf s

/-- the members of a sequence -/
def members : Regular → List Regular
  | empty => []
  | concat rs => rs
  | r => [r]

/-- the alternatives of a choice -/
def alternatives : Regular → List Regular
  | choice rs => rs
  | r => [r]

/-- texts that stand side by side, as one text -/
def joinTexts : List Regular → List Regular
  | [] => []
  | text a :: rest =>
    match joinTexts rest with
    | text b :: more => text (a ++ b) :: more
    | more => text a :: more
  | r :: rest => r :: joinTexts rest

/-- one expression after another -/
def seq (rs : List Regular) : Regular :=
  match joinTexts (rs.flatMap members) with
  | [] => empty
  | [r] => r
  | rs => concat rs

/-- the set of an expression that is one character as written -/
def single? : Regular → Option CharSet
  | text [c] => some (.single c)
  | _ => none

/-- the set of an expression that is one -/
def set? : Regular → Option CharSet
  | oneOf s => some s
  | _ => none

/-- one of the alternatives, which are no choices themselves; choices between characters and between sets are sets -/
def choose (rs : List Regular) : Regular :=
  match rs with
  | [] => oneOf .none
  | [r] => r
  | rs =>
    match rs.mapM single?, rs.mapM set? with
    | some ss, _ => ofSet (.unions ss)
    | _, some ss => ofSet (.unions ss)
    | none, none => choice rs

/-- the first members that two sequences share -/
def sharedStart : List Regular → List Regular → List Regular
  | r :: rs, s :: ss => if same r s then r :: sharedStart rs ss else []
  | _, _ => []

/-- the members of an alternative that is a sequence -/
def sequence? : Regular → Option (List Regular)
  | concat rs => some rs
  | _ => none

/-- one of several expressions; a start that all share stands before the choice -/
def either (rs : List Regular) : Regular :=
  let rs := rs.flatMap alternatives
  match choose rs with
  | choice rs =>
    match rs.mapM sequence? with
    | some (s :: ss) =>
      match ss.foldl sharedStart s with
      | [] => choice rs
      | start =>
        seq (start ++ [choose (((s :: ss).map fun t => seq (t.drop start.length)).flatMap alternatives)])
    | _ => choice rs
  | r => r

/-- between the least and the greatest number of repetitions; what fits only the empty text need not be repeated -/
def repeated (low : Nat) (high : Option Nat) (lazily : Bool) (r : Regular) : Regular :=
  let (low, high) := if isEmptyOnly r then (min low 1, some (min (high.getD 1) 1)) else (low, high)
  if high == some 0 then empty
  else if low == 1 && high == some 1 then r
  else times low high lazily r

/-! ## Matching -/

section

variable (before behind : Option Char)

mutual

/-- the expression fits the empty text between two neighbours -/
def fits : Regular → Bool
  | empty => true
  | text cs => cs.isEmpty
  | oneOf _ => false
  | look l => l.holds before behind
  | times low _ _ r => low == 0 || fits r
  | group _ r => fits r
  | concat rs => fitAll rs
  | choice rs => fitsAny rs

/-- all expressions fit the empty text -/
def fitAll : List Regular → Bool
  | [] => true
  | r :: rs => fits r && fitAll rs

/-- one of the expressions fits the empty text -/
def fitsAny : List Regular → Bool
  | [] => false
  | r :: rs => fits r || fitsAny rs

end

end

/-- what is left of a repetition when one of its rounds has begun to take characters; rounds before that one took none
if the repeated expression fits the empty text there -/
def remaining (low : Nat) (high : Option Nat) (lazily : Bool) (r : Regular) (skips : Bool) : List Regular :=
  match high with
  | some 0 => []
  | some 1 => []
  | high => [times (if skips then 0 else low - 1) (high.map (· - 1)) lazily r]

section

variable (before : Option Char) (c : Char)

mutual

/-- the sequences that may be left of an expression when it takes a character -/
def after : Regular → List (List Regular)
  | empty => []
  | text [] => []
  | text (x :: xs) => if x == c then [if xs.isEmpty then [] else [text xs]] else []
  | oneOf s => if s.contains c then [[]] else []
  | look _ => []
  | times low high lazily r =>
    if high == some 0 then []
    else (after r).map (· ++ remaining low high lazily r (fits before (some c) r))
  | group _ r => after r
  | concat rs => afterAll rs
  | choice rs => afterAny rs

/-- the sequences that may be left of a sequence when it takes a character -/
def afterAll : List Regular → List (List Regular)
  | [] => []
  | r :: rs => (after r).map (· ++ rs) ++ if fits before (some c) r then afterAll rs else []

/-- the sequences that may be left of a choice when it takes a character -/
def afterAny : List Regular → List (List Regular)
  | [] => []
  | r :: rs => after r ++ afterAny rs

end

end

/-- the sequences without repetitions of the same one -/
def distinct (threads : List (List Regular)) : List (List Regular) :=
  threads.foldl (fun seen t => if seen.any (sameAll t) then seen else t :: seen) []

/-- the expression fits a part of the text; `threads` are the sequences that earlier starts have left -/
def occursFrom (r : Regular) (before : Option Char) (threads : List (List Regular)) : List Char → Bool
  | [] => ([r] :: threads).any (fitAll before none)
  | c :: cs =>
    let threads := [r] :: threads
    threads.any (fitAll before (some c)) ||
      occursFrom r (some c) (distinct (threads.flatMap (afterAll before c))) cs

/-- the expression fits some part of the text -/
def occurs (r : Regular) (s : String) : Bool := r.occursFrom none [] s.toList

end Regular

end CodeSurvey
