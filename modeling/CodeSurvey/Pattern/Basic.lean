/-
Patterns over text, and how they match.

A pattern matches from a place in a text. Where it can match in several ways the ways are ordered: the left branch of
`either` before the right one, more repetitions before fewer unless the repetition is lazy. `run p k c` tries the ways
of `p` at the cursor `c` in that order and gives the first answer that the continuation `k` accepts; so the first way
that lets the whole pattern match wins. A repetition of a compound pattern goes on only while it moves forward, hence
every run ends.
-/
import CodeSurvey.Text.Letter

namespace CodeSurvey

open Text

/-- the last characters of what a match has taken: how many, and all that was taken, last character first -/
structure Taken where
  count : Nat
  trail : List Char

/-- the characters in order -/
def Taken.text (t : Taken) : List Char := (t.trail.take t.count).reverse

/-- a place in a text during a match -/
structure Cursor where
  /-- the character before the match -/
  lead : Option Char
  /-- what the match has taken -/
  taken : Taken
  rest : List Char
  /-- what the groups closed so far have taken, last first -/
  groups : List (Nat × Taken)

/-- the character before the place -/
def Cursor.previous (c : Cursor) : Option Char :=
  match c.taken.trail with
  | x :: _ => some x
  | [] => c.lead

/-- what was taken between two places of one match -/
def Cursor.upTo (c d : Cursor) : Taken := ⟨d.taken.count - c.taken.count, d.taken.trail⟩

/-- one character more is taken -/
def Taken.push (t : Taken) (x : Char) : Taken := ⟨t.count + 1, x :: t.trail⟩

/-- patterns -/
inductive Pattern where
  /-- the empty text -/
  | nothing
  /-- one character that passes the test -/
  | char (test : Char → Bool)
  /-- any number of characters that pass the test -/
  | span (lazily : Bool) (test : Char → Bool)
  /-- the empty text, between two neighbours that pass the test -/
  | edge (test : Option Char → Option Char → Bool)
  | seq (p q : Pattern)
  | either (p q : Pattern)
  /-- any number of repetitions -/
  | many (lazily : Bool) (p : Pattern)
  /-- at most `n` repetitions -/
  | upTo (n : Nat) (lazily : Bool) (p : Pattern)
  /-- exactly `n` repetitions -/
  | times (n : Nat) (p : Pattern)
  /-- the pattern, its text remembered under a number -/
  | group (n : Nat) (p : Pattern)

namespace Pattern

variable {β : Type}

/-- the first answer, the second one only where there is none -/
def orTry (lazily : Bool) (more stop : Unit → Option β) : Option β :=
  if lazily then (stop ()).orElse more else (more ()).orElse stop

/-- takes characters that pass the test, one by one -/
def runSpan (test : Char → Bool) (lazily : Bool) (k : Taken → List Char → Option β) :
    (taken : Taken) → (rest : List Char) → Option β
  | taken, [] => k taken []
  | taken, x :: xs =>
    orTry lazily (fun _ => if test x then runSpan test lazily k (taken.push x) xs else none)
      (fun _ => k taken (x :: xs))

/-- repeats a step at most `n` times, as long as it moves forward -/
def runLoop (step : (Cursor → Option β) → Cursor → Option β) (lazily : Bool) (k : Cursor → Option β) :
    Nat → Cursor → Option β
  | 0, c => k c
  | n + 1, c =>
    orTry lazily
      (fun _ => step (fun d => if c.taken.count < d.taken.count then runLoop step lazily k n d else none) c)
      (fun _ => k c)

/-- repeats a step exactly `n` times -/
def runTimes (step : (Cursor → Option β) → Cursor → Option β) (k : Cursor → Option β) : Nat → Cursor → Option β
  | 0, c => k c
  | n + 1, c => step (runTimes step k n) c

/-- the first way to match at the cursor that the continuation accepts -/
def run : Pattern → (Cursor → Option β) → Cursor → Option β
  | nothing, k, c => k c
  | char test, k, c =>
    match c.rest with
    | x :: xs => if test x then k { c with taken := c.taken.push x, rest := xs } else none
    | [] => none
  | span lazily test, k, c =>
    runSpan test lazily (fun taken rest => k { c with taken := taken, rest := rest }) c.taken c.rest
  | edge test, k, c => if test c.previous c.rest.head? then k c else none
  | seq p q, k, c => run p (run q k) c
  | either p q, k, c => (run p k c).orElse fun _ => run q k c
  | many lazily p, k, c => runLoop (run p) lazily k c.rest.length c
  | upTo n lazily p, k, c => runLoop (run p) lazily k n c
  | times n p, k, c => runTimes (run p) k n c
  | group n p, k, c => run p (fun d => k { d with groups := (n, c.upTo d) :: d.groups }) c

/-! ## Building patterns -/

instance : Append Pattern := ⟨seq⟩

instance : OrElse Pattern := ⟨fun p q => either p (q ())⟩

/-- exactly these characters -/
def exactly : List Char → Pattern
  | [] => nothing
  | [x] => char (· == x)
  | x :: xs => char (· == x) ++ exactly xs

/-- exactly this text -/
def lit (s : String) : Pattern := exactly s.toList

/-- one of the texts, earlier ones preferred -/
def oneOf : List String → Pattern
  | [] => char fun _ => false
  | [s] => lit s
  | s :: ss => either (lit s) (oneOf ss)

/-- one of these characters -/
def anyOf (s : String) : Pattern := char (s.toList.contains ·)

/-- the pattern or nothing, the pattern preferred -/
def opt (p : Pattern) : Pattern := upTo 1 false p

/-- the repetitions of a pattern, as many as possible -/
def star (p : Pattern) : Pattern := many false p

/-- characters that pass the test, as many as possible, at least one -/
def some1 (test : Char → Bool) : Pattern := char test ++ span false test

/-- characters that pass the test, as many as possible, perhaps none -/
def any0 (test : Char → Bool) : Pattern := span false test

/-- a word -/
def word : Pattern := some1 isWord

/-- blanks, perhaps none -/
def gap : Pattern := any0 isBlank

/-- at least one blank -/
def blank : Pattern := some1 isBlank

/-- the neighbour is a word character -/
def wordAt : Option Char → Bool
  | some c => isWord c
  | none => false

/-- exactly one of the neighbours is a word character -/
def wordEdge : Pattern := edge fun a b => wordAt a != wordAt b

/-- nothing stands before -/
def textStart : Pattern := edge fun a _ => a.isNone

/-- nothing stands behind -/
def textEnd : Pattern := edge fun _ b => b.isNone

/-- the start of the text or of a line -/
def lineStart : Pattern := edge fun a _ => a.isNone || a == some '\n'

/-- a character outside the list -/
def except (s : String) : Char → Bool := fun c => !s.toList.contains c

end Pattern

end CodeSurvey
