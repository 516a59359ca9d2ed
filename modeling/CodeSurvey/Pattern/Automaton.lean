/-
The size of the automata for a regular expression.

An expression is accepted only if two automata over bytes fit into a fixed space: one that reads a text forwards and
keeps the places of groups, and one that reads it backwards and keeps none. A state takes 32 bytes; a state that
branches takes 4 more for each branch and a state that chooses by ranges of bytes 8 more for each range. Repetitions
are written out. Read forwards, a set of characters is a graph without two equal parts; read backwards, its rows share
the states that a table of 1000 places still remembers. `fitsSpace` says whether both automata fit.
-/
import CodeSurvey.Pattern.Regular
import CodeSurvey.Text.ByteRange
import CodeSurvey.Text.Utf8
import Std.Data.HashSet

namespace CodeSurvey

open Text

/-- the states of an automaton so far and the bytes of their branches and ranges -/
structure Automaton where
  states : Nat
  extra : Nat

namespace Automaton

/-- the space that an automaton takes -/
def bytes (a : Automaton) : Nat := 32 * a.states + a.extra

/-- the most space for an automaton -/
def limit : Nat := 10 * Nat.pow 2 20

/-- some states more, with the bytes of their branches and ranges -/
def add (a : Automaton) (states extra : Nat) : Automaton := ⟨a.states + states, a.extra + extra⟩

/-- the automaton after `n` copies of a step, or after fewer if they outgrow the space -/
def copies (step : Automaton → Automaton) : Nat → Automaton → Automaton
  | 0, a => a
  | n + 1, a => if limit < a.bytes then a else copies step n (step a)

/-! ## Sets read forwards -/

/-- rows with a common first range stand together: the first ranges, each with what follows it -/
def branches (rows : List (List ByteRange)) : List (ByteRange × List (List ByteRange)) :=
  rows.foldr (fun row groups =>
    match row with
    | [] => groups
    | r :: rest =>
      match groups with
      | (s, rests) :: more => if r == s then (s, rest :: rests) :: more else (r, [rest]) :: groups
      | [] => [(r, [rest])]) []

/-- the different parts of the graph of some rows -/
def graphParts : (depth : Nat) → List (List ByteRange) → Std.HashSet (List (List ByteRange)) →
    Std.HashSet (List (List ByteRange))
  | 0, _, seen => seen
  | depth + 1, rows, seen =>
    if rows == [[]] || seen.contains rows then seen
    else (branches rows).foldl (fun seen b => graphParts depth b.2 seen) (seen.insert rows)

/-- the automaton with a set of characters, read forwards -/
def addSet (s : CharSet) (a : Automaton) : Automaton :=
  if s.isAscii then a.add 2 (8 * s.ranges.length)
  else
    let parts := graphParts 5 s.byteRows ∅
    a.add (1 + parts.size) (8 * parts.fold (fun n rows => n + (branches rows).length) 0)

/-! ## Sets read backwards -/

/-- the states that a table still remembers: the state that follows, the range, and the state itself -/
abbrev Memory := Array (Option (Nat × ByteRange × Nat))

/-- the place of a state in the table -/
def place (next : Nat) (r : ByteRange) : Nat :=
  let mix := fun (h : UInt64) (n : Nat) => (h ^^^ n.toUInt64) * 1099511628211
  (mix (mix (mix 14695981039346656037 next) r.1) r.2).toNat % 1000

/-- the states of one row after the state `next`, remembered ones not counted twice -/
def addRow (next : Nat) (memory : Memory) (a : Automaton) : List ByteRange → Memory × Automaton
  | [] => (memory, a)
  | r :: rest =>
    match memory.getD (place next r) none with
    | some (n, s, state) =>
      if n == next && s == r then addRow state memory a rest
      else addRow a.states (memory.setIfInBounds (place next r) (some (next, r, a.states))) (a.add 1 0) rest
    | none => addRow a.states (memory.setIfInBounds (place next r) (some (next, r, a.states))) (a.add 1 0) rest

/-- the automaton with a set of characters, read backwards -/
def addSetBackwards (s : CharSet) (a : Automaton) : Automaton :=
  if s.isAscii then a.add 2 (8 * s.ranges.length)
  else
    let last := a.states + 1
    let rows := s.byteRows
    (rows.foldl (fun (memory, a) row => addRow last memory a row)
      (Array.replicate 1000 none, a.add 2 (4 * rows.length))).2

/-! ## Choices between texts -/

/-- words in the order of their first letters' first appearance, each first letter with what follows it -/
def byFirst (words : List Bytes) : List (UInt8 × List Bytes) :=
  words.foldl (fun groups word =>
    match word with
    | [] => groups
    | b :: rest =>
      if groups.any (·.1 == b) then groups.map fun g => if g.1 == b then (b, g.2 ++ [rest]) else g
      else groups ++ [(b, [rest])]) []

/-- the words between the places where one ends: a word that ends before any has gone on ends once -/
def between (started : Bool) (words : List Bytes) : List (List Bytes) :=
  words.foldr (fun word parts =>
    match word, parts with
    | [], parts => [] :: parts
    | word, part :: more => (word :: part) :: more
    | word, [] => [[word]]) [[]]
  |> fun parts => if started then parts else [] :: (parts.dropWhile List.isEmpty)

/-- the states of a tree of words, which branches where words part and where a word ends inside another -/
def addTree : (depth : Nat) → List Bytes → Automaton → Automaton
  | 0, _, a => a
  | depth + 1, words, a =>
    if words.all List.isEmpty then a
    else
      let parts := between (words.head?.any (!·.isEmpty)) words
      let full := (parts.map byFirst).filter (!·.isEmpty)
      let a := full.foldl (fun a groups =>
        groups.foldl (fun a g => addTree depth g.2 a)
          (a.add 1 (if groups.length = 1 then 0 else 8 * groups.length))) a
      a.add 1 (4 * (full.length + (parts.length - 1)))

/-! ## Expressions -/

end Automaton

namespace Regular

mutual

/-- the automaton of the expression ends in a branch -/
def endsInBranch (backwards : Bool) : Regular → Bool
  | empty => false
  | text _ => false
  | oneOf _ => false
  | look _ => false
  | times low none _ r => low != 0 || (least? r).any (0 < ·)
  | times low (some high) _ r => low == high && endsInBranch backwards r
  | group _ r => backwards && endsInBranch backwards r
  | concat rs => if backwards then firstEndsInBranch rs else lastEndsInBranch rs
  | choice _ => false

/-- the automaton of the first expression, read backwards, ends in a branch -/
def firstEndsInBranch : List Regular → Bool
  | [] => false
  | r :: _ => endsInBranch true r

/-- the automaton of the last expression ends in a branch -/
def lastEndsInBranch : List Regular → Bool
  | [] => false
  | [r] => endsInBranch false r
  | _ :: rs => lastEndsInBranch rs

end

/-- the bytes of the branch that leads on from the end of the expression's automaton -/
def exit (backwards : Bool) (r : Regular) : Nat := if endsInBranch backwards r then 4 else 0

/-- the text of an expression that is one -/
def text? : Regular → Option (List Char)
  | text cs => some cs
  | _ => none

end Regular

namespace Automaton

open Regular in
/-- the automaton with copies of an expression, whose automaton `step` adds, between a least and a greatest number -/
def addTimes (step : Automaton → Automaton) (exit : Nat) (takes : Bool) (low : Nat) (high : Option Nat)
    (a : Automaton) : Automaton :=
  match low, high with
  | 0, some 1 => ((step (a.add 1 8)).add 1 exit)
  | 0, none => if takes then (step (a.add 1 4)).add 0 exit else (step a).add 3 (16 + exit)
  | low, none => (copies (fun a => (step a).add 0 exit) low a).add 1 4
  | low, some high =>
    let start := if low = 0 then a.add 1 0 else (copies (fun a => (step a).add 0 exit) low a)
    if low = high then ⟨start.states, start.extra - exit⟩
    else copies (fun a => (step (a.add 1 8)).add 0 exit) (high - low) (start.add 1 0)

mutual

/-- the automaton with an expression -/
def addExpression (backwards : Bool) : Regular → Automaton → Automaton
  | .empty, a => a.add 1 0
  | .text cs, a => a.add (encodeChars cs).length 0
  | .oneOf s, a => if backwards then addSetBackwards s a else addSet s a
  | .look _, a => a.add 1 0
  | .times low high _ r, a =>
    addTimes (addExpression backwards r) (r.exit backwards) ((r.least?).any (0 < ·)) low high a
  | .group _ r, a => if backwards then addExpression true r a else (addExpression false r a).add 2 (r.exit false)
  | .concat rs, a => if backwards then addLastFirst rs a else addFirstLast rs a
  | .choice rs, a =>
    match rs.mapM Regular.text? with
    | some texts =>
      let words := texts.map fun cs => if backwards then (encodeChars cs).reverse else encodeChars cs
      addTree (words.foldl (fun n w => max n w.length) 0 + 1) words (a.add 1 0)
    | none => addChoices backwards rs (a.add 2 0)

/-- the automaton with a sequence, read forwards -/
def addFirstLast : List Regular → Automaton → Automaton
  | [], a => a
  | [r], a => addExpression false r a
  | r :: rs, a => addFirstLast rs ((addExpression false r a).add 0 (r.exit false))

/-- the automaton with a sequence, read backwards -/
def addLastFirst : List Regular → Automaton → Automaton
  | [], a => a
  | [r], a => addExpression true r a
  | r :: s :: rs, a =>
    let rest := addLastFirst (s :: rs) a
    addExpression true r (rest.add 0 (s.exit true))

/-- the automaton with the alternatives of a choice -/
def addChoices (backwards : Bool) : List Regular → Automaton → Automaton
  | [], a => a
  | r :: rs, a => addChoices backwards rs ((addExpression backwards r a).add 0 (4 + r.exit backwards))

end

end Automaton

namespace Regular

mutual

/-- every match starts at the start of the text -/
def startsAtStart : Regular → Bool
  | empty => false
  | text _ => false
  | oneOf _ => false
  | look l => l == .textStart
  | times low _ _ r => low != 0 && startsAtStart r
  | group _ r => startsAtStart r
  | concat rs => oneStartsAtStart rs
  | choice rs => allStartAtStart rs

/-- one of the first expressions that take nothing, or the one behind them, starts at the start of the text -/
def oneStartsAtStart : List Regular → Bool
  | [] => false
  | r :: rs => startsAtStart r || (isEmptyOnly r && oneStartsAtStart rs)

/-- all alternatives start at the start of the text -/
def allStartAtStart : List Regular → Bool
  | [] => true
  | r :: rs => startsAtStart r && allStartAtStart rs

end

mutual

/-- every match ends at the end of the text -/
def endsAtEnd : Regular → Bool
  | empty => false
  | text _ => false
  | oneOf _ => false
  | look l => l == .textEnd
  | times low _ _ r => low != 0 && endsAtEnd r
  | group _ r => endsAtEnd r
  | concat rs => oneEndsAtEnd rs
  | choice rs => allEndAtEnd rs

/-- one of the last expressions that take nothing, or the one before them, ends at the end of the text -/
def oneEndsAtEnd : List Regular → Bool
  | [] => false
  | r :: rs => oneEndsAtEnd rs || (areEmptyOnly rs && endsAtEnd r)

/-- all alternatives end at the end of the text -/
def allEndAtEnd : List Regular → Bool
  | [] => true
  | r :: rs => endsAtEnd r && allEndAtEnd rs

end

/-- the automaton of a search for the expression: a loop over what stands before a match, where that may be anything,
the expression, as a group where groups are kept, and the final state -/
def automaton (backwards : Bool) (r : Regular) : Automaton :=
  let anchored := if backwards then endsAtEnd r else startsAtStart r
  let start : Automaton := if anchored then ⟨1, 0⟩ else ⟨3, 16⟩
  ((start.addExpression backwards r).add (if backwards then 0 else 2) (r.exit backwards)).add 1 0

/-- both automata of the expression fit into the space for one -/
def fitsSpace (r : Regular) : Bool :=
  (r.automaton false).bytes ≤ Automaton.limit && (r.automaton true).bytes ≤ Automaton.limit

end Regular

end CodeSurvey
