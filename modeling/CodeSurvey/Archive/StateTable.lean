/-
Codes whose symbols are states.

A table has a power of two of states. A state gives a symbol, and how the next state is found: from a number of bits
and a least value. A symbol with a greater share of the states takes fewer bits. Tables are written as the shares of
the symbols, and `ofShares` lays out the states in the one order that writer and reader agree on.
-/
import CodeSurvey.Archive.Bits

namespace CodeSurvey

open Text

/-- what a state gives -/
structure CodeState where
  symbol : Nat
  /-- how many bits choose the next state -/
  width : Nat
  /-- the least next state -/
  least : Nat
  deriving DecidableEq, Repr

/-- a code whose symbols are states -/
structure StateTable where
  /-- how many bits choose the first state -/
  width : Nat
  states : Array CodeState
  deriving Repr

/-- the share of the states that a symbol has -/
inductive Share where
  | states (n : Nat)
  /-- one state, which takes all bits to leave -/
  | least
  deriving DecidableEq, Repr

/-- how many states the share is -/
def Share.size : Share → Nat
  | .states n => n
  | .least => 1

namespace StateTable

/-- the table in which one symbol has all states -/
def constant (symbol : Nat) : StateTable := ⟨0, #[⟨symbol, 0, 0⟩]⟩

/-! ## Shares as they are written -/

/-- the zeros that follow a zero share: pairs of bits, of which a three says that one more pair follows -/
def zeros? (fuel : Nat) (bits : Bits) : Option (Nat × Bits) :=
  match fuel with
  | 0 => none
  | fuel + 1 => do
    let (n, bits) ← Bits.low? 2 bits
    if n = 3 then (zeros? fuel bits).map fun (more, bits) => (n + more, bits) else some (n, bits)

/-- a number below `limit + 1` in the least bits that can tell such numbers apart: the smaller ones take one bit less -/
def bounded? (limit : Nat) (bits : Bits) : Option (Nat × Bits) := do
  let width := limit.log2
  let half := Nat.pow 2 width
  let short := 2 * half - 1 - limit
  let (n, rest) ← Bits.low? width bits
  if n < short then return (n, rest)
  let (high, rest) ← Bits.low? 1 rest
  return (if high = 0 then n else n + half - short, rest)

/-- shares until `left` states are given away, last one first; no share is greater than what is left -/
def shares? (fuel left : Nat) (bits : Bits) (read : List Share) : Option (List Share × Bits) :=
  match fuel with
  | 0 => none
  | fuel + 1 =>
    if left = 0 then some (read, bits)
    else do
      let (n, bits) ← bounded? (left + 1) bits
      match n with
      | 0 => shares? fuel (left - 1) bits (.least :: read)
      | 1 => do
        let (more, bits) ← zeros? (bits.length + 1) bits
        shares? fuel left bits (List.replicate (more + 1) (.states 0) ++ read)
      | n + 2 => shares? fuel (left - (n + 1)) bits (.states (n + 1) :: read)

/-! ## Layout -/

/-- the order in which states are given away in a table of `size` -/
def places (size : Nat) : List Nat :=
  (List.range size).map fun i => i * (size / 2 + size / 8 + 3) % size

/-- the symbol of each state: the least shares stand at the end, the others in the order of the places -/
def layout (size : Nat) (shares : List Share) : List (Nat × Nat) :=
  let symbols := shares.zipIdx
  let least := (symbols.filter fun s => s.1 == .least).map (·.2)
  let free := (places size).filter (· < size - least.length)
  let others := symbols.flatMap fun (share, symbol) =>
    if share = .least then [] else List.replicate share.size symbol
  least.zipIdx.map (fun (symbol, i) => (size - 1 - i, symbol)) ++ free.zip others

/-- the states of the symbols in order, the `counts` of each having been seen before -/
def number (width : Nat) (counts : Array Nat) : List Nat → List CodeState
  | [] => []
  | symbol :: symbols =>
    let seen := counts.getD symbol 1
    let bits := width - seen.log2
    ⟨symbol, bits, seen * Nat.pow 2 bits - Nat.pow 2 width⟩ :: number width (counts.setIfInBounds symbol (seen + 1)) symbols

/-- the table whose symbols have the shares, which are all of its states -/
def ofShares (width : Nat) (shares : List Share) : StateTable :=
  let order := (layout (Nat.pow 2 width) shares).mergeSort fun a b => a.1 ≤ b.1
  ⟨width, (number width (shares.map Share.size).toArray (order.map (·.2))).toArray⟩

/-- the table that bytes start with and what follows it: a width of at most `widest`, then the shares of at most
`symbols` symbols -/
def read? (widest symbols : Nat) (bytes : Bytes) : Option (StateTable × Bytes) := do
  let all := Bits.lowFirst bytes
  let (n, bits) ← Bits.low? 4 all
  let width := n + 5
  if width > widest then none
  let (read, bits) ← shares? (all.length + 1) (Nat.pow 2 width) bits []
  if read.length > symbols then none
  return (ofShares width read.reverse, bytes.drop ((all.length - bits.length + 7) / 8))

/-! ## Reading -/

/-- the state at a place -/
def state (t : StateTable) (place : Nat) : CodeState := t.states.getD place ⟨0, 0, 0⟩

/-- the first state -/
def start? (t : StateTable) (bits : Bits) : Option (CodeState × Bits) :=
  (Bits.high? t.width bits).map fun (place, rest) => (t.state place, rest)

/-- the state after a state -/
def next? (t : StateTable) (s : CodeState) (bits : Bits) : Option (CodeState × Bits) :=
  (Bits.high? s.width bits).map fun (n, rest) => (t.state (s.least + n), rest)

end StateTable

end CodeSurvey
