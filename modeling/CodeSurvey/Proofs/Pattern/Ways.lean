/-
The ways in which a pattern matches.

A run tries the ways of a pattern one by one and stops at the first that its continuation accepts. `ways` is the list of
all of them in this order, each given by the cursor at its end, and `run_eq` says that a run looks through that list.

`local_ways`: what stands behind a character has no part in the ways that leave this character over. The text may go on
as it likes there, and these ways are the same, in the same order. One lemma for each kind of pattern proves it, and for
repetitions an induction on their number; `Follows` is what a way does to its cursor, so that what comes behind a way is
decided by what the way leaves. `matchHere_congr` is the law for matches.
-/
import CodeSurvey.Pattern.Search

namespace CodeSurvey

namespace Cursor

/-- the cursor in a text that goes on with the tail -/
def before (c : Cursor) (tail : List Char) : Cursor := { c with rest := c.rest ++ tail }

/-- something is left over before the tail -/
def stopsBefore (tail : List Char) (c : Cursor) : Bool := tail.length < c.rest.length

/-- the match that ends at the cursor -/
def found (c : Cursor) : Match := ⟨c.taken.text, c.groups.map fun g => (g.1, g.2.text)⟩

theorem stopsBefore_before (tail : List Char) (c : Cursor) : stopsBefore tail (c.before tail) = stopsBefore [] c := by
  simp [stopsBefore, before]

end Cursor

namespace Pattern

variable {β : Type}

/-! ## All ways -/

/-- both lists, the second one first for lazy patterns -/
def inOrder {α : Type} (lazily : Bool) (more stop : List α) : List α :=
  if lazily then stop ++ more else more ++ stop

def spanWays (lazily : Bool) (test : Char → Bool) : Taken → List Char → List (Taken × List Char)
  | taken, [] => [(taken, [])]
  | taken, x :: xs =>
    inOrder lazily (if test x then spanWays lazily test (taken.push x) xs else []) [(taken, x :: xs)]

/-- at most `n` repetitions of a step that moves forward -/
def loopWays (step : Cursor → List Cursor) (lazily : Bool) : Nat → Cursor → List Cursor
  | 0, c => [c]
  | n + 1, c =>
    inOrder lazily
      ((step c).flatMap fun d => if c.taken.count < d.taken.count then loopWays step lazily n d else []) [c]

def timesWays (step : Cursor → List Cursor) : Nat → Cursor → List Cursor
  | 0, c => [c]
  | n + 1, c => (step c).flatMap (timesWays step n)

/-- the ends of the ways to match at the cursor, in order -/
def ways : Pattern → Cursor → List Cursor
  | nothing, c => [c]
  | char test, c =>
    match c.rest with
    | x :: xs => if test x then [{ c with taken := c.taken.push x, rest := xs }] else []
    | [] => []
  | span lazily test, c => (spanWays lazily test c.taken c.rest).map fun e => { c with taken := e.1, rest := e.2 }
  | edge test, c => if test c.previous c.rest.head? then [c] else []
  | seq p q, c => (ways p c).flatMap (ways q)
  | either p q, c => ways p c ++ ways q c
  | many lazily p, c => loopWays (ways p) lazily c.rest.length c
  | upTo n lazily p, c => loopWays (ways p) lazily n c
  | times n p, c => timesWays (ways p) n c
  | group n p, c => (ways p c).map fun d => { d with groups := (n, c.upTo d) :: d.groups }

/-! ## Runs -/

theorem findSome?_flatMap {α γ : Type} (k : α → Option β) (f : γ → List α) (l : List γ) :
    (l.flatMap f).findSome? k = l.findSome? fun x => (f x).findSome? k := by
  induction l with
  | nil => rfl
  | cons x l ih =>
    rw [List.flatMap_cons, List.findSome?_append, ih, List.findSome?_cons]
    cases (f x).findSome? k <;> rfl

theorem findSome?_inOrder {α : Type} (lazily : Bool) (more stop : List α) (k : α → Option β) :
    (inOrder lazily more stop).findSome? k =
      orTry lazily (fun _ => more.findSome? k) fun _ => stop.findSome? k := by
  cases lazily <;> simp [inOrder, orTry, List.findSome?_append]

theorem runSpan_eq (test : Char → Bool) (lazily : Bool) (k : Taken → List Char → Option β) (taken : Taken)
    (rest : List Char) :
    runSpan test lazily k taken rest = (spanWays lazily test taken rest).findSome? fun e => k e.1 e.2 := by
  induction rest generalizing taken with
  | nil => simp [runSpan, spanWays]
  | cons x xs ih =>
    rw [runSpan, spanWays, findSome?_inOrder, ih]
    by_cases h : test x = true <;> simp [h]

section

variable {step : (Cursor → Option β) → Cursor → Option β} {stepWays : Cursor → List Cursor}
  (hstep : ∀ k c, step k c = (stepWays c).findSome? k)

include hstep

theorem runLoop_eq (lazily : Bool) (k : Cursor → Option β) (n : Nat) (c : Cursor) :
    runLoop step lazily k n c = (loopWays stepWays lazily n c).findSome? k := by
  induction n generalizing c with
  | zero => simp [runLoop, loopWays]
  | succ n ih =>
    have hmore : step (fun d => if c.taken.count < d.taken.count then runLoop step lazily k n d else none) c =
        ((stepWays c).flatMap fun d =>
          if c.taken.count < d.taken.count then loopWays stepWays lazily n d else []).findSome? k := by
      rw [hstep, findSome?_flatMap]
      congr 1
      funext d
      rw [ih]
      by_cases h : c.taken.count < d.taken.count <;> simp [h]
    rw [runLoop, loopWays, findSome?_inOrder, hmore]
    simp

theorem runTimes_eq (k : Cursor → Option β) (n : Nat) (c : Cursor) :
    runTimes step k n c = (timesWays stepWays n c).findSome? k := by
  induction n generalizing c with
  | zero => simp [runTimes, timesWays]
  | succ n ih =>
    rw [runTimes, timesWays, hstep, findSome?_flatMap]
    exact congrArg (List.findSome? · (stepWays c)) (funext ih)

end

/-- **A run looks through the ways in order.** -/
theorem run_eq (p : Pattern) (k : Cursor → Option β) (c : Cursor) : run p k c = (ways p c).findSome? k := by
  induction p generalizing k c with
  | nothing => simp [run, ways]
  | char test =>
    rw [run, ways]
    cases c.rest with
    | nil => rfl
    | cons x xs => by_cases h : test x = true <;> simp [h]
  | span lazily test => rw [run, ways, runSpan_eq, List.findSome?_map]; rfl
  | edge test => by_cases h : test c.previous c.rest.head? = true <;> simp [run, ways, h]
  | seq p q ihp ihq =>
    rw [run, ways, ihp, findSome?_flatMap]
    exact congrArg (List.findSome? · (ways p c)) (funext fun d => ihq k d)
  | either p q ihp ihq => rw [run, ways, ihp, ihq, List.findSome?_append]; cases (ways p c).findSome? k <;> rfl
  | many lazily p ih => rw [run, ways, runLoop_eq ih]
  | upTo n lazily p ih => rw [run, ways, runLoop_eq ih]
  | times n p ih => rw [run, ways, runTimes_eq ih]
  | group n p ih => rw [run, ways, ih, List.findSome?_map]; rfl

/-! ## What a way takes -/

/-- the cursor has taken some of what stood before the other -/
def Follows (c d : Cursor) : Prop :=
  ∃ cs, c.rest = cs ++ d.rest ∧ d.taken.count = c.taken.count + cs.length ∧
    d.taken.trail = cs.reverse ++ c.taken.trail

theorem Follows.refl (c : Cursor) : Follows c c := ⟨[], rfl, rfl, rfl⟩

theorem Follows.of_mem_singleton {c d : Cursor} (h : d ∈ [c]) : Follows c d := by
  rw [List.mem_singleton.1 h]
  exact .refl c

theorem Follows.trans {c d e : Cursor} (h : Follows c d) (h' : Follows d e) : Follows c e := by
  obtain ⟨cs, hrest, hcount, htrail⟩ := h
  obtain ⟨ds, hrest', hcount', htrail'⟩ := h'
  refine ⟨cs ++ ds, by rw [hrest, hrest', List.append_assoc], ?_, ?_⟩
  · rw [hcount', hcount, List.length_append, Nat.add_assoc]
  · rw [htrail', htrail, List.reverse_append, List.append_assoc]

theorem Follows.rest_le {c d : Cursor} (h : Follows c d) : d.rest.length ≤ c.rest.length := by
  obtain ⟨cs, hrest, -⟩ := h
  rw [hrest, List.length_append]
  exact Nat.le_add_left _ _

/-- what moves forward leaves less -/
theorem Follows.rest_lt {c d : Cursor} (h : Follows c d) (hcount : c.taken.count < d.taken.count) :
    d.rest.length < c.rest.length := by
  obtain ⟨cs, hrest, hsum, -⟩ := h
  rw [hrest, List.length_append]
  omega

theorem mem_inOrder {α : Type} {lazily : Bool} {more stop : List α} {x : α} :
    x ∈ inOrder lazily more stop ↔ x ∈ more ∨ x ∈ stop := by
  cases lazily <;> simp [inOrder, or_comm]

theorem follows_spanWays {lazily : Bool} {test : Char → Bool} {lead : Option Char} {groups : List (Nat × Taken)}
    {taken : Taken} {rest : List Char} :
    ∀ e ∈ spanWays lazily test taken rest, Follows ⟨lead, taken, rest, groups⟩ ⟨lead, e.1, e.2, groups⟩ := by
  induction rest generalizing taken with
  | nil =>
    intro e he
    rw [List.mem_singleton.1 he]
    exact .refl _
  | cons x xs ih =>
    intro e he
    rcases mem_inOrder.1 he with hmore | hstop
    · split at hmore
      · exact .trans ⟨[x], rfl, rfl, rfl⟩ (ih e hmore)
      · exact absurd hmore List.not_mem_nil
    · rw [List.mem_singleton.1 hstop]
      exact .refl _

section

variable {step : Cursor → List Cursor} (hstep : ∀ c, ∀ d ∈ step c, Follows c d)

include hstep

theorem follows_loopWays (lazily : Bool) (n : Nat) (c : Cursor) : ∀ d ∈ loopWays step lazily n c, Follows c d := by
  induction n generalizing c with
  | zero => exact fun d hd => .of_mem_singleton hd
  | succ n ih =>
    intro d hd
    rcases mem_inOrder.1 hd with hmore | hstop
    · obtain ⟨e, he, hd⟩ := List.mem_flatMap.1 hmore
      split at hd
      · exact (hstep c e he).trans (ih e d hd)
      · exact absurd hd List.not_mem_nil
    · exact .of_mem_singleton hstop

theorem follows_timesWays (n : Nat) (c : Cursor) : ∀ d ∈ timesWays step n c, Follows c d := by
  induction n generalizing c with
  | zero => exact fun d hd => .of_mem_singleton hd
  | succ n ih =>
    intro d hd
    obtain ⟨e, he, hd⟩ := List.mem_flatMap.1 hd
    exact (hstep c e he).trans (ih e d hd)

/-- Enough turns are as good as more. -/
theorem loopWays_enough (lazily : Bool) {n : Nat} {c : Cursor} (h : c.rest.length ≤ n) :
    loopWays step lazily (n + 1) c = loopWays step lazily n c := by
  induction n generalizing c with
  | zero =>
    have hnone : ((step c).flatMap fun d =>
        if c.taken.count < d.taken.count then loopWays step lazily 0 d else []) = [] := by
      rw [List.flatMap_eq_nil_iff]
      intro d hd
      rw [if_neg]
      intro hcount
      have := (hstep c d hd).rest_lt hcount
      omega
    rw [loopWays.eq_2, hnone, loopWays]
    cases lazily <;> rfl
  | succ n ih =>
    rw [loopWays.eq_2 step lazily c (n + 1), loopWays.eq_2 step lazily c n]
    refine congrArg (inOrder lazily · [c]) (congrArg List.flatten (List.map_congr_left fun d hd => ?_))
    split
    · rename_i hcount
      have := (hstep c d hd).rest_lt hcount
      rw [ih (by omega)]
    · rfl

theorem loopWays_add (lazily : Bool) {n : Nat} {c : Cursor} (h : c.rest.length ≤ n) (k : Nat) :
    loopWays step lazily (n + k) c = loopWays step lazily n c := by
  induction k with
  | zero => rfl
  | succ k ih => rw [← Nat.add_assoc, loopWays_enough hstep lazily (by omega), ih]

end

theorem follows_ways (p : Pattern) (c : Cursor) : ∀ d ∈ ways p c, Follows c d := by
  induction p generalizing c with
  | nothing => exact fun d hd => .of_mem_singleton hd
  | char test =>
    intro d hd
    rw [ways] at hd
    cases hrest : c.rest with
    | nil =>
      rw [hrest] at hd
      exact absurd hd List.not_mem_nil
    | cons x xs =>
      simp only [hrest] at hd
      split at hd
      · rw [List.mem_singleton.1 hd]
        exact ⟨[x], hrest, rfl, rfl⟩
      · exact absurd hd List.not_mem_nil
  | span lazily test =>
    intro d hd
    obtain ⟨e, he, rfl⟩ := List.mem_map.1 hd
    exact follows_spanWays e he
  | edge test =>
    intro d hd
    rw [ways] at hd
    split at hd
    · exact .of_mem_singleton hd
    · exact absurd hd List.not_mem_nil
  | seq p q ihp ihq =>
    intro d hd
    obtain ⟨e, he, hd⟩ := List.mem_flatMap.1 hd
    exact (ihp c e he).trans (ihq e d hd)
  | either p q ihp ihq =>
    intro d hd
    rcases List.mem_append.1 hd with hd | hd
    · exact ihp c d hd
    · exact ihq c d hd
  | many lazily p ih => exact follows_loopWays ih lazily _ c
  | upTo n lazily p ih => exact follows_loopWays ih lazily n c
  | times n p ih => exact follows_timesWays ih n c
  | group n p ih =>
    intro d hd
    obtain ⟨e, he, rfl⟩ := List.mem_map.1 hd
    exact ih c e he

/-! ## Ways that stop before a tail -/

/-- of the ways in the text with the tail, those that stop before it are the ways in the text without it that leave a
character over -/
def SameBefore (tail : List Char) (short long : List Cursor) : Prop :=
  long.filter (Cursor.stopsBefore tail) = (short.filter (Cursor.stopsBefore [])).map (·.before tail)

/-- a tail has no part in the ways that stop before it -/
def Local (f : Cursor → List Cursor) : Prop := ∀ c tail, SameBefore tail (f c) (f (c.before tail))

section

variable {tail : List Char} {short long : List Cursor}

theorem SameBefore.append {short' long' : List Cursor} (h : SameBefore tail short long)
    (h' : SameBefore tail short' long') : SameBefore tail (short ++ short') (long ++ long') := by
  rw [SameBefore, List.filter_append, List.filter_append, List.map_append, h, h']

theorem SameBefore.inOrder {short' long' : List Cursor} (h : SameBefore tail short long)
    (h' : SameBefore tail short' long') (lazily : Bool) :
    SameBefore tail (inOrder lazily short short') (inOrder lazily long long') := by
  cases lazily
  · exact h.append h'
  · exact h'.append h

theorem sameBefore_nil : SameBefore tail [] [] := rfl

theorem sameBefore_self (c : Cursor) : SameBefore tail [c] [c.before tail] := by
  cases h : Cursor.stopsBefore [] c <;> simp [SameBefore, Cursor.stopsBefore_before, h]

/-- ways that take the tail or some of it do not count -/
theorem sameBefore_of_none (hshort : ∀ d ∈ short, d.rest = []) (hlong : ∀ d ∈ long, d.rest.length ≤ tail.length) :
    SameBefore tail short long := by
  have hnone : long.filter (Cursor.stopsBefore tail) = [] := by
    rw [List.filter_eq_nil_iff]
    intro d hd
    simpa [Cursor.stopsBefore] using hlong d hd
  have hnone' : short.filter (Cursor.stopsBefore []) = [] := by
    rw [List.filter_eq_nil_iff]
    intro d hd
    simp [Cursor.stopsBefore, hshort d hd]
  rw [SameBefore, hnone, hnone', List.map_nil]

theorem SameBefore.map (h : SameBefore tail short long) {f f' : Cursor → Cursor}
    (hf : ∀ d, (f d).rest = d.rest) (hf' : ∀ d, f' (d.before tail) = (f d).before tail)
    (hrest : ∀ d, (f' d).rest = d.rest) : SameBefore tail (short.map f) (long.map f') := by
  have hstops : (Cursor.stopsBefore [] ∘ f) = Cursor.stopsBefore [] := by
    funext d
    simp only [Function.comp_apply, Cursor.stopsBefore, hf]
  have hstops' : (Cursor.stopsBefore tail ∘ f') = Cursor.stopsBefore tail := by
    funext d
    simp only [Function.comp_apply, Cursor.stopsBefore, hrest]
  rw [SameBefore, List.filter_map, List.filter_map, hstops, hstops', h, List.map_map, List.map_map]
  exact congrArg (List.map · _) (funext hf')

/-- what comes behind a way stops before the tail only if the way does -/
theorem filter_flatMap_of_forward {f : Cursor → List Cursor}
    (hf : ∀ d, ∀ e ∈ f d, e.rest.length ≤ d.rest.length) (tail : List Char) (l : List Cursor) :
    (l.flatMap f).filter (Cursor.stopsBefore tail) =
      (l.filter (Cursor.stopsBefore tail)).flatMap fun d => (f d).filter (Cursor.stopsBefore tail) := by
  induction l with
  | nil => rfl
  | cons d l ih =>
    rw [List.flatMap_cons, List.filter_append, ih, List.filter_cons]
    by_cases h : Cursor.stopsBefore tail d = true
    · rw [if_pos h, List.flatMap_cons]
    · have hnone : (f d).filter (Cursor.stopsBefore tail) = [] := by
        rw [List.filter_eq_nil_iff]
        intro e he
        have := hf d e he
        simp only [Cursor.stopsBefore, decide_eq_true_eq] at h ⊢
        omega
      rw [if_neg h, hnone, List.nil_append]

theorem SameBefore.flatMap (h : SameBefore tail short long) {f f' : Cursor → List Cursor}
    (hf : ∀ d, ∀ e ∈ f d, e.rest.length ≤ d.rest.length) (hf' : ∀ d, ∀ e ∈ f' d, e.rest.length ≤ d.rest.length)
    (hsame : ∀ d, SameBefore tail (f d) (f' (d.before tail))) :
    SameBefore tail (short.flatMap f) (long.flatMap f') := by
  rw [SameBefore, filter_flatMap_of_forward hf', filter_flatMap_of_forward hf, h, List.flatMap_map, List.map_flatMap]
  exact congrArg (List.flatMap · _) (funext hsame)

end

theorem sameBefore_spanWays (lazily : Bool) (test : Char → Bool) (lead : Option Char) (groups : List (Nat × Taken))
    (tail : List Char) (taken : Taken) (rest : List Char) :
    SameBefore tail ((spanWays lazily test taken rest).map fun e => ⟨lead, e.1, e.2, groups⟩)
      ((spanWays lazily test taken (rest ++ tail)).map fun e => ⟨lead, e.1, e.2, groups⟩) := by
  induction rest generalizing taken with
  | nil =>
    refine sameBefore_of_none (fun d hd => ?_) fun d hd => ?_
    · obtain ⟨e, he, rfl⟩ := List.mem_map.1 hd
      rw [List.mem_singleton.1 he]
    · obtain ⟨e, he, rfl⟩ := List.mem_map.1 hd
      have hfollows : Follows ⟨lead, taken, tail, groups⟩ ⟨lead, e.1, e.2, groups⟩ := follows_spanWays e he
      exact hfollows.rest_le
  | cons x xs ih =>
    have hinOrder : ∀ (more stop : List (Taken × List Char)),
        (inOrder lazily more stop).map (fun e => (⟨lead, e.1, e.2, groups⟩ : Cursor)) =
          inOrder lazily (more.map fun e => ⟨lead, e.1, e.2, groups⟩) (stop.map fun e => ⟨lead, e.1, e.2, groups⟩) := by
      cases lazily <;> simp [inOrder]
    rw [List.cons_append, spanWays, spanWays, hinOrder, hinOrder]
    refine .inOrder ?_ (sameBefore_self ⟨lead, taken, x :: xs, groups⟩) lazily
    split
    · exact ih (taken.push x)
    · exact sameBefore_nil

section

variable {step : Cursor → List Cursor} (hstep : ∀ c, ∀ d ∈ step c, Follows c d) (hlocal : Local step)

include hstep hlocal

theorem local_loopWays (lazily : Bool) (n : Nat) : Local (loopWays step lazily n) := by
  induction n with
  | zero => exact fun c tail => sameBefore_self c
  | succ n ih =>
    intro c tail
    rw [loopWays, loopWays]
    have hforward : ∀ count : Nat, ∀ d, ∀ e ∈ (if count < d.taken.count then loopWays step lazily n d else []),
        e.rest.length ≤ d.rest.length := by
      intro count d e he
      split at he
      · exact (follows_loopWays hstep lazily n d e he).rest_le
      · exact absurd he List.not_mem_nil
    refine .inOrder ((hlocal c tail).flatMap (hforward _) (hforward _) fun d => ?_) (sameBefore_self c) lazily
    show SameBefore tail (if c.taken.count < d.taken.count then loopWays step lazily n d else [])
      (if c.taken.count < d.taken.count then loopWays step lazily n (d.before tail) else [])
    split
    · exact ih d tail
    · exact sameBefore_nil

theorem local_timesWays (n : Nat) : Local (timesWays step n) := by
  induction n with
  | zero => exact fun c tail => sameBefore_self c
  | succ n ih =>
    intro c tail
    have hforward : ∀ d, ∀ e ∈ timesWays step n d, e.rest.length ≤ d.rest.length :=
      fun d e he => (follows_timesWays hstep n d e he).rest_le
    exact (hlocal c tail).flatMap hforward hforward fun d => ih d tail

end

/-- **What stands behind a character has no part in the ways that leave this character over.** -/
theorem local_ways (p : Pattern) : Local (ways p) := by
  have hforward : ∀ p d, ∀ e ∈ ways p d, e.rest.length ≤ d.rest.length := fun p d e he => (follows_ways p d e he).rest_le
  induction p with
  | nothing => exact fun c tail => sameBefore_self c
  | char test =>
    rintro ⟨lead, taken, rest, groups⟩ tail
    cases rest with
    | nil =>
      refine sameBefore_of_none (fun d hd => absurd hd List.not_mem_nil) fun d hd => ?_
      simpa [Cursor.before] using hforward _ _ d hd
    | cons x xs =>
      simp only [ways, Cursor.before, List.cons_append]
      split
      · exact sameBefore_self ⟨lead, taken.push x, xs, groups⟩
      · exact sameBefore_nil
  | span lazily test => exact fun c tail => sameBefore_spanWays lazily test c.lead c.groups tail c.taken c.rest
  | edge test =>
    rintro ⟨lead, taken, rest, groups⟩ tail
    cases rest with
    | nil =>
      refine sameBefore_of_none (fun d hd => ?_) fun d hd => ?_
      · simpa using hforward _ _ d hd
      · simpa [Cursor.before] using hforward _ _ d hd
    | cons x xs =>
      let c : Cursor := ⟨lead, taken, x :: xs, groups⟩
      show SameBefore tail (if test c.previous (some x) then [c] else [])
        (if test c.previous (some x) then [c.before tail] else [])
      split
      · exact sameBefore_self c
      · exact sameBefore_nil
  | seq p q ihp ihq => exact fun c tail => (ihp c tail).flatMap (hforward q) (hforward q) fun d => ihq d tail
  | either p q ihp ihq => exact fun c tail => (ihp c tail).append (ihq c tail)
  | many lazily p ih =>
    intro c tail
    have hlength : (c.before tail).rest.length = c.rest.length + tail.length := List.length_append
    rw [ways, ways, hlength, ← loopWays_add (follows_ways p) lazily (Nat.le_refl _) tail.length]
    exact local_loopWays (follows_ways p) ih lazily _ c tail
  | upTo n lazily p ih => exact local_loopWays (follows_ways p) ih lazily n
  | times n p ih => exact local_timesWays (follows_ways p) ih n
  | group n p ih => exact fun c tail => (ih c tail).map (fun _ => rfl) (fun _ => rfl) fun _ => rfl

/-! ## Matches -/

theorem matchHere_eq (p : Pattern) (lead : Option Char) (text : List Char) :
    p.matchHere lead text = (ways p ⟨lead, ⟨0, []⟩, text, []⟩).head?.map Cursor.found := by
  rw [matchHere, run_eq]
  cases ways p ⟨lead, ⟨0, []⟩, text, []⟩ <;> rfl

/-- the match at the end of a way has taken what is no longer left -/
theorem text_found {lead : Option Char} {text : List Char} {d : Cursor}
    (h : Follows ⟨lead, ⟨0, []⟩, text, []⟩ d) : d.found.text ++ d.rest = text := by
  obtain ⟨cs, hrest, hcount, htrail⟩ := h
  have htext : d.found.text = cs := by
    rw [Cursor.found, Taken.text, hcount, htrail, Nat.zero_add, List.append_nil, ← List.length_reverse,
      List.take_length, List.reverse_reverse]
  rw [htext, ← hrest]

theorem length_found {lead : Option Char} {text : List Char} {d : Cursor}
    (h : Follows ⟨lead, ⟨0, []⟩, text, []⟩ d) : d.found.text.length + d.rest.length = text.length := by
  rw [← List.length_append, text_found h]

/-- a match stands at the front of its text -/
theorem matchHere_front {p : Pattern} {lead : Option Char} {text : List Char} {m : Match}
    (h : p.matchHere lead text = some m) : ∃ back, text = m.text ++ back := by
  rw [matchHere_eq] at h
  obtain ⟨d, hd, rfl⟩ := Option.map_eq_some_iff.1 h
  exact ⟨d.rest, (text_found (follows_ways p _ d (List.mem_of_head? hd))).symm⟩

theorem matchHere_of_short {p : Pattern} {lead : Option Char} {front tail : List Char} {q : Char}
    (h : ∀ m, p.matchHere lead (front ++ q :: tail) = some m → m.text.length ≤ front.length) :
    p.matchHere lead (front ++ q :: tail) =
      ((ways p ⟨lead, ⟨0, []⟩, front ++ [q], []⟩).filter (Cursor.stopsBefore [])).head?.map Cursor.found := by
  have hlong : (⟨lead, ⟨0, []⟩, front ++ q :: tail, []⟩ : Cursor) =
      Cursor.before ⟨lead, ⟨0, []⟩, front ++ [q], []⟩ tail := by
    rw [Cursor.before, List.append_assoc]
    rfl
  have hsame := local_ways p ⟨lead, ⟨0, []⟩, front ++ [q], []⟩ tail
  rw [SameBefore, ← hlong] at hsame
  rw [matchHere_eq] at h ⊢
  have hfollows := follows_ways p ⟨lead, ⟨0, []⟩, front ++ q :: tail, []⟩
  cases hways : ways p ⟨lead, ⟨0, []⟩, front ++ q :: tail, []⟩ with
  | nil =>
    rw [hways, List.filter_nil] at hsame
    rw [List.map_eq_nil_iff.1 hsame.symm]
  | cons d ds =>
    -- the first way is short, so it is the first of those that stop before the tail
    rw [hways] at h hsame hfollows
    have hshort : d.found.text.length ≤ front.length := h _ rfl
    have hlength := length_found (hfollows d List.mem_cons_self)
    rw [List.length_append, List.length_cons] at hlength
    have hstops : Cursor.stopsBefore tail d = true := by
      simp only [Cursor.stopsBefore, decide_eq_true_eq]
      omega
    rw [List.filter_cons_of_pos hstops] at hsame
    obtain ⟨e, es, hfiltered, rfl, -⟩ := List.map_eq_cons_iff.1 hsame.symm
    rw [hfiltered]
    rfl

/-- **Two texts that part behind a character have the same match**, if neither has one that takes the character. -/
theorem matchHere_congr {p : Pattern} {lead : Option Char} {front tail tail' : List Char} {q : Char}
    (h : ∀ m, p.matchHere lead (front ++ q :: tail) = some m → m.text.length ≤ front.length)
    (h' : ∀ m, p.matchHere lead (front ++ q :: tail') = some m → m.text.length ≤ front.length) :
    p.matchHere lead (front ++ q :: tail) = p.matchHere lead (front ++ q :: tail') := by
  rw [matchHere_of_short h, matchHere_of_short h']

end Pattern

end CodeSurvey
