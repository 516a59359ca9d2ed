/-
Runs over options and repetitions.

One lemma says when a run takes an option, when it passes over one, and which of the two a run that succeeded did. A
repetition of a pattern takes one piece after another, as long as there is one (`run_star`); a lazy run of characters
stops at the first place behind which the run succeeds (`of_run_lazily`), so before a pattern that starts with a
delimiter at one of these (`run_lazily`). These are inductions on what is taken, for the lazy runs with the places that
were tried in vain.

A pattern without edges does not look at the character before it (`matchHere_lead`).
-/
import Mathlib.Data.List.Forall2
import CodeSurvey.Proofs.Pattern.Occurrences

namespace CodeSurvey

theorem Cursor.previous_forward (c : Cursor) (cs rest : List Char) :
    (c.forward cs rest).previous = cs.getLast?.or c.previous := by
  rw [List.getLast?_eq_head?_reverse]
  cases h : cs.reverse with
  | nil => simp [previous, forward, Taken.pushAll, h]
  | cons x xs => simp [previous, forward, Taken.pushAll, h]

namespace Pattern

section

variable {β : Type} {test : Char → Bool} {p : Pattern} {k : Cursor → Option β} {b : β} {c : Cursor}

theorem exists_of_run (h : run p k c = some b) : ∃ d ∈ ways p c, k d = some b := by
  rw [run_eq] at h
  exact List.exists_of_findSome?_eq_some h

/-! ## Options -/

/-- the continuation, where the run has moved on from the cursor -/
def onward (c : Cursor) (k : Cursor → Option β) (d : Cursor) : Option β :=
  if c.taken.count < d.taken.count then k d else none

theorem onward_forward (c : Cursor) (k : Cursor → Option β) {cs : List Char} (hcs : cs ≠ []) (rest : List Char) :
    onward c k (c.forward cs rest) = k (c.forward cs rest) := by
  have hpos := List.length_pos_iff.2 hcs
  exact if_pos (Nat.lt_add_of_pos_right hpos)

theorem of_onward {d : Cursor} (h : onward c k d = some b) : k d = some b := by
  rw [onward] at h
  split at h
  · exact h
  · cases h

theorem run_opt (p : Pattern) (k : Cursor → Option β) (c : Cursor) :
    run (opt p) k c = (run p (onward c k) c).or (k c) :=
  Option.orElse_eq_or

theorem run_opt_take (h : run p (onward c k) c = some b) : run (opt p) k c = some b := by
  rw [run_opt, h, Option.some_or]

theorem run_opt_pass (h : run p (onward c k) c = none) : run (opt p) k c = k c := by
  rw [run_opt, h, Option.none_or]

theorem exists_of_run_opt (h : run (opt p) k c = some b) :
    run p (onward c k) c = some b ∨ run p (onward c k) c = none ∧ k c = some b := by
  rw [run_opt] at h
  exact Option.or_eq_some_iff.1 h

/-! ## Repetitions -/

theorem length_le_flatten {pieces : List (List Char)} (h : ∀ piece ∈ pieces, piece ≠ []) :
    pieces.length ≤ pieces.flatten.length := by
  induction pieces with
  | nil => exact Nat.le_refl 0
  | cons piece pieces ih =>
    obtain ⟨hne, hothers⟩ := List.forall_mem_cons.1 h
    have hpos := List.length_pos_iff.2 hne
    have hle := ih hothers
    rw [List.flatten_cons, List.length_append, List.length_cons]
    omega

theorem runLoop_pieces {behind : List Char → Prop} {pieces : List (List Char)} {rest : List Char}
    (hpieces : ∀ piece ∈ pieces, piece ≠ [] ∧ (∀ back, behind (piece ++ back)) ∧
      ∀ (k : Cursor → Option β) (c : Cursor) (back : List Char), behind back → c.rest = piece ++ back →
        k (c.forward piece back) = some b → run p k c = some b)
    (hbehind : behind rest) (hstop : ∀ (k : Cursor → Option β) (c : Cursor), c.rest = rest → run p k c = none)
    {n : Nat} (hn : pieces.length ≤ n) (hc : c.rest = pieces.flatten ++ rest)
    (h : k (c.forward pieces.flatten rest) = some b) : runLoop (run p) false k n c = some b := by
  induction pieces generalizing c n with
  | nil =>
    have hrest : c.rest = rest := hc
    rw [List.flatten_nil, Cursor.forward_nil hrest] at h
    cases n with
    | zero => exact h
    | succ n =>
      have hnone : run p (onward c (runLoop (run p) false k n)) c = none := hstop _ c hc
      rw [runLoop, orTry, if_neg Bool.false_ne_true]
      exact (congrArg (·.orElse fun _ => k c) hnone).trans h
  | cons piece pieces ih =>
    obtain ⟨⟨hne, -, htake⟩, hothers⟩ := List.forall_mem_cons.1 hpieces
    rw [List.flatten_cons, List.append_assoc] at hc
    cases n with
    | zero => exact absurd hn (Nat.not_succ_le_zero _)
    | succ n =>
      have hback : behind (pieces.flatten ++ rest) := by
        cases pieces with
        | nil => exact hbehind
        | cons piece' pieces =>
          rw [List.flatten_cons, List.append_assoc]
          exact (hothers piece' List.mem_cons_self).2.1 _
      have hmore : runLoop (run p) false k n (c.forward piece (pieces.flatten ++ rest)) = some b := by
        refine ih hothers (Nat.le_of_succ_le_succ hn) rfl ?_
        rwa [Cursor.forward_forward, ← List.flatten_cons]
      have hrun : run p (onward c (runLoop (run p) false k n)) c = some b := by
        refine htake _ c _ hback hc ?_
        rwa [onward_forward c _ hne]
      rw [runLoop, orTry, if_neg Bool.false_ne_true]
      exact congrArg (·.orElse fun _ => k c) hrun

/-- A repetition takes piece after piece, and stops where there is none. -/
theorem run_star (behind : List Char → Prop) {pieces : List (List Char)} {rest : List Char}
    (hpieces : ∀ piece ∈ pieces, piece ≠ [] ∧ (∀ back, behind (piece ++ back)) ∧
      ∀ (k : Cursor → Option β) (c : Cursor) (back : List Char), behind back → c.rest = piece ++ back →
        k (c.forward piece back) = some b → run p k c = some b)
    (hbehind : behind rest) (hstop : ∀ (k : Cursor → Option β) (c : Cursor), c.rest = rest → run p k c = none)
    (hc : c.rest = pieces.flatten ++ rest) (h : k (c.forward pieces.flatten rest) = some b) :
    run (star p) k c = some b := by
  refine runLoop_pieces hpieces hbehind hstop ?_ hc h
  rw [hc, List.length_append]
  have hlength := length_le_flatten fun piece hpiece => (hpieces piece hpiece).1
  omega

/-! ## Lazy runs -/

theorem run_lazily_cons {x : Char} {xs : List Char} (hc : c.rest = x :: xs) :
    run (span true test) k c = (k c).or (if test x then run (span true test) k (c.forward [x] xs) else none) := by
  rw [run_span_cons true hc]
  exact Option.orElse_eq_or

/-- What a lazy run that succeeded took: behind less of it the run fails. -/
theorem of_run_lazily (h : run (span true test) k c = some b) :
    ∃ cs rest, c.rest = cs ++ rest ∧ (∀ x ∈ cs, test x = true) ∧ k (c.forward cs rest) = some b ∧
      ∀ front back, cs = front ++ back → back ≠ [] → k (c.forward front (back ++ rest)) = none := by
  induction hc : c.rest generalizing c with
  | nil =>
    obtain ⟨cs, rest, hsplit, hcs, hk⟩ := of_run_span h
    rw [hc] at hsplit
    obtain ⟨rfl, rfl⟩ := List.append_eq_nil_iff.1 hsplit.symm
    exact ⟨[], [], rfl, hcs, hk, fun front back hnil hne => absurd (List.append_eq_nil_iff.1 hnil.symm).2 hne⟩
  | cons x xs ih =>
    rw [run_lazily_cons hc] at h
    rcases Option.or_eq_some_iff.1 h with hstop | ⟨hnone, hmore⟩
    · exact ⟨[], x :: xs, rfl, nofun, by rwa [Cursor.forward_nil hc],
        fun front back hnil hne => absurd (List.append_eq_nil_iff.1 hnil.symm).2 hne⟩
    · by_cases hx : test x = true
      · rw [if_pos hx] at hmore
        obtain ⟨cs, rest, rfl, hcs, hk, hvain⟩ := ih hmore rfl
        rw [Cursor.forward_forward] at hk
        refine ⟨x :: cs, rest, rfl, List.forall_mem_cons.2 ⟨hx, hcs⟩, hk, fun front back hsplit hne => ?_⟩
        rcases List.cons_eq_append_iff.1 hsplit with ⟨rfl, rfl⟩ | ⟨front', rfl, hfront⟩
        · rwa [List.cons_append, Cursor.forward_nil hc]
        · have hback := hvain front' back hfront hne
          rwa [Cursor.forward_forward] at hback
      · rw [if_neg hx] at hmore
        cases hmore

theorem isSome_orTry (lazily : Bool) {more stop : Unit → Option β} :
    (orTry lazily more stop).isSome = true ↔ (more ()).isSome = true ∨ (stop ()).isSome = true := by
  cases lazily <;> simp [orTry, Option.orElse_eq_or, Option.isSome_or, or_comm]

/-- A run of characters succeeds if it can take some behind which the run succeeds. -/
theorem isSome_run_span (lazily : Bool) {cs rest : List Char} (hcs : ∀ x ∈ cs, test x = true) (hc : c.rest = cs ++ rest)
    (h : (k (c.forward cs rest)).isSome = true) : (run (span lazily test) k c).isSome = true := by
  induction cs generalizing c with
  | nil =>
    have hrest : c.rest = rest := hc
    rw [Cursor.forward_nil hrest] at h
    cases hrest : c.rest with
    | nil => rwa [run_span_nil lazily hrest]
    | cons x xs =>
      rw [run_span_cons lazily hrest, isSome_orTry]
      exact .inr h
  | cons x cs ih =>
    obtain ⟨hx, hothers⟩ := List.forall_mem_cons.1 hcs
    rw [run_span_cons lazily hc, isSome_orTry, if_pos hx]
    exact .inl (ih hothers rfl (by rwa [Cursor.forward_forward]))

/-- **A lazy run ends at the first delimiter behind which the run succeeds.** -/
theorem run_lazily {delimiter : Char} {cs rest : List Char} (hcs : ∀ x ∈ cs, test x = true)
    (hvain : ∀ front back, cs = front ++ delimiter :: back →
      k (c.forward (front ++ [delimiter]) (back ++ delimiter :: rest)) = none)
    (hc : c.rest = cs ++ delimiter :: rest) (h : k (c.forward (cs ++ [delimiter]) rest) = some b) :
    run (span true test) (run (char (· == delimiter)) k) c = some b := by
  have hmark : ∀ {d : Cursor} {back : List Char}, d.rest = delimiter :: back →
      run (char (· == delimiter)) k d = k (d.forward [delimiter] back) :=
    fun hd => run_char (beq_self_eq_true delimiter) hd
  induction cs generalizing c with
  | nil =>
    rw [List.nil_append] at h
    rw [run_lazily_cons hc, hmark hc, h, Option.some_or]
  | cons x cs ih =>
    obtain ⟨hx, hothers⟩ := List.forall_mem_cons.1 hcs
    have hnone : run (char (· == delimiter)) k c = none := by
      by_cases heq : x = delimiter
      · subst heq
        rw [hmark hc]
        exact hvain [] cs rfl
      · have hrest : c.rest = x :: (cs ++ delimiter :: rest) := hc
        simp only [run, hrest]
        rw [if_neg (by simpa using heq)]
    rw [run_lazily_cons hc, hnone, Option.none_or, if_pos hx]
    refine ih hothers (fun front back hfront => ?_) rfl ?_
    · rw [Cursor.forward_forward]
      exact hvain (x :: front) back (by rw [hfront, List.cons_append])
    · rwa [Cursor.forward_forward]

end

/-! ## Related ways -/

/-- related cursors have related ways, one by one -/
def Lifts (R S : Cursor → Cursor → Prop) (f : Cursor → List Cursor) : Prop :=
  ∀ ⦃c d⦄, R c d → List.Forall₂ S (f c) (f d)

section

variable {R S T : Cursor → Cursor → Prop} {f g : Cursor → List Cursor}

theorem Lifts.flatMap (hf : Lifts R S f) (hg : Lifts S T g) : Lifts R T fun c => (f c).flatMap g :=
  fun _ _ h => List.rel_flatMap (hf h) hg

theorem Lifts.imp (hf : Lifts R S f) (h : ∀ c d, S c d → T c d) : Lifts R T f :=
  fun _ _ hcd => (hf hcd).imp h

theorem forall₂_inOrder {α β : Type} {R : α → β → Prop} (lazily : Bool) {more stop : List α} {more' stop' : List β}
    (hmore : List.Forall₂ R more more') (hstop : List.Forall₂ R stop stop') :
    List.Forall₂ R (inOrder lazily more stop) (inOrder lazily more' stop') := by
  cases lazily
  · exact List.rel_append hmore hstop
  · exact List.rel_append hstop hmore

/-- of two related moves both go forward or none does -/
def InStep (R : Cursor → Cursor → Prop) : Prop :=
  ∀ ⦃c d e f⦄, R c d → R e f → (c.taken.count < e.taken.count ↔ d.taken.count < f.taken.count)

theorem lifts_loopWays {step : Cursor → List Cursor} (hR : InStep R) (h : Lifts R R step) (lazily : Bool) (n : Nat) :
    Lifts R R (loopWays step lazily n) := by
  induction n with
  | zero => exact fun _ _ hcd => .cons hcd .nil
  | succ n ih =>
    intro c d hcd
    rw [loopWays, loopWays]
    refine forall₂_inOrder lazily (List.rel_flatMap (h hcd) fun e f hef => ?_) (.cons hcd .nil)
    simp only [hR hcd hef]
    split
    · exact ih hef
    · exact .nil

theorem lifts_many {p : Pattern} (hR : InStep R) (h : Lifts R R (ways p)) (lazily : Bool) :
    Lifts R R (ways (.many lazily p)) := by
  intro c d hcd
  have hloop := lifts_loopWays hR h lazily (c.rest.length + d.rest.length) hcd
  rwa [loopWays_add (follows_ways p) lazily (Nat.le_refl _), Nat.add_comm,
    loopWays_add (follows_ways p) lazily (Nat.le_refl _)] at hloop

theorem lifts_timesWays {step : Cursor → List Cursor} (h : Lifts R R step) (n : Nat) :
    Lifts R R (timesWays step n) := by
  induction n with
  | zero => exact fun _ _ hcd => .cons hcd .nil
  | succ n ih => exact h.flatMap ih

end

/-! ## The character before a match -/

/-- no edge of the pattern tells two characters before it apart -/
def SameEdges (lead lead' : Option Char) : Pattern → Prop
  | nothing | char _ | span _ _ => True
  | edge test => ∀ next, test lead next = test lead' next
  | seq p q | either p q => p.SameEdges lead lead' ∧ q.SameEdges lead lead'
  | many _ p | upTo _ _ p | times _ p | group _ p => p.SameEdges lead lead'

/-- the same cursor behind another character -/
def OtherLead (lead lead' : Option Char) (c d : Cursor) : Prop := c.lead = lead ∧ d = { c with lead := lead' }

theorem inStep_otherLead (lead lead' : Option Char) : InStep (OtherLead lead lead') := by
  rintro c _ e _ ⟨-, rfl⟩ ⟨-, rfl⟩
  exact Iff.rfl

theorem lifts_otherLead {p : Pattern} {lead lead' : Option Char} (hp : p.SameEdges lead lead') :
    Lifts (OtherLead lead lead') (OtherLead lead lead') (ways p) := by
  have hstep := inStep_otherLead lead lead'
  induction p with
  | nothing => exact fun _ _ h => .cons h .nil
  | char test =>
    rintro ⟨lead, taken, rest, groups⟩ _ ⟨rfl, rfl⟩
    cases rest with
    | nil => exact .nil
    | cons x xs =>
      simp only [ways]
      split
      · exact .cons ⟨rfl, rfl⟩ .nil
      · exact .nil
  | span lazily test =>
    rintro c _ ⟨rfl, rfl⟩
    rw [ways, ways, List.forall₂_map_left_iff, List.forall₂_map_right_iff]
    exact List.forall₂_same.2 fun _ _ => ⟨rfl, rfl⟩
  | edge test =>
    rintro ⟨lead, ⟨count, trail⟩, rest, groups⟩ _ ⟨rfl, rfl⟩
    have hsame : test (Cursor.previous ⟨lead, ⟨count, trail⟩, rest, groups⟩) rest.head? =
        test (Cursor.previous ⟨lead', ⟨count, trail⟩, rest, groups⟩) rest.head? := by
      cases trail with
      | nil => exact hp rest.head?
      | cons => rfl
    simp only [ways, hsame]
    split
    · exact .cons ⟨rfl, rfl⟩ .nil
    · exact .nil
  | seq p q ihp ihq => exact (ihp hp.1).flatMap (ihq hp.2)
  | either p q ihp ihq => exact fun _ _ h => List.rel_append (ihp hp.1 h) (ihq hp.2 h)
  | many lazily p ih => exact lifts_many hstep (ih hp) lazily
  | upTo n lazily p ih => exact lifts_loopWays hstep (ih hp) lazily n
  | times n p ih => exact lifts_timesWays (ih hp) n
  | group n p ih =>
    rintro c _ ⟨rfl, rfl⟩
    rw [ways, ways, List.forall₂_map_left_iff, List.forall₂_map_right_iff]
    refine (ih hp ⟨rfl, rfl⟩).imp ?_
    rintro e _ ⟨hlead, rfl⟩
    exact ⟨hlead, rfl⟩

/-- **A pattern matches alike behind two characters** that none of its edges tells apart. -/
theorem matchHere_sameEdges {p : Pattern} {lead lead' : Option Char} (hp : p.SameEdges lead lead') (text : List Char) :
    p.matchHere lead text = p.matchHere lead' text := by
  have hways := lifts_otherLead hp (c := ⟨lead, ⟨0, []⟩, text, []⟩) ⟨rfl, rfl⟩
  rw [matchHere_eq, matchHere_eq]
  generalize ways p ⟨lead, ⟨0, []⟩, text, []⟩ = ways₁ at hways ⊢
  generalize ways p _ = ways₂ at hways ⊢
  cases hways with
  | nil => rfl
  | cons h _ =>
    obtain ⟨-, rfl⟩ := h
    rfl

/-- no part of the pattern looks at the character before it -/
def edgeFree : Pattern → Bool
  | nothing | char _ | span _ _ => true
  | edge _ => false
  | seq p q | either p q => p.edgeFree && q.edgeFree
  | many _ p | upTo _ _ p | times _ p | group _ p => p.edgeFree

theorem sameEdges_of_edgeFree {p : Pattern} (hp : p.edgeFree = true) (lead lead' : Option Char) :
    p.SameEdges lead lead' := by
  induction p with
  | nothing | char | span => trivial
  | edge => exact nomatch hp
  | seq p q ihp ihq | either p q ihp ihq =>
    obtain ⟨hp, hq⟩ := Bool.and_eq_true_iff.1 hp
    exact ⟨ihp hp, ihq hq⟩
  | many _ p ih | upTo _ _ p ih | times _ p ih | group _ p ih => exact ih hp

theorem SameEdges.seq {p q : Pattern} {lead lead' : Option Char} (hp : p.SameEdges lead lead')
    (hq : q.edgeFree = true) : (p ++ q).SameEdges lead lead' :=
  ⟨hp, sameEdges_of_edgeFree hq lead lead'⟩

/-- A pattern without edges matches behind any character alike. -/
theorem matchHere_lead {p : Pattern} (hp : p.edgeFree = true) (lead lead' : Option Char) (text : List Char) :
    p.matchHere lead text = p.matchHere lead' text :=
  matchHere_sameEdges (sameEdges_of_edgeFree hp lead lead') text

end Pattern

end CodeSurvey
