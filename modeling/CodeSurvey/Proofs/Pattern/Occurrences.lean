/-
What matches take, and the matches at all places of a text.

A run takes characters one after another, and `Cursor.forward` is where it then stands. For each of the small patterns
one lemma says when a run over given characters succeeds, and one what a run that has succeeded took.

A search passes over the places within a match. `everyMatch` does not: it has the matches at all places, those within
another included. `findAllFrom_everyMatch`: the two are the same list for a pattern of which no match starts within
another (`Apart`), so that the search hides nothing. `Quiet` says of a part of a text that no match starts there; the
induction is over the text, and carries that the places still to be passed over are quiet.
-/
import CodeSurvey.Proofs.Pattern.Ways

namespace CodeSurvey

/-! ## Cursors that move forward -/

/-- all the characters are taken -/
def Taken.pushAll (t : Taken) (cs : List Char) : Taken := ⟨t.count + cs.length, cs.reverse ++ t.trail⟩

theorem Taken.push_eq (t : Taken) (x : Char) : t.push x = t.pushAll [x] := rfl

theorem Taken.pushAll_append (t : Taken) (cs ds : List Char) : (t.pushAll cs).pushAll ds = t.pushAll (cs ++ ds) := by
  simp [pushAll, Nat.add_assoc]

namespace Cursor

/-- the cursor behind the characters, before the rest -/
def forward (c : Cursor) (cs rest : List Char) : Cursor := { c with taken := c.taken.pushAll cs, rest := rest }

theorem forward_taken (c : Cursor) (cs rest : List Char) : (c.forward cs rest).taken = c.taken.pushAll cs := rfl

theorem forward_groups (c : Cursor) (cs rest : List Char) : (c.forward cs rest).groups = c.groups := rfl

theorem forward_forward (c : Cursor) (cs ds rest rest' : List Char) :
    (c.forward cs rest).forward ds rest' = c.forward (cs ++ ds) rest' := by
  simp [forward, Taken.pushAll_append]

theorem forward_nil {c : Cursor} {rest : List Char} (h : c.rest = rest) : c.forward [] rest = c := by
  obtain ⟨lead, taken, text, groups⟩ := c
  obtain rfl : text = rest := h
  rfl

theorem text_upTo_forward (c : Cursor) (cs rest : List Char) : (c.upTo (c.forward cs rest)).text = cs := by
  have hcount : c.taken.count + cs.length - c.taken.count = cs.reverse.length := by
    rw [List.length_reverse, Nat.add_sub_cancel_left]
  rw [Taken.text, upTo, forward, Taken.pushAll, hcount, List.take_left, List.reverse_reverse]

end Cursor

theorem Taken.text_pushAll (cs : List Char) : (Taken.pushAll ⟨0, []⟩ cs).text = cs :=
  Cursor.text_upTo_forward ⟨none, ⟨0, []⟩, [], []⟩ cs []

namespace Pattern

/-! ## What a run takes -/

section

variable {β : Type} {test : Char → Bool} {k : Cursor → Option β} {b : β} {c : Cursor}

theorem run_append (p q : Pattern) (k : Cursor → Option β) (c : Cursor) : run (p ++ q) k c = run p (run q k) c :=
  rfl

theorem run_edge {test : Option Char → Option Char → Bool} (h : test c.previous c.rest.head? = true) :
    run (edge test) k c = k c := by
  rw [run, if_pos h]

theorem run_char {x : Char} {rest : List Char} (hx : test x = true) (hc : c.rest = x :: rest) :
    run (char test) k c = k (c.forward [x] rest) := by
  simp only [run, hc]
  rw [if_pos hx]
  rfl

/-- A span takes all it can where the run succeeds behind that. -/
theorem runSpan_whole {k : Taken → List Char → Option β} {taken : Taken} {cs rest : List Char}
    (hcs : ∀ x ∈ cs, test x = true) (hrest : ∀ x ∈ rest.head?, test x = false)
    (h : k (taken.pushAll cs) rest = some b) : runSpan test false k taken (cs ++ rest) = some b := by
  induction cs generalizing taken with
  | nil =>
    cases rest with
    | nil => exact h
    | cons x rest =>
      rw [List.nil_append, runSpan, hrest x rfl]
      exact h
  | cons x cs ih =>
    obtain ⟨hx, hothers⟩ := List.forall_mem_cons.1 hcs
    have hk : k ((taken.push x).pushAll cs) rest = some b := by rwa [Taken.push_eq, Taken.pushAll_append]
    rw [List.cons_append, runSpan, if_pos hx, ih hothers hk]
    rfl

theorem run_span {cs rest : List Char} (hcs : ∀ x ∈ cs, test x = true) (hrest : ∀ x ∈ rest.head?, test x = false)
    (hc : c.rest = cs ++ rest) (h : k (c.forward cs rest) = some b) : run (span false test) k c = some b := by
  rw [run, hc]
  exact runSpan_whole hcs hrest h

theorem run_some1 {cs rest : List Char} (hne : cs ≠ []) (hcs : ∀ x ∈ cs, test x = true)
    (hrest : ∀ x ∈ rest.head?, test x = false) (hc : c.rest = cs ++ rest) (h : k (c.forward cs rest) = some b) :
    run (some1 test) k c = some b := by
  obtain ⟨x, cs, rfl⟩ := List.exists_cons_of_ne_nil hne
  rw [some1, run_append, run_char (hcs x List.mem_cons_self) hc]
  refine run_span (fun y hy => hcs y (List.mem_cons_of_mem x hy)) hrest rfl ?_
  rwa [Cursor.forward_forward]

theorem run_exactly_cons (x : Char) (xs : List Char) (k : Cursor → Option β) (c : Cursor) :
    run (exactly (x :: xs)) k c = run (char (· == x)) (run (exactly xs) k) c := by
  cases xs <;> rfl

theorem run_exactly {cs rest : List Char} (hc : c.rest = cs ++ rest) :
    run (exactly cs) k c = k (c.forward cs rest) := by
  induction cs generalizing c with
  | nil =>
    obtain ⟨lead, taken, text, groups⟩ := c
    obtain rfl : text = rest := hc
    rfl
  | cons x cs ih =>
    rw [run_exactly_cons, run_char (by simp) hc, ih rfl, Cursor.forward_forward]
    rfl

theorem run_oneOf_cons (s : String) (ss : List String) (k : Cursor → Option β) (c : Cursor) :
    run (oneOf (s :: ss)) k c = (run (lit s) k c).or (run (oneOf ss) k c) := by
  cases ss with
  | nil =>
    have hnone : run (oneOf []) k c = none := by
      rw [oneOf, run]
      cases c.rest <;> rfl
    rw [hnone, Option.or_none, oneOf]
  | cons s' ss => exact Option.orElse_eq_or

theorem run_group (n : Nat) (p : Pattern) (k : Cursor → Option β) (c : Cursor) :
    run (group n p) k c = run p (fun d => k { d with groups := (n, c.upTo d) :: d.groups }) c :=
  rfl

/-! ### What a run that succeeded took -/

theorem exists_of_run_edge {test : Option Char → Option Char → Bool} (h : run (edge test) k c = some b) :
    test c.previous c.rest.head? = true ∧ k c = some b := by
  by_cases htest : test c.previous c.rest.head? = true
  · rw [run_edge htest] at h
    exact ⟨htest, h⟩
  · rw [run, if_neg htest] at h
    cases h

theorem of_run_char (h : run (char test) k c = some b) :
    ∃ x rest, c.rest = x :: rest ∧ test x = true ∧ k (c.forward [x] rest) = some b := by
  cases hc : c.rest with
  | nil =>
    simp only [run, hc] at h
    cases h
  | cons x rest =>
    by_cases hx : test x = true
    · rw [run_char hx hc] at h
      exact ⟨x, rest, rfl, hx, h⟩
    · simp only [run, hc] at h
      rw [if_neg hx] at h
      cases h

theorem of_run_exactly {cs : List Char} (h : run (exactly cs) k c = some b) :
    ∃ rest, c.rest = cs ++ rest ∧ k (c.forward cs rest) = some b := by
  induction cs generalizing c with
  | nil => exact ⟨c.rest, rfl, by rwa [Cursor.forward_nil rfl]⟩
  | cons x cs ih =>
    rw [run_exactly_cons] at h
    obtain ⟨y, rest, hc, hx, hrun⟩ := of_run_char h
    obtain rfl : y = x := beq_iff_eq.1 hx
    obtain ⟨rest', hrest, hk⟩ := ih hrun
    rw [Cursor.forward_forward] at hk
    exact ⟨rest', hc.trans (congrArg (y :: ·) hrest), hk⟩

theorem of_run_oneOf {ss : List String} (h : run (oneOf ss) k c = some b) :
    ∃ s ∈ ss, ∃ rest, c.rest = s.toList ++ rest ∧ k (c.forward s.toList rest) = some b := by
  induction ss with
  | nil =>
    obtain ⟨-, -, -, hfalse, -⟩ := of_run_char h
    exact nomatch hfalse
  | cons s ss ih =>
    rw [run_oneOf_cons] at h
    rcases Option.or_eq_some_iff.1 h with hs | ⟨-, hothers⟩
    · exact ⟨s, List.mem_cons_self, of_run_exactly hs⟩
    · obtain ⟨s', hs', htaken⟩ := ih hothers
      exact ⟨s', List.mem_cons_of_mem s hs', htaken⟩

theorem of_orTry {lazily : Bool} {more stop : Unit → Option β} (h : orTry lazily more stop = some b) :
    more () = some b ∨ stop () = some b := by
  cases lazily with
  | false => exact (Option.or_eq_some_iff.1 (Option.orElse_eq_or.symm.trans h)).imp_right And.right
  | true => exact (Option.or_eq_some_iff.1 (Option.orElse_eq_or.symm.trans h)).symm.imp_left And.right

theorem run_span_nil (lazily : Bool) (hc : c.rest = []) : run (span lazily test) k c = k c := by
  obtain ⟨lead, taken, text, groups⟩ := c
  obtain rfl : text = [] := hc
  rfl

theorem run_span_cons (lazily : Bool) {x : Char} {xs : List Char} (hc : c.rest = x :: xs) :
    run (span lazily test) k c =
      orTry lazily (fun _ => if test x then run (span lazily test) k (c.forward [x] xs) else none) fun _ => k c := by
  obtain ⟨lead, taken, text, groups⟩ := c
  obtain rfl : text = x :: xs := hc
  rfl

theorem of_run_span {lazily : Bool} (h : run (span lazily test) k c = some b) :
    ∃ cs rest, c.rest = cs ++ rest ∧ (∀ x ∈ cs, test x = true) ∧ k (c.forward cs rest) = some b := by
  induction hc : c.rest generalizing c with
  | nil =>
    rw [run_span_nil lazily hc] at h
    exact ⟨[], [], rfl, nofun, by rwa [Cursor.forward_nil hc]⟩
  | cons x xs ih =>
    rw [run_span_cons lazily hc] at h
    rcases of_orTry h with hmore | hstop
    · by_cases hx : test x = true
      · rw [if_pos hx] at hmore
        obtain ⟨cs, rest, rfl, hcs, hk⟩ := ih hmore rfl
        rw [Cursor.forward_forward] at hk
        exact ⟨x :: cs, rest, rfl, List.forall_mem_cons.2 ⟨hx, hcs⟩, hk⟩
      · rw [if_neg hx] at hmore
        cases hmore
    · exact ⟨[], x :: xs, rfl, nofun, by rwa [Cursor.forward_nil hc]⟩

theorem of_run_some1 (h : run (some1 test) k c = some b) :
    ∃ cs rest, c.rest = cs ++ rest ∧ cs ≠ [] ∧ (∀ x ∈ cs, test x = true) ∧ k (c.forward cs rest) = some b := by
  obtain ⟨x, xs, hc, hx, hspan⟩ := of_run_char (k := run (span false test) k) h
  obtain ⟨cs, rest, hxs, hcs, hk⟩ := of_run_span hspan
  rw [Cursor.forward_forward] at hk
  have hrest : xs = cs ++ rest := hxs
  exact ⟨x :: cs, rest, by rw [hc, hrest, List.cons_append], List.cons_ne_nil x cs, List.forall_mem_cons.2 ⟨hx, hcs⟩, hk⟩

/-! ### Where it stands, if only the rest matters -/

theorem exists_of_run_char (h : run (char test) k c = some b) :
    ∃ x d, c.rest = x :: d.rest ∧ test x = true ∧ k d = some b := by
  obtain ⟨x, rest, hc, hx, hk⟩ := of_run_char h
  exact ⟨x, c.forward [x] rest, hc, hx, hk⟩

theorem exists_of_run_span (h : run (span false test) k c = some b) :
    ∃ cs d, c.rest = cs ++ d.rest ∧ (∀ x ∈ cs, test x = true) ∧ k d = some b := by
  obtain ⟨cs, rest, hc, hcs, hk⟩ := of_run_span h
  exact ⟨cs, c.forward cs rest, hc, hcs, hk⟩

theorem exists_of_run_some1 (h : run (some1 test) k c = some b) :
    ∃ cs d, c.rest = cs ++ d.rest ∧ cs ≠ [] ∧ (∀ x ∈ cs, test x = true) ∧ k d = some b := by
  obtain ⟨cs, rest, hc, hne, hcs, hk⟩ := of_run_some1 h
  exact ⟨cs, c.forward cs rest, hc, hne, hcs, hk⟩

theorem exists_of_run_exactly {cs : List Char} (h : run (exactly cs) k c = some b) :
    ∃ d, c.rest = cs ++ d.rest ∧ k d = some b := by
  obtain ⟨rest, hc, hk⟩ := of_run_exactly h
  exact ⟨c.forward cs rest, hc, hk⟩

theorem exists_of_run_oneOf {ss : List String} (h : run (oneOf ss) k c = some b) :
    ∃ s ∈ ss, ∃ d, c.rest = s.toList ++ d.rest ∧ k d = some b := by
  obtain ⟨s, hs, rest, hc, hk⟩ := of_run_oneOf h
  exact ⟨s, hs, c.forward s.toList rest, hc, hk⟩

/-- the text that stands there is taken, if no other one stands there as well -/
theorem run_oneOf {ss : List String} {s : String} {rest : List Char} (hs : s ∈ ss) (hc : c.rest = s.toList ++ rest)
    (hothers : ∀ s' ∈ ss, s'.toList <+: c.rest → s' = s) (h : k (c.forward s.toList rest) = some b) :
    run (oneOf ss) k c = some b := by
  induction ss with
  | nil => exact absurd hs List.not_mem_nil
  | cons s' ss ih =>
    rw [run_oneOf_cons]
    by_cases heq : s' = s
    · rw [heq, lit, run_exactly hc, h, Option.some_or]
    · have hnone : run (lit s') k c = none := by
        refine Option.eq_none_iff_forall_ne_some.2 fun b' hb' => heq ?_
        obtain ⟨rest', hd, -⟩ := of_run_exactly hb'
        exact hothers s' List.mem_cons_self ⟨rest', hd.symm⟩
      have hmem := (List.mem_cons.1 hs).resolve_left fun hss => heq hss.symm
      rw [hnone, Option.none_or]
      exact ih hmem fun t ht => hothers t (List.mem_cons_of_mem s' ht)

/-- a group takes what its pattern does -/
theorem exists_of_run_group {n : Nat} (h : run (group n (some1 test)) k c = some b) :
    ∃ cs d, c.rest = cs ++ d.rest ∧ cs ≠ [] ∧ (∀ x ∈ cs, test x = true) ∧ k d = some b := by
  obtain ⟨cs, d, hc, hne, hcs, hk⟩ := exists_of_run_some1 h
  exact ⟨cs, { d with groups := (n, c.upTo d) :: d.groups }, hc, hne, hcs, hk⟩

end

/-! ## Matches at all places -/

variable {p : Pattern}

/-- the matches at all places of the text, those that start within another included -/
def everyMatch (p : Pattern) (lead : Option Char) : List Char → List Match
  | [] => (p.matchHere lead []).toList
  | c :: cs => (p.matchHere lead (c :: cs)).toList ++ everyMatch p (some c) cs

/-- no match starts at a character of the first text, which the second one follows -/
def Quiet (p : Pattern) : Option Char → List Char → List Char → Prop
  | _, [], _ => True
  | lead, c :: cs, back => p.matchHere lead (c :: cs ++ back) = none ∧ Quiet p (some c) cs back

theorem Quiet.append {lead : Option Char} {front middle back : List Char} (h : p.Quiet lead front (middle ++ back))
    (h' : ∀ lead, p.Quiet lead middle back) : p.Quiet lead (front ++ middle) back := by
  induction front generalizing lead with
  | nil => exact h' lead
  | cons c front ih =>
    obtain ⟨hnone, hothers⟩ := h
    rw [← List.append_assoc] at hnone
    exact ⟨hnone, ih hothers⟩

/-- a part of a text is quiet if no match starts with one of its characters -/
theorem quiet_of_forall {front back : List Char}
    (h : ∀ c ∈ front, ∀ lead rest, p.matchHere lead (c :: rest) = none) (lead : Option Char) :
    p.Quiet lead front back := by
  induction front generalizing lead with
  | nil => trivial
  | cons c front ih =>
    exact ⟨h c List.mem_cons_self lead _, ih (fun d hd => h d (List.mem_cons_of_mem c hd)) (some c)⟩

/-- no match starts within another -/
def Apart (p : Pattern) : Prop :=
  ∀ lead c front back m, p.matchHere lead (c :: front ++ back) = some m → m.text = c :: front →
    p.Quiet (some c) front back

/-- **The search hides no match** of a pattern whose matches are apart. -/
theorem findAllFrom_everyMatch (hp : p.Apart) {text : List Char} {lead : Option Char} {skip : Nat}
    (hskip : skip ≤ text.length) (hquiet : p.Quiet lead (text.take skip) (text.drop skip)) :
    p.findAllFrom lead skip text = p.everyMatch lead text := by
  induction text generalizing lead skip with
  | nil =>
    obtain rfl : skip = 0 := Nat.le_zero.1 hskip
    rfl
  | cons c cs ih =>
    cases skip with
    | succ n =>
      rw [List.take_succ_cons, List.drop_succ_cons] at hquiet
      obtain ⟨hnone, hothers⟩ := hquiet
      rw [List.cons_append, List.take_append_drop] at hnone
      rw [findAllFrom, everyMatch, hnone]
      exact ih (Nat.le_of_succ_le_succ hskip) hothers
    | zero =>
      rw [findAllFrom, everyMatch]
      cases hhere : p.matchHere lead (c :: cs) with
      | none => exact ih (Nat.zero_le _) trivial
      | some m =>
        refine congrArg (m :: ·) ?_
        obtain ⟨back, hfront⟩ := matchHere_front hhere
        cases htext : m.text with
        | nil => exact ih (Nat.zero_le _) trivial
        | cons d front =>
          rw [htext, List.cons_append] at hfront
          obtain ⟨rfl, rfl⟩ := List.cons.inj hfront
          refine ih (by simp) ?_
          rw [List.length_cons, Nat.add_sub_cancel, List.take_left, List.drop_left]
          exact hp lead c front back m hhere htext

theorem findAll_everyMatch (hp : p.Apart) (s : String) : p.findAll s = p.everyMatch none s.toList :=
  findAllFrom_everyMatch hp (Nat.zero_le _) trivial

end Pattern

end CodeSurvey
