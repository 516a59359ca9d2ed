/-
Patterns that start at a line and pass over blanks.

What a match took before has no part in how a pattern without edges goes on: its ways behind a text come in pairs with
its ways from there on, and their groups have the same texts (`lifts_shifted`). So a pattern that is a line start, a gap
and a core matches at the start of a line exactly if its core does behind the blanks, and with the same groups
(`LineLed.matchHere_gap`). The core starts with no blank, so the gap is all of them.
-/
import CodeSurvey.Proofs.Pattern.Insertions
import CodeSurvey.Proofs.Text.Cutting
import CodeSurvey.Proofs.Trace.Calls

namespace CodeSurvey

open Text
open Tracer (span_unique)
open Pattern.Insertion (taking taking_push taking_pushAll ways_span forall₂_spanWays)

namespace Pattern

/-! ## Behind what was taken -/

/-- the groups with their texts -/
def groupTexts (groups : List (Nat × Taken)) : List (Nat × List Char) := groups.map fun g => (g.1, g.2.text)

/-- the same place of two matches, the second of which took a text before -/
inductive Shifted (front : List Char) : Cursor → Cursor → Prop
  | intro {lead lead' : Option Char} {u rest : List Char} {groups groups' : List (Nat × Taken)}
    (h : groupTexts groups = groupTexts groups') :
    Shifted front ⟨lead, taking u, rest, groups⟩ ⟨lead', taking (front ++ u), rest, groups'⟩

theorem text_upTo_taking (u u' : List Char) (lead lead' : Option Char) (rest rest' : List Char)
    (groups groups' : List (Nat × Taken)) :
    (Cursor.upTo ⟨lead, taking u, rest, groups⟩ ⟨lead', taking u', rest', groups'⟩).text = u'.drop u.length := by
  simp only [Cursor.upTo, Taken.text, taking, Taken.pushAll, Nat.zero_add, List.append_nil, List.take_reverse,
    List.reverse_reverse]
  by_cases hle : u.length ≤ u'.length
  · rw [Nat.sub_sub_self hle]
  · rw [List.drop_eq_nil_of_le (by omega), List.drop_eq_nil_of_le (by omega)]

theorem inStep_shifted (front : List Char) : InStep (Shifted front) := by
  rintro _ _ _ _ ⟨-⟩ ⟨-⟩
  simp [taking, Taken.pushAll]

theorem lifts_shifted {p : Pattern} (hp : p.edgeFree = true) (front : List Char) :
    Lifts (Shifted front) (Shifted front) (ways p) := by
  induction p with
  | nothing => exact fun _ _ h => .cons h .nil
  | char test =>
    rintro _ _ ⟨h⟩
    rename_i rest _ _
    cases rest with
    | nil => exact .nil
    | cons x xs =>
      simp only [ways]
      split
      · rw [taking_push, taking_push, List.append_assoc]
        exact .cons (.intro h) .nil
      · exact .nil
  | span lazily test =>
    rintro _ _ ⟨h⟩
    rw [ways_span, ways_span]
    refine forall₂_spanWays fun cs back _ => ?_
    rw [taking_pushAll, taking_pushAll, List.append_assoc]
    exact .cons (.intro h) .nil
  | edge => exact absurd hp Bool.false_ne_true
  | seq p q ihp ihq =>
    obtain ⟨hp, hq⟩ := Bool.and_eq_true_iff.1 hp
    exact (ihp hp).flatMap (ihq hq)
  | either p q ihp ihq =>
    obtain ⟨hp, hq⟩ := Bool.and_eq_true_iff.1 hp
    exact fun _ _ h => List.rel_append (ihp hp h) (ihq hq h)
  | many lazily p ih => exact lifts_many (inStep_shifted front) (ih hp) lazily
  | upTo n lazily p ih => exact lifts_loopWays (inStep_shifted front) (ih hp) lazily n
  | times n p ih => exact lifts_timesWays (ih hp) n
  | group n p ih =>
    rintro _ _ ⟨h⟩
    rw [ways, ways, List.forall₂_map_left_iff, List.forall₂_map_right_iff]
    refine (ih hp (.intro h)).imp ?_
    rintro _ _ ⟨hgroups⟩
    refine .intro ?_
    simp only [groupTexts, List.map_cons, text_upTo_taking] at hgroups ⊢
    rw [hgroups, List.length_append, ← List.drop_drop, List.drop_left]

end Pattern

/-- the match with more text before it -/
def Match.behind (front : List Char) (m : Match) : Match := ⟨front ++ m.text, m.groups⟩

namespace Pattern

theorem Shifted.found {front : List Char} {c d : Cursor} (h : Shifted front c d) :
    d.found = c.found.behind front := by
  obtain ⟨hgroups⟩ := h
  simp only [Cursor.found, Match.behind, taking, Taken.text_pushAll, Match.mk.injEq, true_and]
  exact hgroups.symm

theorem run_found (p : Pattern) (c : Cursor) : p.run (fun d => some d.found) c = (ways p c).head?.map Cursor.found := by
  rw [run_eq]
  cases ways p c <;> rfl

/-- **Behind a text a pattern without edges matches as from there on.** -/
theorem run_behind {p : Pattern} (hp : p.edgeFree = true) (lead : Option Char) (front rest : List Char) :
    p.run (fun d => some d.found) ⟨lead, taking front, rest, []⟩ =
      (p.matchHere none rest).map (Match.behind front) := by
  have hstart : Shifted front ⟨none, taking [], rest, []⟩ ⟨lead, taking (front ++ []), rest, []⟩ := .intro rfl
  have hways := lifts_shifted hp front hstart
  rw [List.append_nil] at hways
  rw [run_found, matchHere_eq]
  cases hfirst : ways p ⟨none, taking [], rest, []⟩ with
  | nil =>
    rw [hfirst, List.forall₂_nil_left_iff] at hways
    rw [hways]
    exact (congrArg (fun cs => (cs.head?.map Cursor.found).map (Match.behind front)) hfirst).symm
  | cons c cs =>
    rw [hfirst] at hways
    obtain ⟨d, ds, hcd, -, hsecond⟩ := List.forall₂_cons_left_iff.1 hways
    rw [hsecond]
    exact (congrArg some hcd.found).trans
      (congrArg (fun cs => (cs.head?.map Cursor.found).map (Match.behind front)) hfirst).symm

/-- a match of a pattern with a character at its end ends with such a character -/
theorem getLast?_of_char {p : Pattern} {test : Char → Bool} {lead : Option Char} {text : List Char} {m : Match}
    (h : (p ++ .char test).matchHere lead text = some m) : ∃ c, m.text.getLast? = some c ∧ test c = true := by
  obtain ⟨d, hd, hend⟩ := exists_of_run (p := p) (k := run (.char test) fun d => some d.found) h
  obtain ⟨c, rest, -, hc, hfound⟩ := of_run_char hend
  obtain rfl := Option.some.inj hfound
  obtain ⟨cs, -, hcount, htrail⟩ := follows_ways p _ d hd
  refine ⟨c, ?_, hc⟩
  have htaken : d.taken = taking cs := by
    show (⟨d.taken.count, d.taken.trail⟩ : Taken) = taking cs
    rw [hcount, htrail]
    rfl
  rw [Cursor.found, Cursor.forward_taken, htaken, taking_pushAll, taking, Taken.text_pushAll, List.getLast?_concat]

/-! ## Blanks at the start of a line -/

/-- a line starts behind the character -/
def startsLine (lead : Option Char) : Bool := lead.isNone || lead == some '\n'

/-- the pattern is a line start, a gap and a core, of which no match starts or ends with a blank -/
structure LineLed (p core : Pattern) : Prop where
  runs : ∀ (k : Cursor → Option Match) (c : Cursor), p.run k c = lineStart.run (gap.run (core.run k)) c
  free : core.edgeFree = true
  starts : ∀ {text : List Char} {m : Match}, core.matchHere none text = some m →
    ∃ c cs, text = c :: cs ∧ isBlank c = false
  ends : ∀ {text : List Char} {m : Match}, core.matchHere none text = some m →
    ∃ c, m.text.getLast? = some c ∧ isBlank c = false

namespace LineLed

variable {p core : Pattern} (h : LineLed p core)

include h

theorem matchHere_of_not_startsLine {lead : Option Char} (hlead : startsLine lead = false) (text : List Char) :
    p.matchHere lead text = none := by
  rw [matchHere, h.runs, lineStart, run, if_neg]
  exact Bool.not_eq_true _ ▸ hlead

/-- **At the start of a line the pattern matches if its core does behind the blanks.** -/
theorem matchHere_gap {lead : Option Char} (hlead : startsLine lead = true) {blanks rest : List Char}
    (hblanks : Blank blanks) (hrest : ∀ c ∈ rest.head?, isBlank c = false) :
    p.matchHere lead (blanks ++ rest) = (core.matchHere none rest).map (Match.behind blanks) := by
  rw [matchHere, h.runs, lineStart, run_edge hlead]
  cases hcore : core.matchHere none rest with
  | some m =>
    refine run_span hblanks hrest rfl ?_
    exact (run_behind h.free lead blanks rest).trans (congrArg (Option.map (Match.behind blanks)) hcore)
  | none =>
    refine Option.eq_none_iff_forall_ne_some.2 fun m hm => ?_
    obtain ⟨cs, rest', hsplit, hcs, hrun⟩ := of_run_span hm
    have hbehind : (core.matchHere none rest').map (Match.behind cs) = some m :=
      (run_behind h.free lead cs rest').symm.trans hrun
    obtain ⟨m', hm', -⟩ := Option.map_eq_some_iff.1 hbehind
    obtain ⟨c, back, rfl, hc⟩ := h.starts hm'
    have hsame := (span_unique hsplit hblanks hrest hcs (by simpa using hc)).2
    rw [hsame, hm'] at hcore
    cases hcore

/-- where the core does not match behind the blanks, the pattern does not match before them -/
theorem matchHere_eq_none (lead : Option Char) {blanks rest : List Char} (hblanks : Blank blanks)
    (hrest : ∀ c ∈ rest.head?, isBlank c = false) (hcore : core.matchHere none rest = none) :
    p.matchHere lead (blanks ++ rest) = none := by
  cases hlead : startsLine lead with
  | false => exact h.matchHere_of_not_startsLine hlead _
  | true => rw [h.matchHere_gap hlead hblanks hrest, hcore, Option.map_none]

theorem quiet (lead : Option Char) {blanks rest : List Char} (hblanks : Blank blanks)
    (hrest : ∀ c ∈ rest.head?, isBlank c = false) (hcore : core.matchHere none rest = none) :
    p.Quiet lead blanks rest := by
  induction blanks generalizing lead with
  | nil => trivial
  | cons c blanks ih =>
    exact ⟨h.matchHere_eq_none lead hblanks hrest hcore, ih (some c) fun d hd => hblanks d (List.mem_cons_of_mem c hd)⟩

/-- a search goes on behind a match, with its groups found -/
theorem findAllFrom_match {lead : Option Char} (hlead : startsLine lead = true) {blanks taken back : List Char}
    {m : Match} (hblanks : Blank blanks) (hcore : core.matchHere none (taken ++ back) = some m) (htext : m.text = taken) :
    p.findAllFrom lead 0 (blanks ++ (taken ++ back)) =
      m.behind blanks :: p.findAllFrom taken.getLast? 0 back := by
  obtain ⟨last, hlast, -⟩ := h.ends hcore
  rw [htext] at hlast
  have hne : taken ≠ [] := by
    rintro rfl
    cases hlast
  have hrest : ∀ c ∈ (taken ++ back).head?, isBlank c = false := by
    obtain ⟨c, cs, hcons, hc⟩ := h.starts hcore
    rw [hcons]
    exact fun d hd => Option.some.inj hd ▸ hc
  have hmatch := h.matchHere_gap hlead hblanks hrest
  rw [hcore, ← List.append_assoc] at hmatch
  rw [← List.append_assoc, Pattern.findAllFrom_match hmatch (congrArg (blanks ++ ·) htext) (by simp [hne]),
    List.getLast?_append_of_ne_nil blanks hne, hlast, Option.some_or]

end LineLed

end Pattern

end CodeSurvey
