/-
What a text inserted into another one changes for a pattern.

An `Insertion` puts a text behind a mark, and a run over the text with it is compared with one over the text without it.
As long as both have not passed the mark they are at the same place (`Near`); once they are beyond the inserted text
they have the same left (`Beyond`). A pattern that does not take the mark stays on its side (`Stays`), and a pattern
that takes the mark takes all of the inserted text with it where that ends behind a closing character that neither the
gap nor the inserted text has (`carries_enclosed`). So the ways over the two texts come in pairs, in the same order
(`Carries`), one lemma for each kind of pattern, and the first ones are the matches (`matchHere_insertion`).
-/
import CodeSurvey.Proofs.Pattern.Searches

namespace CodeSurvey.Pattern

/-- a text put in behind a mark and a gap -/
structure Insertion where
  mark : Char
  gap : List Char
  inserted : List Char
  after : List Char

namespace Insertion

/-- the text without the insertion, behind a front -/
def plain (i : Insertion) (front : List Char) : List Char := front ++ (i.mark :: i.gap ++ i.after)

/-- the text with the insertion, behind a front -/
def filled (i : Insertion) (front : List Char) : List Char := front ++ (i.mark :: i.gap ++ (i.inserted ++ i.after))

/-- the characters taken from the start of a match on -/
abbrev taking (cs : List Char) : Taken := Taken.pushAll ⟨0, []⟩ cs

/-- groups with the same number, and the same text or texts that are alike -/
def SameGroup (alike : Nat → List Char → List Char → Prop) (g g' : Nat × Taken) : Prop :=
  g.1 = g'.1 ∧ (g.2.text = g'.2.text ∨ alike g.1 g.2.text g'.2.text)

section

variable {i : Insertion} {alike : Nat → List Char → List Char → Prop} {x : List Char}

/-- the same place, with some text at least up to the insertion; `x` is what stands before that from the match on -/
inductive Near (i : Insertion) (x least : List Char) : Cursor → Cursor → Prop
  | intro {lead : Option Char} {u r : List Char} {groups : List (Nat × Taken)} (h : u ++ (r ++ least) = x) :
    Near i x least ⟨lead, taking u, r ++ (least ++ i.after), groups⟩
      ⟨lead, taking u, r ++ (least ++ (i.inserted ++ i.after)), groups⟩

/-- both are behind the insertion -/
inductive Beyond (i : Insertion) (alike : Nat → List Char → List Char → Prop) (x : List Char) :
    Cursor → Cursor → Prop
  | intro {lead : Option Char} {y rest : List Char} {groups groups' : List (Nat × Taken)} (hne : y ≠ [])
    (hy : y ++ rest = i.after) (hgroups : List.Forall₂ (SameGroup alike) groups groups') :
    Beyond i alike x ⟨lead, taking (x ++ y), rest, groups⟩ ⟨lead, taking (x ++ (i.inserted ++ y)), rest, groups'⟩

/-- both are before the mark, or both behind the insertion -/
def Twin (i : Insertion) (alike : Nat → List Char → List Char → Prop) (x : List Char) (c d : Cursor) : Prop :=
  Near i x (i.mark :: i.gap) c d ∨ Beyond i alike x c d

/-- no way passes the mark -/
structure Stays (i : Insertion) (alike : Nat → List Char → List Char → Prop) (x : List Char)
    (f : Cursor → List Cursor) : Prop where
  near : Lifts (Near i x (i.mark :: i.gap)) (Near i x (i.mark :: i.gap)) f
  beyond : Lifts (Beyond i alike x) (Beyond i alike x) f

/-- a way that passes the mark passes the insertion -/
structure Carries (i : Insertion) (alike : Nat → List Char → List Char → Prop) (x : List Char)
    (f : Cursor → List Cursor) : Prop where
  near : Lifts (Near i x (i.mark :: i.gap)) (Twin i alike x) f
  beyond : Lifts (Beyond i alike x) (Beyond i alike x) f

theorem Stays.carries {f : Cursor → List Cursor} (h : Stays i alike x f) : Carries i alike x f where
  near := h.near.imp fun _ _ => .inl
  beyond := h.beyond

theorem Carries.twin {f : Cursor → List Cursor} (h : Carries i alike x f) :
    Lifts (Twin i alike x) (Twin i alike x) f := by
  rintro c d (hcd | hcd)
  · exact h.near hcd
  · exact (h.beyond hcd).imp fun _ _ => .inr

theorem taking_push (cs : List Char) (c : Char) : (taking cs).push c = taking (cs ++ [c]) :=
  Taken.pushAll_append ⟨0, []⟩ cs [c]

/-! ## Sequences and choices -/

theorem Stays.seq {p q : Pattern} (hp : Stays i alike x (ways p)) (hq : Stays i alike x (ways q)) :
    Stays i alike x (ways (p ++ q)) where
  near := hp.near.flatMap hq.near
  beyond := hp.beyond.flatMap hq.beyond

theorem Carries.seq {p q : Pattern} (hp : Carries i alike x (ways p)) (hq : Carries i alike x (ways q)) :
    Carries i alike x (ways (p ++ q)) where
  near := hp.near.flatMap hq.twin
  beyond := hp.beyond.flatMap hq.beyond

theorem Carries.either {p q : Pattern} (hp : Carries i alike x (ways p)) (hq : Carries i alike x (ways q)) :
    Carries i alike x (ways (.either p q)) where
  near := fun _ _ h => List.rel_append (hp.near h) (hq.near h)
  beyond := fun _ _ h => List.rel_append (hp.beyond h) (hq.beyond h)

/-! ## Characters and edges -/

/-- a character behind the insertion -/
theorem forall₂_char_beyond (test : Char → Bool) {lead : Option Char} {y rest : List Char}
    {groups groups' : List (Nat × Taken)} (hy : y ++ rest = i.after)
    (hgroups : List.Forall₂ (SameGroup alike) groups groups') :
    List.Forall₂ (Beyond i alike x) (ways (.char test) ⟨lead, taking (x ++ y), rest, groups⟩)
      (ways (.char test) ⟨lead, taking (x ++ (i.inserted ++ y)), rest, groups'⟩) := by
  cases rest with
  | nil => exact .nil
  | cons a rest =>
    simp only [ways]
    by_cases ha : test a = true
    · rw [if_pos ha, if_pos ha, taking_push, taking_push, List.append_assoc, List.append_assoc, List.append_assoc]
      refine .cons (.intro (List.append_ne_nil_of_right_ne_nil y (List.cons_ne_nil a [])) ?_ hgroups) .nil
      rwa [List.append_assoc]
    · rw [if_neg ha, if_neg ha]
      exact .nil

theorem stays_char {test : Char → Bool} (hmark : test i.mark = false) : Stays i alike x (ways (.char test)) where
  near := by
    rintro _ _ ⟨hx⟩
    rename_i lead u r groups
    cases r with
    | nil => simp [ways, hmark]
    | cons a r =>
      simp only [ways, List.cons_append]
      by_cases ha : test a = true
      · rw [if_pos ha, if_pos ha, taking_push]
        exact .cons (.intro (by rw [List.append_assoc]; exact hx)) .nil
      · rw [if_neg ha, if_neg ha]
        exact .nil
  beyond := by
    rintro _ _ ⟨-, hy, hgroups⟩
    exact forall₂_char_beyond test hy hgroups

theorem stays_nothing : Stays i alike x (ways .nothing) where
  near := fun _ _ h => .cons h .nil
  beyond := fun _ _ h => .cons h .nil

theorem forall₂_edge {R : Cursor → Cursor → Prop} {test : Option Char → Option Char → Bool} {c d : Cursor} (h : R c d)
    (hprevious : c.previous = d.previous) (hnext : c.rest.head? = d.rest.head?) :
    List.Forall₂ R (ways (.edge test) c) (ways (.edge test) d) := by
  rw [ways, ways, hprevious, hnext]
  split
  · exact .cons h .nil
  · exact .nil

theorem previous_taking (lead : Option Char) (cs rest : List Char) (groups : List (Nat × Taken)) :
    Cursor.previous ⟨lead, taking cs, rest, groups⟩ = cs.getLast?.or lead :=
  Cursor.previous_forward ⟨lead, ⟨0, []⟩, [], groups⟩ cs rest

theorem stays_edge (test : Option Char → Option Char → Bool) : Stays i alike x (ways (.edge test)) where
  near := by
    rintro _ _ ⟨hx⟩
    refine forall₂_edge (.intro hx) rfl ?_
    rename_i r _
    cases r <;> rfl
  beyond := by
    rintro _ _ ⟨hne, hy, hgroups⟩
    refine forall₂_edge (.intro hne hy hgroups) ?_ rfl
    obtain ⟨a, ha⟩ := List.getLast?_isSome.2 hne |> Option.isSome_iff_exists.1
    rw [previous_taking, previous_taking]
    simp only [List.getLast?_append, ha, Option.some_or]

/-! ## Runs of characters -/

theorem inOrder_flatMap {α β : Type} (lazily : Bool) (more stop : List α) (f : α → List β) :
    (inOrder lazily more stop).flatMap f = inOrder lazily (more.flatMap f) (stop.flatMap f) := by
  cases lazily <;> simp [inOrder]

section

variable {lazily : Bool} {test : Char → Bool} {R : Cursor → Cursor → Prop}
  {k k' : Taken × List Char → List Cursor} {taken taken' : Taken}

theorem pushAll_nil (t : Taken) : t.pushAll [] = t := rfl

/-- runs over one text, compared place by place -/
theorem forall₂_spanWays {rest : List Char}
    (h : ∀ cs back, rest = cs ++ back → List.Forall₂ R (k (taken.pushAll cs, back)) (k' (taken'.pushAll cs, back))) :
    List.Forall₂ R ((spanWays lazily test taken rest).flatMap k) ((spanWays lazily test taken' rest).flatMap k') := by
  induction rest generalizing taken taken' with
  | nil => simpa [spanWays, pushAll_nil] using h [] [] rfl
  | cons a rest ih =>
    have hstop : List.Forall₂ R (k (taken, a :: rest)) (k' (taken', a :: rest)) := h [] (a :: rest) rfl
    rw [spanWays, spanWays, inOrder_flatMap, inOrder_flatMap]
    refine forall₂_inOrder lazily ?_ (by simpa using hstop)
    by_cases ha : test a = true
    · rw [if_pos ha, if_pos ha]
      refine ih fun cs back hrest => ?_
      rw [Taken.push_eq, Taken.push_eq, Taken.pushAll_append, Taken.pushAll_append]
      exact h (a :: cs) back (by rw [hrest, List.cons_append])
    · rw [if_neg ha, if_neg ha]
      exact .nil

/-- runs over two texts with a common front -/
theorem forall₂_spanWays_append {front back back' : List Char}
    (hfront : ∀ cs ds, front = cs ++ ds → ds ≠ [] →
      List.Forall₂ R (k (taken.pushAll cs, ds ++ back)) (k' (taken.pushAll cs, ds ++ back')))
    (hback : (∀ a ∈ front, test a = true) → List.Forall₂ R
      ((spanWays lazily test (taken.pushAll front) back).flatMap k)
      ((spanWays lazily test (taken.pushAll front) back').flatMap k')) :
    List.Forall₂ R ((spanWays lazily test taken (front ++ back)).flatMap k)
      ((spanWays lazily test taken (front ++ back')).flatMap k') := by
  induction front generalizing taken with
  | nil => exact hback nofun
  | cons a front ih =>
    have hstop := hfront [] (a :: front) rfl (List.cons_ne_nil a front)
    rw [List.cons_append, List.cons_append, spanWays, spanWays, inOrder_flatMap, inOrder_flatMap]
    refine forall₂_inOrder lazily ?_ (by simpa [pushAll_nil] using hstop)
    by_cases ha : test a = true
    · rw [if_pos ha, if_pos ha]
      refine ih (fun cs ds hsplit hds => ?_) fun hothers => ?_
      · rw [Taken.push_eq, Taken.pushAll_append]
        exact hfront (a :: cs) ds (by rw [hsplit, List.cons_append]) hds
      · rw [Taken.push_eq, Taken.pushAll_append]
        exact hback (List.forall_mem_cons.2 ⟨ha, hothers⟩)
    · rw [if_neg ha, if_neg ha]
      exact .nil

/-- a run passes over a text where nothing goes on -/
theorem flatMap_spanWays_dead {front back : List Char} (htest : ∀ a ∈ front, test a = true)
    (hdead : ∀ cs ds, front = cs ++ ds → ds ≠ [] → k (taken.pushAll cs, ds ++ back) = []) :
    (spanWays lazily test taken (front ++ back)).flatMap k =
      (spanWays lazily test (taken.pushAll front) back).flatMap k := by
  induction front generalizing taken with
  | nil => rfl
  | cons a front ih =>
    obtain ⟨ha, hothers⟩ := List.forall_mem_cons.1 htest
    have hstop : [(taken, a :: (front ++ back))].flatMap k = [] := by
      simpa [pushAll_nil] using hdead [] (a :: front) rfl (List.cons_ne_nil a front)
    have hmore : (spanWays lazily test (taken.push a) (front ++ back)).flatMap k =
        (spanWays lazily test ((taken.push a).pushAll front) back).flatMap k := by
      refine ih hothers fun cs ds hsplit hds => ?_
      rw [Taken.push_eq, Taken.pushAll_append]
      exact hdead (a :: cs) ds (by rw [hsplit, List.cons_append]) hds
    rw [List.cons_append, spanWays, inOrder_flatMap, if_pos ha, hstop, hmore, Taken.push_eq, Taken.pushAll_append]
    cases lazily <;> simp [inOrder]

end

theorem ways_span (lazily : Bool) (test : Char → Bool) (c : Cursor) : ways (.span lazily test) c =
    (spanWays lazily test c.taken c.rest).flatMap fun e => [{ c with taken := e.1, rest := e.2 }] :=
  List.map_eq_flatMap

theorem taking_pushAll (cs ds : List Char) : (taking cs).pushAll ds = taking (cs ++ ds) :=
  Taken.pushAll_append ⟨0, []⟩ cs ds

theorem stays_span (lazily : Bool) {test : Char → Bool} (hmark : test i.mark = false) :
    Stays i alike x (ways (.span lazily test)) where
  near := by
    rintro _ _ ⟨hx⟩
    rename_i lead u r groups
    rw [ways_span, ways_span]
    refine forall₂_spanWays_append (fun cs ds hr _ => ?_) fun _ => ?_
    · rw [taking_pushAll]
      exact .cons (.intro (by rw [← hx, hr, List.append_assoc, List.append_assoc])) .nil
    · have hstop : ∀ back : List Char, spanWays lazily test (taking (u ++ r)) (i.mark :: i.gap ++ back) =
          [(taking (u ++ r), i.mark :: i.gap ++ back)] := by
        intro back
        rw [List.cons_append, spanWays, if_neg (by simp [hmark])]
        cases lazily <;> rfl
      rw [taking_pushAll, hstop, hstop]
      exact .cons (.intro (r := []) (by rw [← hx, List.append_assoc]; rfl)) .nil
  beyond := by
    rintro _ _ ⟨hne, hy, hgroups⟩
    rename_i lead y rest groups groups'
    rw [ways_span, ways_span]
    refine forall₂_spanWays fun cs back hrest => .cons ?_ .nil
    have hrest' : rest = cs ++ back := hrest
    rw [taking_pushAll, taking_pushAll, List.append_assoc, List.append_assoc, List.append_assoc]
    refine .intro (List.append_ne_nil_of_left_ne_nil hne cs) ?_ hgroups
    rw [← hy, hrest', List.append_assoc]

theorem stays_some1 {test : Char → Bool} (hmark : test i.mark = false) : Stays i alike x (ways (some1 test)) :=
  (stays_char hmark).seq (stays_span false hmark)

theorem stays_exactly {cs : List Char} (hmark : i.mark ∉ cs) : Stays i alike x (ways (exactly cs)) := by
  induction cs with
  | nil => exact stays_nothing
  | cons a cs ih =>
    obtain ⟨hne, hothers⟩ := not_or.1 (List.mem_cons.not.1 hmark)
    have ha : (i.mark == a) = false := beq_eq_false_iff_ne.2 hne
    cases cs with
    | nil => exact stays_char ha
    | cons b cs => exact (stays_char ha).seq (ih hothers)

theorem carries_oneOf {ss : List String} (hmark : ∀ s ∈ ss, i.mark ∉ s.toList) :
    Carries i alike x (ways (oneOf ss)) := by
  induction ss with
  | nil => exact (stays_char rfl).carries
  | cons s ss ih =>
    obtain ⟨hs, hothers⟩ := List.forall_mem_cons.1 hmark
    cases ss with
    | nil => exact (stays_exactly hs).carries
    | cons s' ss => exact (stays_exactly hs).carries.either (ih hothers)

/-! ## Repetitions -/

theorem count_taking (cs : List Char) : (taking cs).count = cs.length := Nat.zero_add _

theorem Near.count {least : List Char} {c d : Cursor} (h : Near i x least c d) :
    d.taken.count = c.taken.count ∧ c.taken.count ≤ x.length := by
  obtain ⟨rfl⟩ := h
  simp [count_taking]

theorem Beyond.count {c d : Cursor} (h : Beyond i alike x c d) :
    d.taken.count = c.taken.count + i.inserted.length ∧ x.length < c.taken.count := by
  obtain ⟨hne, -, -⟩ := h
  have hpos := List.length_pos_iff.2 hne
  simp only [count_taking, List.length_append]
  omega

theorem inStep_twin : InStep (Twin i alike x) := by
  intro c d e f hcd hef
  rcases hcd with hcd | hcd <;> rcases hef with hef | hef <;>
    obtain ⟨hsame, hplace⟩ := hcd.count <;> obtain ⟨hsame', hplace'⟩ := hef.count <;> omega

theorem inStep_beyond : InStep (Beyond i alike x) := fun _ _ _ _ hcd hef => inStep_twin (.inr hcd) (.inr hef)

theorem Carries.opt {p : Pattern} (h : Carries i alike x (ways p)) : Carries i alike x (ways (.opt p)) where
  near := fun _ _ hcd => lifts_loopWays inStep_twin h.twin false 1 (.inl hcd)
  beyond := lifts_loopWays inStep_beyond h.beyond false 1

theorem Carries.star {p : Pattern} (h : Carries i alike x (ways p)) : Carries i alike x (ways (.star p)) where
  near := fun _ _ hcd => lifts_many inStep_twin h.twin false (.inl hcd)
  beyond := lifts_many inStep_beyond h.beyond false

/-! ## Groups -/

theorem text_upTo {u cs : List Char} {c e : Cursor} (hc : c.taken = taking u) (he : e.taken = taking cs) :
    (c.upTo e).text = cs.drop u.length := by
  have hcount : e.taken.count - c.taken.count = cs.length - u.length := by
    rw [hc, he, count_taking, count_taking]
  have htrail : e.taken.trail = cs.reverse := by
    rw [he]
    exact List.append_nil cs.reverse
  show (e.taken.trail.take (e.taken.count - c.taken.count)).reverse = cs.drop u.length
  rw [hcount, htrail, List.take_reverse, List.reverse_reverse]
  by_cases h : u.length ≤ cs.length
  · rw [Nat.sub_sub_self h]
  · rw [List.drop_eq_nil_of_le (Nat.le_of_not_le h), List.drop_eq_nil_of_le (by omega)]

theorem Near.group {n : Nat} {c d e f : Cursor} {least : List Char} (h : Near i x least c d)
    (h' : Near i x least e f) : Near i x least { e with groups := (n, c.upTo e) :: e.groups }
      { f with groups := (n, d.upTo f) :: f.groups } := by
  obtain ⟨-⟩ := h
  obtain ⟨hx⟩ := h'
  exact .intro hx

theorem Beyond.group {n : Nat} {c d e f : Cursor} (h : Beyond i alike x c d) (h' : Beyond i alike x e f) :
    Beyond i alike x { e with groups := (n, c.upTo e) :: e.groups } { f with groups := (n, d.upTo f) :: f.groups } := by
  obtain ⟨-, -, -⟩ := h
  obtain ⟨hne, hy, hgroups⟩ := h'
  refine .intro hne hy (.cons ⟨rfl, .inl ?_⟩ hgroups)
  rw [text_upTo rfl rfl, text_upTo rfl rfl, ← List.append_assoc, ← List.append_assoc, List.length_append,
    List.length_append, List.drop_length_add_append, List.drop_length_add_append]

theorem Stays.group {n : Nat} {p : Pattern} (h : Stays i alike x (ways p)) :
    Stays i alike x (ways (.group n p)) where
  near := by
    intro c d hcd
    rw [ways, ways, List.forall₂_map_left_iff, List.forall₂_map_right_iff]
    exact (h.near hcd).imp fun _ _ hef => hcd.group hef
  beyond := by
    intro c d hcd
    rw [ways, ways, List.forall₂_map_left_iff, List.forall₂_map_right_iff]
    exact (h.beyond hcd).imp fun _ _ hef => hcd.group hef

/-- a group that the insertion lies in has texts that are alike -/
theorem Carries.group {n : Nat} {p : Pattern} (h : Carries i alike x (ways p))
    (halike : ∀ c, ∀ e ∈ ways p c, ∀ r y, (c.upTo e).text = r ++ (i.mark :: i.gap ++ y) →
      alike n (r ++ (i.mark :: i.gap ++ y)) (r ++ (i.mark :: i.gap ++ (i.inserted ++ y)))) :
    Carries i alike x (ways (.group n p)) where
  near := by
    intro c d hcd
    rw [ways, ways, List.forall₂_map_left_iff, List.forall₂_map_right_iff]
    refine ((List.forall₂_and_left _ _).2 ⟨fun e he => he, h.near hcd⟩).imp fun e f hef => ?_
    obtain ⟨he, hef | hef⟩ := hef
    · exact .inl (hcd.group hef)
    · refine .inr ?_
      have hcross := halike c e he
      obtain ⟨rfl⟩ := hcd
      obtain ⟨hne, hy, hgroups⟩ := hef
      refine .intro hne hy (.cons ⟨rfl, .inr ?_⟩ hgroups)
      rw [text_upTo rfl rfl, List.append_assoc, List.drop_left, List.append_assoc] at hcross
      rw [text_upTo rfl rfl, text_upTo rfl rfl, List.append_assoc, List.drop_left, List.append_assoc, List.append_assoc,
        List.drop_left, List.append_assoc]
      exact hcross _ _ rfl
  beyond := by
    intro c d hcd
    rw [ways, ways, List.forall₂_map_left_iff, List.forall₂_map_right_iff]
    exact (h.beyond hcd).imp fun _ _ hef => hcd.group hef

/-! ## Runs up to a closing character -/

/-- the ways of the pattern are those of a run of characters, which leave behind some groups -/
def RunsOver (w : Pattern) (lazily : Bool) (test : Char → Bool)
    (groups : Taken → List (Nat × Taken) → Taken → List (Nat × Taken)) : Prop :=
  ∀ c, ways w c = (spanWays lazily test c.taken c.rest).map fun e => ⟨c.lead, e.1, e.2, groups c.taken c.groups e.1⟩

theorem runsOver_span (lazily : Bool) (test : Char → Bool) :
    RunsOver (.span lazily test) lazily test fun _ groups _ => groups := fun _ => rfl

theorem runsOver_group (n : Nat) (lazily : Bool) (test : Char → Bool) :
    RunsOver (.group n (.span lazily test)) lazily test
      fun start groups taken => (n, ⟨taken.count - start.count, taken.trail⟩) :: groups :=
  fun _ => List.map_map

/-- what stands behind a character that a text does not have has the text at its end -/
theorem exists_before {front back v text : List Char} {d : Char} (h : front ++ d :: back = v ++ text) (hd : d ∉ text) :
    ∃ v', back = v' ++ text := by
  rcases List.append_eq_append_iff.1 h with ⟨middle, -, hmiddle⟩ | ⟨middle, -, hmiddle⟩
  · cases middle with
    | nil => exact absurd (hmiddle.subst (motive := (d ∈ ·)) List.mem_cons_self) hd
    | cons a middle => exact ⟨middle, (List.cons.inj hmiddle).2⟩
  · exact absurd (hmiddle ▸ by simp) hd

section

variable {w : Pattern} {lazily : Bool} {test : Char → Bool} {closing : Char}
  {tag : Taken → List (Nat × Taken) → Taken → List (Nat × Taken)} (hw : RunsOver w lazily test tag)
  (htag : ∀ t t' s s' g g', List.Forall₂ (SameGroup alike) g g' →
    List.Forall₂ (SameGroup alike) (tag t g s) (tag t' g' s'))
  (hmark : closing ∉ i.mark :: i.gap) (hinserted : ∀ a ∈ i.inserted, a ≠ closing ∧ test a = true)

include hw in
theorem ways_closed (c : Cursor) : ways (w ++ .char (· == closing)) c =
    (spanWays lazily test c.taken c.rest).flatMap fun e =>
      ways (.char (· == closing)) ⟨c.lead, e.1, e.2, tag c.taken c.groups e.1⟩ := by
  show (ways w c).flatMap _ = _
  rw [hw, List.flatMap_map]

theorem ways_char_other {c : Cursor} {a : Char} {rest : List Char} (hrest : c.rest = a :: rest) (ha : a ≠ closing) :
    ways (.char (· == closing)) c = [] := by
  rw [ways, hrest]
  exact if_neg fun h => ha (beq_iff_eq.1 h)

theorem forall₂_sameGroup_self (groups : List (Nat × Taken)) : List.Forall₂ (SameGroup alike) groups groups :=
  List.forall₂_same.2 fun _ _ => ⟨rfl, .inl rfl⟩

include hw htag

theorem lifts_closed_beyond : Lifts (Beyond i alike x) (Beyond i alike x) (ways (w ++ .char (· == closing))) := by
  rintro _ _ ⟨-, hy, hgroups⟩
  rename_i lead y rest groups groups'
  rw [ways_closed hw, ways_closed hw]
  refine forall₂_spanWays fun cs back hrest => ?_
  have hrest' : rest = cs ++ back := hrest
  rw [taking_pushAll, taking_pushAll, List.append_assoc, List.append_assoc, List.append_assoc]
  refine forall₂_char_beyond _ ?_ (htag _ _ _ _ _ _ hgroups)
  rw [← hy, hrest', List.append_assoc]

omit hw htag in
theorem ways_char_seq (opens : Char → Bool) (q : Pattern) {c : Cursor} {a : Char} {rest : List Char}
    (hrest : c.rest = a :: rest) : ways (.char opens ++ q) c =
      if opens a then ways q { c with taken := c.taken.push a, rest := rest } else [] := by
  show (ways (.char opens) c).flatMap (ways q) = _
  rw [ways, hrest]
  by_cases ha : opens a = true <;> simp [ha]

include hmark hinserted

/-- **A run up to a closing character takes all of the insertion or nothing of it.** -/
theorem forall₂_closed {lead : Option Char} {u s v : List Char} {groups : List (Nat × Taken)} (hx : u ++ s = x)
    (hv : x = v ++ (i.mark :: i.gap)) :
    List.Forall₂ (Twin i alike x) (ways (w ++ .char (· == closing)) ⟨lead, taking u, s ++ i.after, groups⟩)
      (ways (w ++ .char (· == closing)) ⟨lead, taking u, s ++ (i.inserted ++ i.after), groups⟩) := by
  rw [ways_closed hw, ways_closed hw]
  refine forall₂_spanWays_append (fun cs ds hsplit hds => ?_) fun _ => ?_
  · obtain ⟨b, ds, rfl⟩ := List.exists_cons_of_ne_nil hds
    by_cases hb : b = closing
    · -- what closes the run before the insertion does so before the mark
      subst hb
      obtain ⟨r, rfl⟩ := exists_before ((List.append_assoc u cs _).trans (hsplit ▸ hx.trans hv)) hmark
      have hplace : (u ++ cs ++ [b]) ++ (r ++ (i.mark :: i.gap)) = x := by
        rw [← hx, hsplit, List.append_assoc, List.append_assoc]
        rfl
      have hclosed : ∀ back tagged, ways (.char (· == b))
          ⟨lead, (taking u).pushAll cs, b :: (r ++ (i.mark :: i.gap)) ++ back, tagged⟩ =
            [⟨lead, taking (u ++ cs ++ [b]), r ++ (i.mark :: i.gap ++ back), tagged⟩] := by
        intro back tagged
        rw [taking_pushAll, ← taking_push, ← List.append_assoc]
        exact if_pos (beq_self_eq_true b)
      rw [hclosed, hclosed]
      exact .cons (.inl (.intro hplace)) .nil
    · rw [ways_char_other rfl hb, ways_char_other rfl hb]
      exact .nil
  · have hdead : ∀ cs ds, i.inserted = cs ++ ds → ds ≠ [] → ∀ tagged : List (Nat × Taken),
        ways (.char (· == closing)) ⟨lead, (taking x).pushAll cs, ds ++ i.after, tagged⟩ = [] := by
      intro cs ds hsplit hds tagged
      obtain ⟨b, ds, rfl⟩ := List.exists_cons_of_ne_nil hds
      exact ways_char_other rfl (hinserted b (hsplit ▸ by simp)).1
    rw [taking_pushAll, hx, flatMap_spanWays_dead (fun b hb => (hinserted b hb).2)
      fun cs ds hsplit hds => hdead cs ds hsplit hds _, taking_pushAll]
    refine forall₂_spanWays fun cs back hsplit => ?_
    rw [taking_pushAll, taking_pushAll, List.append_assoc x]
    refine (forall₂_char_beyond _ hsplit.symm ?_).imp fun _ _ => .inr
    exact htag _ _ _ _ _ _ (forall₂_sameGroup_self groups)

theorem lifts_closed_near (opens : Char → Bool) :
    Lifts (Near i x (i.mark :: i.gap)) (Twin i alike x) (ways (.char opens ++ (w ++ .char (· == closing)))) := by
  rintro _ _ ⟨hx⟩
  rename_i lead u r groups
  obtain ⟨a, r', hr⟩ := List.exists_cons_of_ne_nil (List.append_ne_nil_of_right_ne_nil r (List.cons_ne_nil i.mark []))
  have hrest : ∀ back, r ++ (i.mark :: i.gap ++ back) = a :: (r' ++ i.gap ++ back) := by
    intro back
    rw [← List.singleton_append, List.append_assoc, ← List.append_assoc r, hr, List.cons_append, List.append_assoc]
  have hplace : (u ++ [a]) ++ (r' ++ i.gap) = x := by
    rw [← hx, ← List.singleton_append (l := i.gap), ← List.append_assoc r, hr, List.append_assoc]
    rfl
  rw [ways_char_seq opens _ (hrest _), ways_char_seq opens _ (hrest _)]
  split
  · rw [taking_push]
    exact forall₂_closed hw htag hmark hinserted hplace (hx.symm.trans (List.append_assoc u r _).symm)
  · exact .nil

omit hw htag hmark hinserted in
theorem lifts_char_beyond (opens : Char → Bool) : Lifts (Beyond i alike x) (Beyond i alike x) (ways (.char opens)) := by
  rintro _ _ ⟨-, hy, hgroups⟩
  exact forall₂_char_beyond opens hy hgroups

/-- **What stands between two characters carries over the insertion**, where neither the gap nor the inserted text has the
second one. -/
theorem carries_enclosed (opens : Char → Bool) :
    Carries i alike x (ways (.char opens ++ w ++ .char (· == closing))) := by
  have hways : ways (.char opens ++ w ++ .char (· == closing)) = ways (.char opens ++ (w ++ .char (· == closing))) :=
    funext fun _ => List.flatMap_assoc
  rw [hways]
  exact ⟨lifts_closed_near hw htag hmark hinserted opens,
    (lifts_char_beyond opens).flatMap (lifts_closed_beyond hw htag)⟩

/-- the same behind another pattern -/
theorem Carries.enclosed {p : Pattern} (hp : Carries i alike x (ways p)) (opens : Char → Bool) :
    Carries i alike x (ways (p ++ .char opens ++ w ++ .char (· == closing))) := by
  have hways : ways (p ++ .char opens ++ w ++ .char (· == closing)) =
      ways (p ++ (.char opens ++ w ++ .char (· == closing))) := by
    show ways (.seq (.seq (.seq p (.char opens)) w) (.char (· == closing))) =
      ways (.seq p (.seq (.seq (.char opens) w) (.char (· == closing))))
    funext c
    simp only [ways, List.flatMap_assoc]
  rw [hways]
  exact hp.seq (carries_enclosed hw htag hmark hinserted opens)

end

/-! ## Matches -/

/-- the group of a match or groups that are alike -/
def AlikeGroups (alike : Nat → List Char → List Char → Prop) (m m' : Match) : Prop :=
  List.Forall₂ (fun g g' => g.1 = g'.1 ∧ (g.2 = g'.2 ∨ alike g.1 g.2 g'.2)) m.groups m'.groups

/-- both matches go on behind the insertion, and end at the same place -/
structure Crosses (i : Insertion) (alike : Nat → List Char → List Char → Prop) (front : List Char) (m m' : Match) :
    Prop where
  groups : AlikeGroups alike m m'
  text : ∃ y rest, y ≠ [] ∧ y ++ rest = i.after ∧ m.text = front ++ (i.mark :: i.gap ++ y) ∧
    m'.text = front ++ (i.mark :: i.gap ++ (i.inserted ++ y))

theorem Near.found_eq {front : List Char} {c d : Cursor} (h : Near i (front ++ (i.mark :: i.gap)) (i.mark :: i.gap) c d) :
    c.found = d.found ∧ c.found.text.length ≤ front.length := by
  obtain ⟨hx⟩ := h
  rename_i lead u r groups
  have hlength := congrArg List.length hx
  simp only [List.length_append] at hlength
  refine ⟨rfl, ?_⟩
  show (taking u).text.length ≤ front.length
  rw [Taken.text_pushAll]
  omega

theorem Beyond.crosses {front : List Char} {c d : Cursor} (h : Beyond i alike (front ++ (i.mark :: i.gap)) c d) :
    Crosses i alike front c.found d.found := by
  obtain ⟨hne, hy, hgroups⟩ := h
  refine ⟨?_, _, _, hne, hy, ?_, ?_⟩
  · rw [AlikeGroups, Cursor.found, Cursor.found, List.forall₂_map_left_iff, List.forall₂_map_right_iff]
    exact hgroups
  · rw [Cursor.found, Taken.text_pushAll, List.append_assoc]
  · rw [Cursor.found, Taken.text_pushAll, List.append_assoc]

/-- **Before the mark the match is the same with the insertion**, or it goes on behind it in both texts. -/
theorem matchHere_insertion {p : Pattern} (hp : ∀ x, Carries i alike x (ways p)) (lead : Option Char)
    (front : List Char) :
    (p.matchHere lead (i.plain front) = p.matchHere lead (i.filled front) ∧
      ∀ m, p.matchHere lead (i.plain front) = some m → m.text.length ≤ front.length) ∨
    ∃ m m', p.matchHere lead (i.plain front) = some m ∧ p.matchHere lead (i.filled front) = some m' ∧
      Crosses i alike front m m' := by
  have hways : List.Forall₂ (Twin i alike (front ++ (i.mark :: i.gap))) (ways p ⟨lead, ⟨0, []⟩, i.plain front, []⟩)
      (ways p ⟨lead, ⟨0, []⟩, i.filled front, []⟩) :=
    (hp _).near (.intro (u := []) (r := front) rfl)
  rw [matchHere_eq, matchHere_eq]
  generalize ways p ⟨lead, ⟨0, []⟩, i.plain front, []⟩ = short at hways ⊢
  generalize ways p ⟨lead, ⟨0, []⟩, i.filled front, []⟩ = long at hways ⊢
  cases hways with
  | nil => exact .inl ⟨rfl, nofun⟩
  | cons hfirst =>
    rcases hfirst with hnear | hbeyond
    · obtain ⟨hfound, hlength⟩ := hnear.found_eq
      exact .inl ⟨congrArg some hfound, fun m hm => Option.some.inj hm ▸ hlength⟩
    · exact .inr ⟨_, _, rfl, rfl, hbeyond.crosses⟩

theorem AlikeGroups.self (m : Match) : AlikeGroups alike m m := List.forall₂_same.2 fun _ _ => ⟨rfl, .inl rfl⟩

theorem AlikeGroups.group {m m' : Match} (h : AlikeGroups alike m m') (n : Nat) : m.group n = m'.group n ∨
    ∃ t t', alike n t t' ∧ m.group n = String.ofList t ∧ m'.group n = String.ofList t' := by
  obtain ⟨text, groups⟩ := m
  obtain ⟨text', groups'⟩ := m'
  replace h : List.Forall₂ (fun g g' => g.1 = g'.1 ∧ (g.2 = g'.2 ∨ alike g.1 g.2 g'.2)) groups groups' := h
  induction h with
  | nil => exact .inl rfl
  | @cons g g' groups groups' hg _ ih =>
    obtain ⟨k, t⟩ := g
    obtain ⟨k', t'⟩ := g'
    obtain ⟨rfl, ht⟩ := hg
    simp only [Match.group, Match.group?, List.lookup_cons] at ih ⊢
    cases hk : n == k with
    | false => exact ih
    | true =>
      obtain rfl : n = k := beq_iff_eq.1 hk
      exact ht.imp (congrArg String.ofList) fun halike => ⟨t, t', halike, rfl, rfl⟩

/-! ## Searches -/

theorem plain_append (u v : List Char) : i.plain (u ++ v) = u ++ i.plain v := List.append_assoc _ _ _

theorem filled_append (u v : List Char) : i.filled (u ++ v) = u ++ i.filled v := List.append_assoc _ _ _

section

variable {p : Pattern} (hp : ∀ x, Carries i alike x (ways p))

include hp

/-- before the mark the matches are the same, up to those that go on behind it -/
theorem matchHere_front (lead : Option Char) (u v : List Char) :
    p.matchHere lead (u ++ i.plain v) = p.matchHere lead (u ++ i.filled v) ∨
      ∃ m, p.matchHere lead (u ++ i.plain v) = some m ∧ u.length < m.text.length := by
  rw [← plain_append, ← filled_append]
  rcases matchHere_insertion hp lead (u ++ v) with ⟨hsame, -⟩ | ⟨m, m', hm, -, hcross⟩
  · exact .inl hsame
  · obtain ⟨y, rest, -, -, htext, -⟩ := hcross.text
    refine .inr ⟨m, hm, ?_⟩
    rw [htext]
    simp only [List.length_append, List.length_cons]
    omega

/-- **A search that finds a match over the place of the insertion finds it with the insertion too**, and the others are
the same. -/
theorem findAllFrom_crossing {front : List Char} {start : Nat} {m : Match}
    (hmem : (start, m) ∈ p.placedFrom none 0 0 (i.plain front)) (hstart : start ≤ front.length)
    (hend : front.length < start + m.text.length) :
    ∃ ms ms' m', p.findAllFrom none 0 (i.plain front) = ms ++ m :: ms' ∧
      p.findAllFrom none 0 (i.filled front) = ms ++ m' :: ms' ∧ p.matchAt (i.filled front) start = some m' ∧
      Crosses i alike (front.drop start) m m' := by
  have hsweep : Sweep p (i.plain front) 0 (p.placedFrom none 0 0 (i.plain front)) :=
    sweep_placedFrom [] (Nat.zero_le _)
  obtain ⟨u, v, rfl, rfl⟩ : ∃ u v, u ++ v = front ∧ u.length = start :=
    ⟨front.take start, front.drop start, List.take_append_drop _ _, List.length_take_of_le hstart⟩
  have hhere := hsweep.stands _ hmem
  rw [plain_append, matchAt_length] at hhere
  rw [List.length_append, Nat.add_lt_add_iff_left] at hend
  -- what the search finds before ends there
  have hfound : ∀ a ∈ p.placedFrom none 0 0 (u ++ i.plain v), a.1 < 0 + u.length →
      a.1 + a.2.text.length ≤ 0 + u.length := by
    intro a ha hlt
    rw [← plain_append] at ha
    obtain ⟨before, behind, hsplit⟩ := List.append_of_mem hmem
    have hapart := hsweep.apart
    rw [hsplit] at ha hapart
    obtain ⟨-, hbehind, hbefore⟩ := List.pairwise_append.1 hapart
    rcases List.mem_append.1 ha with ha | ha
    · have := (hbefore a ha _ List.mem_cons_self).2
      simp only at this
      omega
    · rcases List.mem_cons.1 ha with rfl | ha
      · simp only at hlt
        omega
      · have := ((List.pairwise_cons.1 hbehind).1 a ha).1
        simp only at this
        omega
  obtain ⟨ms, hplain, hfilled⟩ := findAllFrom_front 0 (Nat.zero_le _) hfound
    fun _ w _ _ lead => matchHere_front hp lead w v
  rcases matchHere_insertion hp u.getLast? v with ⟨-, hshort⟩ | ⟨n, m', hn, hm', hcross⟩
  · exact absurd (hshort m hhere) (Nat.not_le_of_lt hend)
  · obtain rfl : n = m := Option.some.inj (hn.symm.trans hhere)
    obtain ⟨y, rest, hne, hy, htext, htext'⟩ := hcross.text
    have hsplit : i.plain v = n.text ++ rest := by
      rw [plain, htext, ← hy]
      simp only [List.append_assoc]
    have hsplit' : i.filled v = m'.text ++ rest := by
      rw [filled, htext', ← hy]
      simp only [List.append_assoc]
    have hlast : n.text.getLast?.or u.getLast? = m'.text.getLast?.or u.getLast? := by
      obtain ⟨a, ha⟩ := Option.isSome_iff_exists.1 (List.getLast?_isSome.2 hne)
      rw [htext, htext']
      simp only [List.getLast?_append, ha, Option.some_or]
    rw [Option.or_none, hsplit, findAllFrom_match (hsplit ▸ hn) rfl (by simp [htext])] at hplain
    rw [Option.or_none, hsplit', findAllFrom_match (hsplit' ▸ hm') rfl (by simp [htext']), ← hlast] at hfilled
    rw [plain_append, filled_append, matchAt_length, hm', hsplit, hsplit', List.drop_left]
    exact ⟨ms, _, m', hplain, hfilled, rfl, hcross⟩

/-- **Where no match starts between the mark and the end of the insertion, a search finds the same with it**, up to groups
that are alike. -/
theorem findAllFrom_insertion (hplain : ∀ lead, p.Quiet lead (i.mark :: i.gap) i.after)
    (hfilled : ∀ lead, p.Quiet lead (i.mark :: i.gap ++ i.inserted) i.after)
    (hedges : p.SameEdges (i.mark :: i.gap).getLast? (i.mark :: i.gap ++ i.inserted).getLast?) (front : List Char) :
    List.Forall₂ (AlikeGroups alike) (p.findAllFrom none 0 (i.plain front)) (p.findAllFrom none 0 (i.filled front)) := by
  have hself : ∀ ms : List Match, List.Forall₂ (AlikeGroups alike) ms ms :=
    fun _ => List.forall₂_same.2 fun m _ => .self m
  by_cases hcrossing : ∃ a ∈ p.placedFrom none 0 0 (i.plain front), a.1 ≤ front.length ∧
      front.length < a.1 + a.2.text.length
  · obtain ⟨⟨start, m⟩, hmem, hstart, hend⟩ := hcrossing
    obtain ⟨ms, ms', m', hms, hms', -, hcross⟩ := findAllFrom_crossing hp hmem hstart hend
    rw [hms, hms']
    exact List.rel_append (hself ms) (.cons hcross.groups (hself ms'))
  · have hfound : ∀ a ∈ p.placedFrom none 0 0 (front ++ i.plain []), a.1 < 0 + front.length →
        a.1 + a.2.text.length ≤ 0 + front.length := by
      intro a ha hlt
      rw [Nat.zero_add] at hlt ⊢
      exact Nat.le_of_not_lt fun hend => hcrossing ⟨a, ha, Nat.le_of_lt hlt, hend⟩
    obtain ⟨ms, hms, hms'⟩ := findAllFrom_front 0 (Nat.zero_le _) hfound
      fun _ w _ _ lead => matchHere_front hp lead w []
    have hlast : ∀ (a : Char) (text : List Char) (lead : Option Char),
        (a :: text).getLast?.or lead = (a :: text).getLast? := by
      intro a text lead
      rw [List.getLast?_cons, Option.some_or]
    have hbehind : p.findAllFrom (front.getLast?.or none) 0 (i.plain []) =
        p.findAllFrom (front.getLast?.or none) 0 (i.filled []) := by
      rw [plain, filled, List.nil_append, List.nil_append, ← List.append_assoc (i.mark :: i.gap),
        findAllFrom_quiet (hplain _), findAllFrom_quiet (hfilled _), List.cons_append, hlast, hlast]
      exact findAllFrom_lead hedges i.after
    have hsame : p.findAllFrom none 0 (i.plain front) = p.findAllFrom none 0 (i.filled front) :=
      hms.trans (hbehind ▸ hms'.symm)
    rw [hsame]
    exact hself _

end

end

end Insertion

end CodeSurvey.Pattern
