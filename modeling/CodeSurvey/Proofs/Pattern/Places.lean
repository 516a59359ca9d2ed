/-
The places of the matches that a search finds.

`matchAt` is the match at one place of a text. The leftmost match is the one at the first place that has one
(`find?_eq`). `placed` gives the matches of `findAll` with the places where they start. They are what a sweep of the
text from left to right has: each match stands at its place, none starts within another, and the pattern matches nowhere
else but within a match (`sweep_placed`). So the order in which a search gives its matches is the order of their places.

A site is a place of the text with what stands there. `Locates` says that a pattern finds the sites: each match has one
within it, and only one, and at each site there is a match. Then the matches of a search are those of all sites, in the
order of their places (`Locates.exists_sites`): a sweep passes over a place only within a match, whose site that is.

That a match has one site only is read off a mark, a character that stands in it once (`mark_unique`).
-/
import Mathlib.Data.List.Forall2
import CodeSurvey.Proofs.Pattern.Ways

namespace CodeSurvey.Pattern

/-! ## What comes first in an order -/

/-- in a list in some order, the first element that has an image is the one before which no other one has any -/
theorem findSome?_rising {α β : Type} {R : α → α → Prop} (hself : ∀ a, ¬ R a a) (hafter : ∀ {a b}, R a b → ¬ R b a)
    {f : α → Option β} {as : List α} (h : as.Pairwise R) (b : β) :
    as.findSome? f = some b ↔ ∃ a ∈ as, f a = some b ∧ ∀ a' ∈ as, R a' a → f a' = none := by
  constructor
  · intro hfind
    obtain ⟨front, a, back, rfl, ha, hfront⟩ := List.findSome?_eq_some_iff.1 hfind
    obtain ⟨-, hback, -⟩ := List.pairwise_append.1 h
    refine ⟨a, by simp, ha, fun a' ha' hR => ?_⟩
    rcases List.mem_append.1 ha' with hmem | hmem
    · exact hfront a' hmem
    · rcases List.mem_cons.1 hmem with rfl | hmem
      · exact absurd hR (hself a')
      · exact absurd hR (hafter ((List.pairwise_cons.1 hback).1 a' hmem))
  · rintro ⟨a, ha, hfa, hbefore⟩
    obtain ⟨front, back, rfl⟩ := List.append_of_mem ha
    obtain ⟨-, -, hfront⟩ := List.pairwise_append.1 h
    refine List.findSome?_eq_some_iff.2 ⟨front, a, back, rfl, hfa, fun a' ha' => ?_⟩
    exact hbefore a' (List.mem_append_left _ ha') (hfront a' ha' a List.mem_cons_self)

/-- the first number below a bound that has an image -/
theorem findSome?_range {β : Type} {f : Nat → Option β} {n : Nat} (b : β) :
    (List.range n).findSome? f = some b ↔ ∃ i < n, f i = some b ∧ ∀ j < i, f j = none := by
  rw [findSome?_rising Nat.lt_irrefl Nat.lt_asymm List.pairwise_lt_range]
  constructor
  · rintro ⟨i, hi, hfi, hbefore⟩
    have hn := List.mem_range.1 hi
    exact ⟨i, hn, hfi, fun j hj => hbefore j (List.mem_range.2 (Nat.lt_trans hj hn)) hj⟩
  · rintro ⟨i, hi, hfi, hbefore⟩
    exact ⟨i, List.mem_range.2 hi, hfi, fun j _ hj => hbefore j hj⟩

/-! ## Matches at places -/

variable {p : Pattern}

/-- the match that starts at a place of the text -/
def matchAt (p : Pattern) (text : List Char) (place : Nat) : Option Match :=
  p.matchHere (text.take place).getLast? (text.drop place)

theorem matchAt_length (front back : List Char) :
    p.matchAt (front ++ back) front.length = p.matchHere front.getLast? back := by
  rw [matchAt, List.take_left, List.drop_left]

theorem findFrom_eq (front rest : List Char) : p.findFrom front.getLast? rest =
    (List.range' front.length (rest.length + 1)).findSome? (p.matchAt (front ++ rest)) := by
  induction rest generalizing front with
  | nil => rw [List.length_nil, List.range'_one, List.findSome?_singleton, matchAt_length, findFrom]
  | cons c cs ih =>
    have hnext := ih (front ++ [c])
    rw [List.getLast?_concat, List.length_append, List.length_singleton, List.append_assoc] at hnext
    rw [findFrom, List.length_cons, List.range'_succ, List.findSome?_cons, matchAt_length, hnext]
    cases p.matchHere front.getLast? (c :: cs) <;> rfl

/-- **The leftmost match is the one at the first place** that has one. -/
theorem find?_eq (p : Pattern) (s : String) :
    p.find? s = (List.range (s.toList.length + 1)).findSome? (p.matchAt s.toList) := by
  rw [List.range_eq_range']
  exact findFrom_eq [] s.toList

/-! ## All matches -/

/-- the matches of the text after its first `skip` characters, which start at `place`, with their places -/
def placedFrom (p : Pattern) (lead : Option Char) (skip place : Nat) : List Char → List (Nat × Match)
  | [] => if skip = 0 then (p.matchHere lead []).toList.map (place, ·) else []
  | c :: cs =>
    match skip with
    | n + 1 => placedFrom p (some c) n (place + 1) cs
    | 0 =>
      match p.matchHere lead (c :: cs) with
      | some m => (place, m) :: placedFrom p (some c) (m.text.length - 1) (place + 1) cs
      | none => placedFrom p (some c) 0 (place + 1) cs

/-- all matches with their places, from left to right -/
def placed (p : Pattern) (s : String) : List (Nat × Match) := p.placedFrom none 0 0 s.toList

theorem map_snd_placedFrom (lead : Option Char) (skip place : Nat) (text : List Char) :
    (p.placedFrom lead skip place text).map (·.2) = p.findAllFrom lead skip text := by
  induction text generalizing lead skip place with
  | nil =>
    rw [placedFrom, findAllFrom]
    split
    · rw [List.map_map]
      exact List.map_id' _
    · rfl
  | cons c cs ih =>
    cases skip with
    | succ n => exact ih (some c) n (place + 1)
    | zero =>
      rw [placedFrom, findAllFrom]
      cases p.matchHere lead (c :: cs) with
      | some m => exact congrArg (m :: ·) (ih (some c) _ (place + 1))
      | none => exact ih (some c) 0 (place + 1)

theorem map_snd_placed (s : String) : (p.placed s).map (·.2) = p.findAll s :=
  map_snd_placedFrom none 0 0 s.toList

/-- the matches that a sweep of the text from a place on has -/
structure Sweep (p : Pattern) (text : List Char) (start : Nat) (ms : List (Nat × Match)) : Prop where
  stands : ∀ a ∈ ms, p.matchAt text a.1 = some a.2
  behind : ∀ a ∈ ms, start ≤ a.1
  apart : ms.Pairwise fun a b => a.1 < b.1 ∧ a.1 + a.2.text.length ≤ b.1
  /-- the pattern matches at no other place but within a match -/
  whole : ∀ place, start ≤ place → place ≤ text.length → ∀ m, p.matchAt text place = some m →
    ∃ a ∈ ms, a.1 = place ∨ a.1 < place ∧ place < a.1 + a.2.text.length

theorem sweep_nil {text : List Char} {start : Nat} (h : text.length < start) : Sweep p text start [] where
  stands := fun _ ha => absurd ha List.not_mem_nil
  behind := fun _ ha => absurd ha List.not_mem_nil
  apart := .nil
  whole := fun _ hstart hplace => absurd (Nat.le_trans hstart hplace) (Nat.not_le_of_lt h)

theorem Sweep.earlier {text : List Char} {start : Nat} {ms : List (Nat × Match)} (h : Sweep p text (start + 1) ms)
    (hnone : p.matchAt text start = none) : Sweep p text start ms where
  stands := h.stands
  behind := fun a ha => Nat.le_of_succ_le (h.behind a ha)
  apart := h.apart
  whole := by
    intro place hstart hplace m hm
    rcases Nat.eq_or_lt_of_le hstart with rfl | hlt
    · rw [hnone] at hm
      cases hm
    · exact h.whole place hlt hplace m hm

theorem Sweep.cons {text : List Char} {start : Nat} {m : Match} {ms : List (Nat × Match)}
    (h : Sweep p text (start + 1 + (m.text.length - 1)) ms) (hm : p.matchAt text start = some m) :
    Sweep p text start ((start, m) :: ms) where
  stands := List.forall_mem_cons.2 ⟨hm, h.stands⟩
  behind := List.forall_mem_cons.2 ⟨Nat.le_refl start, fun a ha => by have := h.behind a ha; omega⟩
  apart := List.pairwise_cons.2 ⟨fun a ha => by have := h.behind a ha; simp only; omega, h.apart⟩
  whole := by
    intro place hstart hplace m' hm'
    by_cases hinside : place < start + 1 + (m.text.length - 1)
    · refine ⟨(start, m), List.mem_cons_self, ?_⟩
      simp only
      omega
    · obtain ⟨a, ha, hplaced⟩ := h.whole place (Nat.le_of_not_lt hinside) hplace m' hm'
      exact ⟨a, List.mem_cons_of_mem _ ha, hplaced⟩

theorem sweep_placedFrom (front : List Char) {rest : List Char} {skip : Nat} (hskip : skip ≤ rest.length) :
    Sweep p (front ++ rest) (front.length + skip) (p.placedFrom front.getLast? skip front.length rest) := by
  induction rest generalizing front skip with
  | nil =>
    obtain rfl : skip = 0 := Nat.le_zero.1 hskip
    have hbehind : ∀ n, (front ++ []).length < front.length + 1 + n := fun n => by rw [List.append_nil]; omega
    have hhere := matchAt_length (p := p) front []
    rw [placedFrom, if_pos rfl]
    cases hm : p.matchHere front.getLast? [] with
    | some m => exact (sweep_nil (hbehind _)).cons (hhere.trans hm)
    | none => exact (sweep_nil (hbehind 0)).earlier (hhere.trans hm)
  | cons c cs ih =>
    have hnext : ∀ n ≤ cs.length, Sweep p (front ++ c :: cs) (front.length + 1 + n)
        (p.placedFrom (some c) n (front.length + 1) cs) := by
      intro n hn
      have h := ih (front ++ [c]) hn
      rwa [List.getLast?_concat, List.length_append, List.append_assoc] at h
    cases skip with
    | succ n =>
      have h := hnext n (Nat.le_of_succ_le_succ hskip)
      rwa [Nat.add_right_comm, Nat.add_assoc] at h
    | zero =>
      have hhere := matchAt_length (p := p) front (c :: cs)
      rw [placedFrom]
      cases hm : p.matchHere front.getLast? (c :: cs) with
      | some m =>
        obtain ⟨back, htext⟩ := matchHere_front hm
        have hlength := congrArg List.length htext
        rw [List.length_cons, List.length_append] at hlength
        exact (hnext _ (by omega)).cons (hhere.trans hm)
      | none => exact (hnext 0 (Nat.zero_le _)).earlier (hhere.trans hm)

/-- **A search sweeps the text**: it has the matches from left to right, and leaves out only what starts within one. -/
theorem sweep_placed (p : Pattern) (s : String) : Sweep p s.toList 0 (p.placed s) :=
  sweep_placedFrom [] (Nat.zero_le _)

/-! ## Sites of a text -/

/-- there is a match where some run succeeds -/
theorem isSome_matchHere {p : Pattern} {lead : Option Char} {text : List Char}
    (h : run p (fun _ => some ()) ⟨lead, ⟨0, []⟩, text, []⟩ = some ()) : (p.matchHere lead text).isSome = true := by
  rw [run_eq] at h
  rw [matchHere_eq]
  cases hways : ways p ⟨lead, ⟨0, []⟩, text, []⟩ with
  | nil =>
    rw [hways] at h
    cases h
  | cons => rfl

/-- the place is one of the match that starts at the first one -/
def Within (start : Nat) (m : Match) (place : Nat) : Prop := start ≤ place ∧ place < start + m.text.length

/-- the pattern finds the sites of the text -/
structure Locates (p : Pattern) (text : List Char) {Site : Type} (place : Site → Nat) (R : Match → Site → Prop) :
    Prop where
  inside : ∀ s, place s ≤ text.length
  matched : ∀ s, (p.matchAt text (place s)).isSome = true
  site : ∀ start m, p.matchAt text start = some m → ∃ s, R m s ∧ Within start m (place s)
  sole : ∀ start m, p.matchAt text start = some m → ∀ s t, Within start m (place s) → Within start m (place t) →
    place s = place t

section

variable {text : List Char} {Site : Type} {place : Site → Nat} {R : Match → Site → Prop}

/-- matches that are apart have their sites in the same order -/
theorem Locates.exists_rising (h : Locates p text place R) {ms : List (Nat × Match)}
    (hstands : ∀ a ∈ ms, p.matchAt text a.1 = some a.2)
    (hapart : ms.Pairwise fun a b => a.1 < b.1 ∧ a.1 + a.2.text.length ≤ b.1) :
    ∃ sites : List Site, sites.Pairwise (fun s t => place s < place t) ∧
      List.Forall₂ (fun a s => R a.2 s ∧ Within a.1 a.2 (place s)) ms sites := by
  induction ms with
  | nil => exact ⟨[], .nil, .nil⟩
  | cons a ms ih =>
    obtain ⟨ha, hothers⟩ := List.forall_mem_cons.1 hstands
    obtain ⟨hbehind, hrest⟩ := List.pairwise_cons.1 hapart
    obtain ⟨sites, hrising, hsites⟩ := ih hothers hrest
    obtain ⟨s, hs, hwithin⟩ := h.site a.1 a.2 ha
    refine ⟨s :: sites, List.pairwise_cons.2 ⟨fun t ht => ?_, hrising⟩, .cons ⟨hs, hwithin⟩ hsites⟩
    obtain ⟨i, hi, rfl⟩ := List.mem_iff_getElem.1 ht
    have hb := hsites.get (hsites.length_eq.symm ▸ hi) hi
    have happart := (hbehind _ (List.getElem_mem (hsites.length_eq.symm ▸ hi))).2
    have hstart := hb.2.1
    simp only [List.get_eq_getElem] at hstart
    exact Nat.lt_of_lt_of_le hwithin.2 (Nat.le_trans happart hstart)

/-- all sites, in the order of their places -/
structure InTextOrder (place : Site → Nat) (sites : List Site) : Prop where
  rising : sites.Pairwise fun s t => place s < place t
  all : ∀ s, ∃ t ∈ sites, place t = place s

/-- **A search has the matches of all sites, in the order of their places.** -/
theorem Locates.exists_sites {s : String} (h : Locates p s.toList place R) :
    ∃ sites : List Site, InTextOrder place sites ∧ List.Forall₂ R (p.findAll s) sites := by
  have hsweep := p.sweep_placed s
  generalize hms : p.placed s = ms at hsweep
  obtain ⟨sites, hrising, hsites⟩ := h.exists_rising hsweep.stands hsweep.apart
  refine ⟨sites, ⟨hrising, fun a => ?_⟩, ?_⟩
  · obtain ⟨m, hm⟩ := Option.isSome_iff_exists.1 (h.matched a)
    obtain ⟨b, hb, hplace⟩ := hsweep.whole (place a) (Nat.zero_le _) (h.inside a) m hm
    obtain ⟨i, hi, rfl⟩ := List.mem_iff_getElem.1 hb
    have hsite := hsites.get hi (hsites.length_eq ▸ hi)
    simp only [List.get_eq_getElem] at hsite
    have hwithin : Within ms[i].1 ms[i].2 (place a) := by
      obtain ⟨hstart, hend⟩ := hsite.2
      unfold Within
      omega
    exact ⟨_, List.getElem_mem (hsites.length_eq ▸ hi), h.sole _ _ (hsweep.stands _ hb) _ _ hsite.2 hwithin⟩
  · rw [← map_snd_placed, hms, List.forall₂_map_left_iff]
    exact hsites.imp fun _ _ hsite => hsite.1

end

theorem map_eq_of_forall₂ {α β γ : Type} {f : α → γ} {g : β → γ} {as : List α} {bs : List β}
    (h : List.Forall₂ (fun a b => f a = g b) as bs) : as.map f = bs.map g := by
  induction h with
  | nil => rfl
  | cons hab _ ih => rw [List.map_cons, List.map_cons, hab, ih]

/-! ## Marks -/

/-- a character that stands once in a text stands at one place of it -/
theorem mark_unique {mark : Char} {front back front' back' : List Char}
    (h : front ++ mark :: back = front' ++ mark :: back') (hfront : mark ∉ front) (hback : mark ∉ back) : front = front' := by
  rcases List.append_eq_append_iff.1 h with ⟨middle, hmiddle, hrest⟩ | ⟨middle, hmiddle, hrest⟩
  · cases middle with
    | nil => rw [hmiddle, List.append_nil]
    | cons x middle =>
      obtain ⟨-, rfl⟩ := List.cons.inj hrest
      exact absurd (by simp) hback
  · cases middle with
    | nil => rw [hmiddle, List.append_nil]
    | cons x middle =>
      obtain ⟨rfl, -⟩ := List.cons.inj hrest
      exact absurd (hmiddle ▸ by simp) hfront

/-- **A mark that stands once in a match belongs to one site of it**: what the site has before the mark does not reach
over the end of the match. -/
theorem mark_place {text front back behind lead rest : List Char} {mark stop : Char} {m : Match} {start place : Nat}
    (hstart : text.drop start = m.text ++ behind) (hplace : text.drop place = lead ++ mark :: rest)
    (hwithin : Within start m place) (htext : m.text = front ++ mark :: back) (hfront : mark ∉ front)
    (hback : mark ∉ back) (hlast : m.text.getLast? = some stop) (hlead : stop ∉ lead) :
    start + front.length = place + lead.length := by
  obtain ⟨i, rfl⟩ := Nat.exists_eq_add_of_le hwithin.1
  have hi : i < m.text.length := Nat.lt_of_add_lt_add_left hwithin.2
  have hsplit : m.text.drop i ++ behind = lead ++ mark :: rest := by
    rw [← hplace, ← List.drop_drop, hstart, List.drop_append_of_le_length (Nat.le_of_lt hi)]
  have hstop : stop ∈ m.text.drop i := by
    refine List.mem_of_getLast? ?_
    rw [List.getLast?_drop, if_neg (Nat.not_le_of_lt hi), hlast]
  rcases List.append_eq_append_iff.1 hsplit with ⟨middle, hmiddle, -⟩ | ⟨middle, hmiddle, hrest⟩
  · exact absurd (hmiddle ▸ List.mem_append_left _ hstop) hlead
  · cases middle with
    | nil => exact absurd (by rwa [hmiddle, List.append_nil] at hstop) hlead
    | cons x middle =>
      obtain ⟨rfl, -⟩ := List.cons.inj hrest
      have hmark : front ++ mark :: back = (m.text.take i ++ lead) ++ mark :: middle := by
        rw [← htext, List.append_assoc, ← hmiddle, List.take_append_drop]
      have hlength := congrArg List.length (mark_unique hmark hfront hback)
      rw [List.length_append, List.length_take_of_le (Nat.le_of_lt hi)] at hlength
      omega

end CodeSurvey.Pattern
