/-
Searches of two texts that go on differently.

A search goes from place to place and from match to match. It passes over a match (`findAllFrom_match`) and over a part
of the text where no match starts (`findAllFrom_quiet`), and where the pattern has no edge that tells the characters
apart it does not depend on the character before (`findAllFrom_lead`). So two searches have the same matches up to a
place if the pattern has the same matches there, none of which goes beyond that place (`findAllFrom_front`).
-/
import CodeSurvey.Proofs.Pattern.Places
import CodeSurvey.Proofs.Pattern.Repetitions

namespace CodeSurvey.Pattern

variable {p : Pattern}

/-- the last character of a text, behind another one -/
theorem last_cons (c : Char) (text : List Char) (lead : Option Char) :
    (c :: text).getLast?.or lead = text.getLast?.or (some c) := by
  rw [List.getLast?_cons]
  cases text.getLast? <;> rfl

theorem findAllFrom_skip (lead : Option Char) (front rest : List Char) :
    p.findAllFrom lead front.length (front ++ rest) = p.findAllFrom (front.getLast?.or lead) 0 rest := by
  induction front generalizing lead with
  | nil => rfl
  | cons c front ih => rw [List.length_cons, List.cons_append, findAllFrom, ih, last_cons]

/-- behind a match the search goes on -/
theorem findAllFrom_match {lead : Option Char} {taken rest : List Char} {m : Match}
    (h : p.matchHere lead (taken ++ rest) = some m) (htext : m.text = taken) (hne : taken ≠ []) :
    p.findAllFrom lead 0 (taken ++ rest) = m :: p.findAllFrom (taken.getLast?.or lead) 0 rest := by
  obtain ⟨c, front, rfl⟩ := List.exists_cons_of_ne_nil hne
  have hlength : m.text.length - 1 = front.length := by rw [htext, List.length_cons, Nat.add_sub_cancel]
  rw [List.cons_append] at h
  rw [List.cons_append, findAllFrom, h, last_cons]
  exact congrArg (m :: ·) (hlength ▸ findAllFrom_skip (some c) front rest)

/-- where no match starts the search has none -/
theorem findAllFrom_quiet {lead : Option Char} {front rest : List Char} (h : p.Quiet lead front rest) :
    p.findAllFrom lead 0 (front ++ rest) = p.findAllFrom (front.getLast?.or lead) 0 rest := by
  induction front generalizing lead with
  | nil => rfl
  | cons c front ih =>
    obtain ⟨hnone, hothers⟩ := h
    rw [List.cons_append] at hnone
    rw [List.cons_append, findAllFrom, hnone, last_cons]
    exact ih hothers

theorem findAllFrom_lead {lead lead' : Option Char} (hp : p.SameEdges lead lead') (text : List Char) :
    p.findAllFrom lead 0 text = p.findAllFrom lead' 0 text := by
  cases text with
  | nil => rw [findAllFrom, findAllFrom, matchHere_sameEdges hp]
  | cons c cs => rw [findAllFrom, findAllFrom, matchHere_sameEdges hp]

/-- **Two searches have the same matches up to a place**, where the pattern has the same matches before it and the ones
that the first search finds there do not go beyond it. -/
theorem findAllFrom_front (place : Nat) {front rest rest' : List Char} {lead : Option Char} {skip : Nat}
    (hskip : skip ≤ front.length)
    (hfound : ∀ a ∈ p.placedFrom lead skip place (front ++ rest), a.1 < place + front.length →
      a.1 + a.2.text.length ≤ place + front.length)
    (hsame : ∀ u v, u ++ v = front → v ≠ [] → ∀ lead, p.matchHere lead (v ++ rest) = p.matchHere lead (v ++ rest') ∨
      ∃ m, p.matchHere lead (v ++ rest) = some m ∧ v.length < m.text.length) :
    ∃ ms, p.findAllFrom lead skip (front ++ rest) = ms ++ p.findAllFrom (front.getLast?.or lead) 0 rest ∧
      p.findAllFrom lead skip (front ++ rest') = ms ++ p.findAllFrom (front.getLast?.or lead) 0 rest' := by
  induction front generalizing lead skip place with
  | nil =>
    obtain rfl : skip = 0 := Nat.le_zero.1 hskip
    exact ⟨[], rfl, rfl⟩
  | cons c front ih =>
    have hnext : ∀ n ≤ front.length,
        (∀ a ∈ p.placedFrom (some c) n (place + 1) (front ++ rest),
          a ∈ p.placedFrom lead skip place (c :: (front ++ rest))) →
        ∃ ms, p.findAllFrom (some c) n (front ++ rest) = ms ++ p.findAllFrom ((c :: front).getLast?.or lead) 0 rest ∧
          p.findAllFrom (some c) n (front ++ rest') =
            ms ++ p.findAllFrom ((c :: front).getLast?.or lead) 0 rest' := by
      intro n hn hmem
      rw [last_cons]
      refine ih (place + 1) hn (fun a ha hplace => ?_) fun u v huv => hsame (c :: u) v (by rw [← huv, List.cons_append])
      have := hfound a (hmem a ha) (by rw [List.length_cons]; omega)
      rw [List.length_cons] at this
      omega
    rw [List.cons_append, List.cons_append]
    cases skip with
    | succ n => exact hnext n (Nat.le_of_succ_le_succ hskip) fun a ha => ha
    | zero =>
      rw [List.cons_append] at hfound
      rw [findAllFrom, findAllFrom]
      have hhere := hsame [] (c :: front) rfl (List.cons_ne_nil c front) lead
      rw [List.cons_append, List.cons_append] at hhere
      cases hm : p.matchHere lead (c :: (front ++ rest)) with
      | none =>
        have hm' : p.matchHere lead (c :: (front ++ rest')) = none := by
          rcases hhere with heq | ⟨m, hsome, -⟩
          · exact heq.symm.trans hm
          · exact absurd (hsome.symm.trans hm) (by simp)
        rw [hm']
        exact hnext 0 (Nat.zero_le _) fun a ha => by rwa [placedFrom, hm]
      | some m =>
        have hmem : (place, m) ∈ p.placedFrom lead 0 place (c :: (front ++ rest)) := by
          rw [placedFrom, hm]
          exact List.mem_cons_self
        have hend := hfound _ hmem (by rw [List.length_cons]; omega)
        have hm' : p.matchHere lead (c :: (front ++ rest')) = some m := by
          rcases hhere with heq | ⟨m', hsome, hlong⟩
          · exact heq.symm.trans hm
          · obtain rfl := Option.some.inj (hsome.symm.trans hm)
            simp only at hend
            omega
        rw [hm']
        simp only [List.length_cons] at hend
        obtain ⟨ms, hms, hms'⟩ := hnext (m.text.length - 1) (by omega) fun a ha => by
          rw [placedFrom, hm]
          exact List.mem_cons_of_mem _ ha
        exact ⟨m :: ms, congrArg (m :: ·) hms, congrArg (m :: ·) hms'⟩

end CodeSurvey.Pattern
