/-
Lists that let items in one after the other.

An item comes in behind those that are there when it fits beside them, and is passed over when not. `letAllIn` does so
for a list of items behind some first ones. What comes in keeps its order (`exists_admitted`), each item that came in
fits beside all that stand before it (`fits_of_admitted`), and each one that did not come in did not fit beside what was
there at its turn (`mem_or_refused`).
-/
import Mathlib.Data.List.Induction
import Mathlib.Data.List.Infix

namespace CodeSurvey

variable {α : Type} (fits : List α → α → Bool)

/-- the items with one more, when it fits beside them -/
def letIn (kept : List α) (x : α) : List α := if fits kept x then kept ++ [x] else kept

/-- the first items and those of the others that come in behind them -/
def letAllIn (first others : List α) : List α := others.foldl (letIn fits) first

variable {fits}

theorem letIn_of_fits {kept : List α} {x : α} (h : fits kept x = true) : letIn fits kept x = kept ++ [x] := if_pos h

theorem letIn_of_not_fits {kept : List α} {x : α} (h : fits kept x = false) : letIn fits kept x = kept :=
  if_neg (by simp [h])

theorem letAllIn_cons (first : List α) (x : α) (others : List α) :
    letAllIn fits first (x :: others) = letAllIn fits (letIn fits first x) others := rfl

theorem letAllIn_concat (first others : List α) (x : α) :
    letAllIn fits first (others ++ [x]) = letIn fits (letAllIn fits first others) x := by
  rw [letAllIn, List.foldl_append]
  rfl

variable (fits) in
theorem exists_admitted (first others : List α) :
    ∃ came, letAllIn fits first others = first ++ came ∧ came.Sublist others := by
  induction others using List.reverseRecOn with
  | nil => exact ⟨[], (List.append_nil first).symm, .slnil⟩
  | append_singleton others x ih =>
    obtain ⟨came, hall, hsub⟩ := ih
    rw [letAllIn_concat]
    cases h : fits (letAllIn fits first others) x with
    | true =>
      refine ⟨came ++ [x], ?_, hsub.append (.refl [x])⟩
      rw [letIn_of_fits h, hall, List.append_assoc]
    | false =>
      refine ⟨came, ?_, hsub.trans (List.sublist_append_left others [x])⟩
      rw [letIn_of_not_fits h, hall]

variable (fits) in
theorem first_isFront (first others : List α) : first <+: letAllIn fits first others := by
  obtain ⟨came, hall, -⟩ := exists_admitted fits first others
  exact ⟨came, hall.symm⟩

/-- What came in fits beside all that stand before it. -/
theorem fits_of_admitted {first others front back : List α} {x : α}
    (h : letAllIn fits first others = front ++ x :: back) (hfirst : first.length ≤ front.length) :
    fits front x = true := by
  induction others using List.reverseRecOn generalizing back with
  | nil =>
    have hlength : first.length = front.length + (back.length + 1) := by
      rw [show first = front ++ x :: back from h, List.length_append, List.length_cons]
    omega
  | append_singleton others y ih =>
    rw [letAllIn_concat] at h
    cases hfits : fits (letAllIn fits first others) y with
    | false =>
      rw [letIn_of_not_fits hfits] at h
      exact ih h
    | true =>
      rw [letIn_of_fits hfits] at h
      -- the last item is either the one in question or stands behind it
      obtain rfl | ⟨back, last, rfl⟩ := List.eq_nil_or_concat' back
      · obtain ⟨rfl, hlast⟩ := List.append_inj' h rfl
        obtain rfl : y = x := List.singleton_inj.1 hlast
        exact hfits
      · rw [← List.cons_append, ← List.append_assoc] at h
        exact ih (List.append_inj' h rfl).1

/-- What came in from the front of the others is a front of all that came in. -/
theorem letAllIn_isFront (fits : List α → α → Bool) (first before after : List α) :
    letAllIn fits first before <+: letAllIn fits first (before ++ after) := by
  rw [letAllIn, letAllIn, List.foldl_append]
  exact first_isFront fits _ after

/-- What did not come in did not fit beside what was there at its turn. -/
theorem mem_or_refused (fits : List α → α → Bool) (first before after : List α) (x : α) :
    x ∈ letAllIn fits first (before ++ x :: after) ∨ fits (letAllIn fits first before) x = false := by
  cases h : fits (letAllIn fits first before) x with
  | false => exact .inr rfl
  | true =>
    have hfront := letAllIn_isFront fits first (before ++ [x]) after
    rw [letAllIn_concat, letIn_of_fits h, List.append_assoc, List.singleton_append] at hfront
    exact .inl (hfront.subset (List.mem_append_right _ (List.mem_singleton_self x)))

/-- What fitting says of each item before and the new one holds of any two that came in. -/
theorem letAllIn_pairwise {R : α → α → Prop} (h : ∀ kept x, fits kept x = true → ∀ k ∈ kept, R k x) (others : List α) :
    (letAllIn fits [] others).Pairwise R := by
  induction others using List.reverseRecOn with
  | nil => exact .nil
  | append_singleton others x ih =>
    rw [letAllIn_concat, letIn]
    split
    · rename_i hfits
      refine List.pairwise_append.2 ⟨ih, List.pairwise_singleton _ _, fun k hk y hy => ?_⟩
      obtain rfl := List.mem_singleton.1 hy
      exact h _ _ hfits k hk
    · exact ih

section

variable [DecidableEq α]

/-- one item more, and the distinct ones that were met -/
theorem eraseDups_concat (xs : List α) (x : α) :
    (xs ++ [x]).eraseDups = if x ∈ xs then xs.eraseDups else xs.eraseDups ++ [x] := by
  rw [List.eraseDups_append, List.cons_removeAll]
  by_cases h : x ∈ xs <;> simp [h, List.eraseDups_cons]

/-- Where an item that came in or was refused is refused from then on, each item comes in at its first turn. -/
theorem letAllIn_sublist_eraseDups (hin : ∀ kept x, x ∈ kept → fits kept x = false)
    (hout : ∀ kept more x, fits kept x = false → fits (kept ++ more) x = false) (others : List α) :
    (letAllIn fits [] others).Sublist others.eraseDups := by
  induction others using List.reverseRecOn with
  | nil => exact .slnil
  | append_singleton others x ih =>
    rw [letAllIn_concat, eraseDups_concat]
    by_cases hmet : x ∈ others
    · have hrefused : fits (letAllIn fits [] others) x = false := by
        obtain ⟨before, after, rfl⟩ := List.append_of_mem hmet
        rcases mem_or_refused fits [] before after x with hcame | hbefore
        · exact hin _ x hcame
        · obtain ⟨more, hmore⟩ := letAllIn_isFront fits [] before (x :: after)
          rw [← hmore]
          exact hout _ more x hbefore
      rw [letIn_of_not_fits hrefused, if_pos hmet]
      exact ih
    · rw [if_neg hmet, letIn]
      split
      · exact ih.append (.refl [x])
      · exact ih.trans (List.sublist_append_left _ [x])

end

end CodeSurvey
