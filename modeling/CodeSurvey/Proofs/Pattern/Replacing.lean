/-
Texts in which every match is replaced.

For a pattern without edges the character before a place has no part in what is found there, so the replacement goes
from match to match: `replaceAllFrom_match` and `replaceAllFrom_other` say what becomes of the front of a text, and the
rest is replaced by itself. `replacedBy` puts one and the same text in the place of every match. Erasing the matches
makes a text shorter if there are any (`length_replacedBy_lt`), which is the measure of a loop that erases until nothing
is found.
-/
import CodeSurvey.Proofs.Pattern.Repetitions

namespace CodeSurvey.Pattern

variable {p : Pattern}

theorem replaceAllFrom_lead (hp : p.edgeFree = true) (image : Match → List Char) (lead lead' : Option Char) (skip : Nat)
    (text : List Char) : p.replaceAllFrom image lead skip text = p.replaceAllFrom image lead' skip text := by
  cases text with
  | nil => rfl
  | cons c cs =>
    cases skip with
    | succ n => rfl
    | zero => rw [replaceAllFrom, replaceAllFrom, matchHere_lead hp lead lead']

theorem replaceAllFrom_skip (hp : p.edgeFree = true) (image : Match → List Char) (lead lead' : Option Char)
    (front rest : List Char) :
    p.replaceAllFrom image lead front.length (front ++ rest) = p.replaceAllFrom image lead' 0 rest := by
  induction front generalizing lead with
  | nil => exact replaceAllFrom_lead hp image lead lead' 0 rest
  | cons c front ih => exact ih (some c)

theorem replaceAllFrom_match (hp : p.edgeFree = true) (image : Match → List Char) {taken rest : List Char} {m : Match}
    (h : p.matchHere none (taken ++ rest) = some m) (htext : m.text = taken) (hne : taken ≠ []) :
    p.replaceAllFrom image none 0 (taken ++ rest) = image m ++ p.replaceAllFrom image none 0 rest := by
  obtain ⟨c, front, rfl⟩ := List.exists_cons_of_ne_nil hne
  rw [List.cons_append] at h
  have hlength : m.text.length - 1 = front.length := by rw [htext, List.length_cons, Nat.add_sub_cancel]
  rw [List.cons_append, replaceAllFrom, h]
  exact congrArg (image m ++ ·) (hlength ▸ replaceAllFrom_skip hp image (some c) none front rest)

theorem replaceAllFrom_other (hp : p.edgeFree = true) (image : Match → List Char) {c : Char} {rest : List Char}
    (h : p.matchHere none (c :: rest) = none) :
    p.replaceAllFrom image none 0 (c :: rest) = c :: p.replaceAllFrom image none 0 rest := by
  rw [replaceAllFrom, h]
  exact congrArg (c :: ·) (replaceAllFrom_lead hp image (some c) none 0 rest)

/-- the text with every match replaced by the image -/
def replacedBy (p : Pattern) (image text : List Char) : List Char := p.replaceAllFrom (fun _ => image) none 0 text

theorem replaceAll_eq (p : Pattern) (image s : String) :
    p.replaceAll (fun _ => image) s = String.ofList (p.replacedBy image.toList s.toList) := rfl

theorem replacedBy_match (hp : p.edgeFree = true) (image : List Char) {taken rest : List Char} {m : Match}
    (h : p.matchHere none (taken ++ rest) = some m) (htext : m.text = taken) (hne : taken ≠ []) :
    p.replacedBy image (taken ++ rest) = image ++ p.replacedBy image rest :=
  replaceAllFrom_match hp (fun _ => image) h htext hne

theorem replacedBy_other (hp : p.edgeFree = true) (image : List Char) {c : Char} {rest : List Char}
    (h : p.matchHere none (c :: rest) = none) : p.replacedBy image (c :: rest) = c :: p.replacedBy image rest :=
  replaceAllFrom_other hp (fun _ => image) h

/-- a pattern without edges occurs in a text if it matches at some place -/
theorem findFrom_isSome_iff (hp : p.edgeFree = true) (lead : Option Char) (text : List Char) :
    (p.findFrom lead text).isSome ↔ ∃ front back, text = front ++ back ∧ (p.matchHere none back).isSome := by
  induction text generalizing lead with
  | nil =>
    rw [findFrom, matchHere_lead hp lead none]
    constructor
    · exact fun h => ⟨[], [], rfl, h⟩
    · rintro ⟨front, back, htext, h⟩
      rw [(List.append_eq_nil_iff.1 htext.symm).2] at h
      exact h
  | cons c cs ih =>
    rw [findFrom, matchHere_lead hp lead none, Option.orElse_eq_or, Option.isSome_or, Bool.or_eq_true, ih]
    constructor
    · rintro (h | ⟨front, back, rfl, h⟩)
      · exact ⟨[], c :: cs, rfl, h⟩
      · exact ⟨c :: front, back, rfl, h⟩
    · rintro ⟨front, back, htext, h⟩
      cases front with
      | nil =>
        rw [List.nil_append] at htext
        exact .inl (htext ▸ h)
      | cons d front => exact .inr ⟨front, back, (List.cons.inj htext).2, h⟩

theorem occurs_iff (hp : p.edgeFree = true) (s : String) :
    p.occurs s = true ↔ ∃ front back, s.toList = front ++ back ∧ (p.matchHere none back).isSome :=
  findFrom_isSome_iff hp none s.toList

/-- a text stays as it is where the pattern does not occur -/
theorem replacedBy_of_not_occurs (hp : p.edgeFree = true) (image : List Char) {s : String} (h : p.occurs s = false) :
    p.replacedBy image s.toList = s.toList := by
  have hnone : ∀ front back, s.toList = front ++ back → p.matchHere none back = none := by
    intro front back hsplit
    refine Option.not_isSome_iff_eq_none.1 fun hsome => ?_
    exact Bool.false_ne_true (h.symm.trans ((occurs_iff hp s).2 ⟨front, back, hsplit, hsome⟩))
  clear h
  generalize s.toList = text at hnone ⊢
  induction text with
  | nil => rfl
  | cons c text ih =>
    rw [replacedBy_other hp image (hnone [] _ rfl),
      ih fun front back hsplit => hnone (c :: front) back (congrArg (c :: ·) hsplit)]

/-! ## Erasing -/

theorem length_replaceAllFrom_le (lead : Option Char) (skip : Nat) (text : List Char) :
    (p.replaceAllFrom (fun _ => []) lead skip text).length ≤ text.length - skip := by
  induction text generalizing lead skip with
  | nil => exact Nat.zero_le _
  | cons c cs ih =>
    rw [List.length_cons]
    cases skip with
    | succ n =>
      have := ih (some c) n
      rw [replaceAllFrom]
      omega
    | zero =>
      rw [replaceAllFrom]
      cases p.matchHere lead (c :: cs) with
      | none =>
        have := ih (some c) 0
        rw [List.length_cons]
        omega
      | some m =>
        have := ih (some c) (m.text.length - 1)
        show (p.replaceAllFrom (fun _ => []) (some c) (m.text.length - 1) cs).length ≤ cs.length + 1
        omega

theorem length_replaceAllFrom_lt (hempty : ∀ lead, p.matchHere lead [] = none) {lead : Option Char} {text : List Char}
    (h : (p.findFrom lead text).isSome) :
    (p.replaceAllFrom (fun _ => []) lead 0 text).length < text.length := by
  induction text generalizing lead with
  | nil =>
    rw [findFrom, hempty] at h
    cases h
  | cons c cs ih =>
    rw [findFrom] at h
    rw [replaceAllFrom, List.length_cons]
    cases hm : p.matchHere lead (c :: cs) with
    | none =>
      rw [hm] at h
      exact Nat.succ_lt_succ (ih h)
    | some m =>
      have := p.length_replaceAllFrom_le (some c) (m.text.length - 1) cs
      show (p.replaceAllFrom (fun _ => []) (some c) (m.text.length - 1) cs).length < cs.length + 1
      omega

/-- **Erasing the matches of a text makes it shorter**, if there are any. -/
theorem length_replacedBy_lt (hempty : ∀ lead, p.matchHere lead [] = none) {s : String} (h : p.occurs s = true) :
    (p.replacedBy [] s.toList).length < s.toList.length :=
  length_replaceAllFrom_lt hempty h

end CodeSurvey.Pattern
