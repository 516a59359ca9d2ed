/-
A pattern in two versions of a text.

A `Piece` is a character of both versions, or what stands between two equal marks and reads differently in each.
`touchedFrom` says of each character of a text whether a match starts at it or takes it in, and a pattern spares the
changed pieces when no match, in either version, touches one of their characters.

`findAll_eq`: the matches of such a pattern are the same in both versions. The induction is over the pieces. Up to the
next changed piece the texts are the same, and no match goes on beyond it, so `matchHere_congr` applies at each place;
over a changed piece both searches pass without a match, and stand behind the same mark.
-/
import CodeSurvey.Proofs.Pattern.Ways

namespace CodeSurvey

/-- one of two versions of a text -/
inductive Version where
  | old
  | new
  deriving DecidableEq, Repr

instance (p : Version → Prop) [DecidablePred p] : Decidable (∀ v, p v) :=
  decidable_of_iff (p .old ∧ p .new)
    ⟨fun h v => by
      cases v
      · exact h.1
      · exact h.2, fun h => ⟨h .old, h .new⟩⟩

/-- a character of both versions, or what stands between two equal marks in each -/
inductive Piece where
  | same (c : Char)
  | changed (mark : Char) (content : Version → List Char)

namespace Piece

def chars (v : Version) : Piece → List Char
  | same c => [c]
  | changed mark content => mark :: content v ++ [mark]

def isChanged : Piece → Bool
  | same _ => false
  | changed _ _ => true

/-- the text that the pieces write -/
def text (v : Version) (ps : List Piece) : List Char := ps.flatMap (chars v)

/-- for each character of the text, whether it is one of a changed piece -/
def marks (v : Version) (ps : List Piece) : List Bool := ps.flatMap fun x => (x.chars v).map fun _ => x.isChanged

theorem text_cons (v : Version) (x : Piece) (ps : List Piece) : text v (x :: ps) = x.chars v ++ text v ps :=
  List.flatMap_cons

theorem marks_changed (v : Version) (mark : Char) (content : Version → List Char) (ps : List Piece) :
    marks v (changed mark content :: ps) =
      List.replicate ((changed mark content).chars v).length true ++ marks v ps := by
  rw [marks, List.flatMap_cons, ← marks, isChanged, List.map_const']

theorem text_map_same (v : Version) (front : List Char) (ps : List Piece) :
    text v (front.map same ++ ps) = front ++ text v ps := by
  induction front with
  | nil => rfl
  | cons c front ih => rw [List.map_cons, List.cons_append, text_cons, ih]; rfl

/-- a text is the same in both versions, or it is so up to its first changed piece -/
theorem exists_front (ps : List Piece) :
    (∀ v w, text v ps = text w ps) ∨
      ∃ (front : List Char) (mark : Char) (content : Version → List Char) (after : List Piece),
        ps = front.map same ++ changed mark content :: after := by
  induction ps with
  | nil => exact .inl fun _ _ => rfl
  | cons x ps ih =>
    cases x with
    | changed mark content => exact .inr ⟨[], mark, content, ps, rfl⟩
    | same c =>
      obtain hsame | ⟨front, mark, content, after, rfl⟩ := ih
      · exact .inl fun v w => by rw [text_cons, text_cons, hsame v w]; rfl
      · exact .inr ⟨c :: front, mark, content, after, rfl⟩

end Piece

namespace Pattern

variable {p : Pattern}

/-! ## What matches touch -/

/-- for each character, whether a match starts at it or takes it in; the first `skip` belong to a match already -/
def touchedFrom (p : Pattern) (lead : Option Char) (skip : Nat) : List Char → List Bool
  | [] => []
  | c :: cs =>
    match skip with
    | n + 1 => true :: touchedFrom p (some c) n cs
    | 0 =>
      match p.matchHere lead (c :: cs) with
      | some m => true :: touchedFrom p (some c) (m.text.length - 1) cs
      | none => false :: touchedFrom p (some c) 0 cs

/-- from here on no match touches a changed piece -/
def SparesFrom (p : Pattern) (lead : Option Char) (skip : Nat) (v : Version) (ps : List Piece) : Prop :=
  (true, true) ∉ (p.touchedFrom lead skip (Piece.text v ps)).zip (Piece.marks v ps)

/-- no match touches a changed piece, in either version -/
def Spares (p : Pattern) (ps : List Piece) : Prop := ∀ v, p.SparesFrom none 0 v ps

instance (p : Pattern) (lead : Option Char) (skip : Nat) (v : Version) (ps : List Piece) :
    Decidable (p.SparesFrom lead skip v ps) :=
  inferInstanceAs (Decidable ((true, true) ∉ (p.touchedFrom lead skip (Piece.text v ps)).zip (Piece.marks v ps)))

instance (p : Pattern) (ps : List Piece) : Decidable (p.Spares ps) :=
  inferInstanceAs (Decidable (∀ v, p.SparesFrom none 0 v ps))

section

variable {lead : Option Char} {v : Version} {ps : List Piece}

theorem SparesFrom.skipped {c : Char} {n : Nat} (h : p.SparesFrom lead (n + 1) v (.same c :: ps)) :
    p.SparesFrom (some c) n v ps :=
  fun hmem => h (List.mem_cons_of_mem _ hmem)

theorem SparesFrom.of_none {c : Char} (h : p.SparesFrom lead 0 v (.same c :: ps))
    (hnone : p.matchHere lead (c :: Piece.text v ps) = none) : p.SparesFrom (some c) 0 v ps := by
  rw [SparesFrom, Piece.text_cons, Piece.chars, List.singleton_append, touchedFrom, hnone] at h
  exact fun hmem => h (List.mem_cons_of_mem _ hmem)

theorem SparesFrom.of_some {c : Char} (h : p.SparesFrom lead 0 v (.same c :: ps)) {m : Match}
    (hsome : p.matchHere lead (c :: Piece.text v ps) = some m) : p.SparesFrom (some c) (m.text.length - 1) v ps := by
  rw [SparesFrom, Piece.text_cons, Piece.chars, List.singleton_append, touchedFrom, hsome] at h
  exact fun hmem => h (List.mem_cons_of_mem _ hmem)

/-- at a character that is to be spared stands no match -/
theorem untouched_cons {c : Char} {cs : List Char} {ms : List Bool} {skip : Nat}
    (h : (true, true) ∉ (p.touchedFrom lead skip (c :: cs)).zip (true :: ms)) :
    skip = 0 ∧ p.matchHere lead (c :: cs) = none ∧ (true, true) ∉ (p.touchedFrom (some c) 0 cs).zip ms := by
  rw [touchedFrom.eq_def] at h
  cases skip with
  | succ n => exact absurd List.mem_cons_self h
  | zero =>
    cases hhere : p.matchHere lead (c :: cs) with
    | some m =>
      simp only [hhere] at h
      exact absurd List.mem_cons_self h
    | none =>
      simp only [hhere] at h
      exact ⟨rfl, rfl, fun hmem => h (List.mem_cons_of_mem _ hmem)⟩

/-- a search passes characters that are to be spared -/
theorem untouched_append {cs rest : List Char} {ms : List Bool}
    (h : (true, true) ∉ (p.touchedFrom lead 0 (cs ++ rest)).zip (List.replicate cs.length true ++ ms)) :
    p.findAllFrom lead 0 (cs ++ rest) = p.findAllFrom (cs.foldl (fun _ c => some c) lead) 0 rest ∧
      (true, true) ∉ (p.touchedFrom (cs.foldl (fun _ c => some c) lead) 0 rest).zip ms := by
  induction cs generalizing lead with
  | nil => exact ⟨rfl, h⟩
  | cons c cs ih =>
    rw [List.cons_append, List.length_cons, List.replicate_succ, List.cons_append] at h
    obtain ⟨-, hnone, hrest⟩ := untouched_cons h
    rw [List.cons_append, findAllFrom, hnone]
    exact ih hrest

/-- Both searches come to stand behind the last mark of a changed piece. -/
theorem SparesFrom.pass {mark : Char} {content : Version → List Char} {skip : Nat}
    (h : p.SparesFrom lead skip v (.changed mark content :: ps)) :
    skip = 0 ∧
      p.findAllFrom lead 0 (Piece.text v (.changed mark content :: ps)) =
        p.findAllFrom (some mark) 0 (Piece.text v ps) ∧
      p.SparesFrom (some mark) 0 v ps := by
  rw [SparesFrom, Piece.text_cons, Piece.marks_changed] at h
  have hskip : skip = 0 := (untouched_cons h).1
  subst hskip
  have hpass := untouched_append h
  have hlast : ((Piece.changed mark content).chars v).foldl (fun _ c => some c) lead = some mark := by
    simp [Piece.chars]
  rw [hlast] at hpass
  exact ⟨rfl, by rw [Piece.text_cons]; exact hpass.1, hpass.2⟩

/-- a match ends before the next changed piece -/
theorem SparesFrom.skip_le {front : List Char} {mark : Char} {content : Version → List Char} {skip : Nat}
    (h : p.SparesFrom lead skip v (front.map .same ++ .changed mark content :: ps)) : skip ≤ front.length := by
  induction front generalizing lead skip with
  | nil => exact Nat.le_of_eq h.pass.1
  | cons c front ih =>
    cases skip with
    | zero => exact Nat.zero_le _
    | succ n => exact Nat.succ_le_succ (ih h.skipped)

end

/-! ## The matches in both versions -/

/-- the match at a character of both versions is the same in both -/
theorem matchHere_eq_of_spares {lead : Option Char} {c : Char} {ps : List Piece}
    (h : ∀ v, p.SparesFrom lead 0 v (.same c :: ps)) (v w : Version) :
    p.matchHere lead (c :: Piece.text v ps) = p.matchHere lead (c :: Piece.text w ps) := by
  obtain hsame | ⟨front, mark, content, after, rfl⟩ := Piece.exists_front ps
  · rw [hsame v w]
  · have htext : ∀ u, c :: Piece.text u (front.map .same ++ .changed mark content :: after) =
        (c :: front) ++ mark :: (content u ++ [mark] ++ Piece.text u after) := by
      intro u
      rw [Piece.text_map_same, Piece.text_cons]
      rfl
    have hshort : ∀ u m, p.matchHere lead
        ((c :: front) ++ mark :: (content u ++ [mark] ++ Piece.text u after)) = some m →
          m.text.length ≤ (c :: front).length := by
      intro u m hm
      rw [← htext] at hm
      have := ((h u).of_some hm).skip_le
      rw [List.length_cons]
      omega
    rw [htext, htext]
    exact matchHere_congr (hshort v) (hshort w)

theorem findAllFrom_eq {lead : Option Char} {skip : Nat} {ps : List Piece}
    (h : ∀ v, p.SparesFrom lead skip v ps) (v w : Version) :
    p.findAllFrom lead skip (Piece.text v ps) = p.findAllFrom lead skip (Piece.text w ps) := by
  induction ps generalizing lead skip with
  | nil => rfl
  | cons x ps ih =>
    cases x with
    | changed mark content =>
      obtain ⟨rfl, hv, -⟩ := (h v).pass
      rw [hv, (h w).pass.2.1]
      exact ih fun u => (h u).pass.2.2
    | same c =>
      rw [Piece.text_cons, Piece.text_cons, Piece.chars, Piece.chars, List.singleton_append, List.singleton_append]
      cases skip with
      | succ n => exact ih fun u => (h u).skipped
      | zero =>
        have hhere := matchHere_eq_of_spares h
        rw [findAllFrom, findAllFrom, hhere w v]
        cases hm : p.matchHere lead (c :: Piece.text v ps) with
        | none => exact ih fun u => (h u).of_none ((hhere u v).trans hm)
        | some m => exact congrArg (m :: ·) (ih fun u => (h u).of_some ((hhere u v).trans hm))

/-- **A pattern that spares the changed pieces has the same matches in both versions.** -/
theorem findAll_eq {ps : List Piece} (h : p.Spares ps) (v w : Version) :
    p.findAll (String.ofList (Piece.text v ps)) = p.findAll (String.ofList (Piece.text w ps)) := by
  rw [findAll, findAll, String.toList_ofList, String.toList_ofList]
  exact findAllFrom_eq h v w

end Pattern

end CodeSurvey
