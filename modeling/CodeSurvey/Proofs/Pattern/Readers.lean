/-
A text read in two versions.

A reader goes from character to character, and `Reading` is all it knows at each: whether a match would still count,
whether only blanks stand before on the line, and how many characters belong to a match already. Its `step` leads behind
one character. It finds what a search does that stops at the first match (`find?_eq`), and up to leading blanks what one
does for all matches of a pattern that starts at a line (`groups_findAllFrom`).

Of a text with some chosen lines there are two versions, which differ in what stands on these. `avoids` says that a
reading touches no chosen line, nor the line feed before it. `found_eq`: a reader whose readings of both versions avoid
the chosen lines finds the same in both. The induction is over the lines, and over the characters of one line within it.
A match ends before the next chosen line, so `matchHere_congr` applies; over a chosen line both readings pass, and what
they know then differs only in whether the line was blank so far, which the next line feed makes them forget.
-/
import CodeSurvey.Proofs.Pattern.LeadingBlanks
import CodeSurvey.Proofs.Pattern.Versions

namespace CodeSurvey

open Text

/-- how a text is searched for a pattern -/
structure Reader where
  pattern : Pattern
  /-- a match starts only where nothing but blanks stand before it on its line -/
  indented : Bool
  /-- all matches count, and not only the first one -/
  repeated : Bool

/-- what is looked for: a pattern without edges that does not match the empty text -/
structure Pattern.Sought (p : Pattern) : Prop where
  free : p.edgeFree = true
  filled : p.matchHere none [] = none

namespace Reader

/-- what a reader knows at a place of a text -/
structure Reading where
  /-- a match would still count -/
  live : Bool
  /-- only blanks stand before on the line -/
  fresh : Bool
  /-- how many of the next characters belong to a match -/
  inside : Nat

def Reading.start : Reading := ⟨true, true, 0⟩

variable {r : Reader}

/-- the match that a reader finds at a character -/
def begins? (r : Reader) (s : Reading) (c : Char) (rest : List Char) : Option Match :=
  if s.inside == 0 && s.live && (!r.indented || s.fresh && !isBlank c) then r.pattern.matchHere (some '\n') (c :: rest)
  else none

/-- what a reader knows behind a character -/
def step (r : Reader) (s : Reading) (c : Char) (found : Option Match) : Reading where
  live := s.live && (found.isNone || r.repeated)
  fresh := c == '\n' || s.fresh && isBlank c
  inside := (found.map fun m => m.text.length - 1).getD (s.inside - 1)

/-- the matches that a reader finds from a place on -/
def foundFrom (r : Reader) : Reading → List Char → List Match
  | _, [] => []
  | s, c :: cs => (r.begins? s c cs).toList ++ r.foundFrom (r.step s c (r.begins? s c cs)) cs

/-- no match starts at a marked character or takes it in -/
def avoids (r : Reader) : Reading → List (Char × Bool) → Bool
  | _, [] => true
  | s, (c, marked) :: cs =>
    let found := r.begins? s c (cs.map (·.1))
    !(marked && (s.inside != 0 || found.isSome)) && r.avoids (r.step s c found) cs

/-- the matches that a reader finds in a text -/
def found (r : Reader) (text : List Char) : List Match := r.foundFrom .start text

theorem begins?_of_inside {s : Reading} (h : s.inside ≠ 0) (c : Char) (rest : List Char) :
    r.begins? s c rest = none := by
  rw [begins?, if_neg (by simp [h])]

/-! ## Searches as readings -/

/-- the reader that stops at the first match -/
def first (p : Pattern) : Reader := ⟨p, false, false⟩

/-- the reader for all matches at the starts of lines, blanks passed over -/
def atLines (p : Pattern) : Reader := ⟨p, true, true⟩

theorem ne_lineFeed {c : Char} (h : isBlank c = false) : c ≠ '\n' := by
  rintro rfl
  exact absurd h (by decide)

theorem foundFrom_of_not_live {s : Reading} (h : s.live = false) (text : List Char) : r.foundFrom s text = [] := by
  induction text generalizing s with
  | nil => rfl
  | cons c text ih =>
    have hnone : r.begins? s c text = none := by rw [begins?, if_neg (by simp [h])]
    rw [foundFrom, hnone, ih (by simp [step, h])]
    rfl

section

variable {p core : Pattern}

theorem foundFrom_first (hp : p.Sought) (lead : Option Char) (fresh : Bool) (text : List Char) :
    (first p).foundFrom ⟨true, fresh, 0⟩ text = (p.findFrom lead text).toList := by
  induction text generalizing lead fresh with
  | nil =>
    rw [Pattern.findFrom, Pattern.matchHere_lead hp.free lead none, hp.filled]
    rfl
  | cons c text ih =>
    have hhere : (first p).begins? ⟨true, fresh, 0⟩ c text = p.matchHere lead (c :: text) :=
      Pattern.matchHere_lead hp.free _ _ _
    rw [foundFrom, hhere, Pattern.findFrom]
    cases p.matchHere lead (c :: text) with
    | none => exact ih (some c) _
    | some m =>
      rw [foundFrom_of_not_live rfl]
      rfl

/-- **The search for the first match finds what its reader does.** -/
theorem find?_eq (hp : p.Sought) (s : String) : p.find? s = ((first p).found s.toList).head? := by
  rw [found, Reading.start, foundFrom_first hp none]
  cases h : p.findFrom none s.toList <;> exact h

/-- blanks at the start of a line are passed over -/
theorem foundFrom_blanks {blanks : List Char} (h : Blank blanks) (text : List Char) :
    (atLines p).foundFrom .start (blanks ++ text) = (atLines p).foundFrom .start text := by
  induction blanks with
  | nil => rfl
  | cons c blanks ih =>
    have hblank : isBlank c = true := h c List.mem_cons_self
    have hnone : (atLines p).begins? .start c (blanks ++ text) = none := by
      rw [begins?, if_neg (by simp [atLines, hblank])]
    have hstep : (atLines p).step .start c none = .start := by simp [step, Reading.start, hblank]
    rw [List.cons_append, foundFrom, hnone, hstep, ih fun d hd => h d (List.mem_cons_of_mem c hd)]
    rfl

/-- a match is passed over; behind it the line is not blank if the match ends with no blank -/
theorem foundFrom_inside {inner : List Char} {live fresh : Bool}
    (h : ∀ c ∈ inner.getLast?, isBlank c = false) (hfresh : inner = [] → fresh = false) (text : List Char) :
    r.foundFrom ⟨live, fresh, inner.length⟩ (inner ++ text) = r.foundFrom ⟨live, false, 0⟩ text := by
  induction inner generalizing fresh with
  | nil => rw [hfresh rfl]; rfl
  | cons c inner ih =>
    have hnone : r.begins? ⟨live, fresh, inner.length + 1⟩ c (inner ++ text) = none :=
      begins?_of_inside (Nat.succ_ne_zero _) _ _
    have hstep : r.step ⟨live, fresh, inner.length + 1⟩ c none =
        ⟨live, c == '\n' || fresh && isBlank c, inner.length⟩ := by simp [step]
    rw [List.length_cons, List.cons_append, foundFrom, hnone, hstep]
    refine ih (fun d hd => h d ?_) fun hnil => ?_
    · rw [List.getLast?_cons, hd]
      rfl
    · subst hnil
      have hc : isBlank c = false := h c rfl
      simp [hc, ne_lineFeed hc]

theorem startsLine_of_not_isBlank {c : Char} (h : isBlank c = false) : Pattern.startsLine (some c) = false := by
  simp [Pattern.startsLine, ne_lineFeed h]

/-- a text starts with its blanks -/
theorem exists_blanks (text : List Char) :
    ∃ blanks rest, text = blanks ++ rest ∧ Blank blanks ∧ ∀ c ∈ rest.head?, isBlank c = false := by
  refine ⟨text.takeWhile isBlank, text.dropWhile isBlank, List.takeWhile_append_dropWhile.symm, ?_, ?_⟩
  · exact fun c hc => List.all_eq_true.1 List.all_takeWhile c hc
  · intro c hc
    have := List.head?_dropWhile_not isBlank text
    rw [hc] at this
    simpa using this

theorem foundFrom_none {c : Char} {text : List Char} (hc : isBlank c = false)
    (hnone : p.matchHere (some '\n') (c :: text) = none) :
    (atLines p).foundFrom .start (c :: text) = (atLines p).foundFrom ⟨true, false, 0⟩ text := by
  have hbegins : (atLines p).begins? .start c text = none := by
    rw [begins?]
    split
    · exact hnone
    · rfl
  have hstep : (atLines p).step .start c none = ⟨true, false, 0⟩ := by
    simp [step, Reading.start, hc, ne_lineFeed hc]
  rw [foundFrom, hbegins, hstep]
  rfl

theorem foundFrom_match (h : p.LineLed core) {m : Match} {back : List Char}
    (hcore : core.matchHere none (m.text ++ back) = some m) : ∃ m', m'.groups = m.groups ∧
      (atLines p).foundFrom .start (m.text ++ back) = m' :: (atLines p).foundFrom ⟨true, false, 0⟩ back := by
  obtain ⟨c, cs, hstarts, hc⟩ := h.starts hcore
  obtain ⟨last, hlast, hlastBlank⟩ := h.ends hcore
  cases htext : m.text with
  | nil =>
    rw [htext] at hlast
    cases hlast
  | cons d inner =>
    rw [htext] at hcore hstarts hlast
    obtain rfl : d = c := (List.cons.inj hstarts).1
    have hhere : p.matchHere (some '\n') (d :: inner ++ back) = some (m.behind []) := by
      have hgap : p.matchHere (some '\n') ([] ++ (d :: inner ++ back)) = _ :=
        h.matchHere_gap rfl blank_nil (by simpa using hc)
      rw [hcore] at hgap
      exact hgap
    have hbegins : (atLines p).begins? .start d (inner ++ back) = some (m.behind []) := by
      rw [begins?, if_pos (by simp [atLines, Reading.start, hc])]
      exact hhere
    have hstep : (atLines p).step .start d (some (m.behind [])) = ⟨true, false, inner.length⟩ := by
      simp [step, Reading.start, atLines, Match.behind, htext, hc, ne_lineFeed hc]
    refine ⟨m.behind [], rfl, ?_⟩
    rw [List.cons_append, foundFrom, hbegins, hstep, foundFrom_inside (fun e he => ?_) fun _ => rfl]
    · rfl
    · rw [List.getLast?_cons, he, Option.getD_some] at hlast
      rwa [Option.some.inj hlast]

/-- **The search of a pattern led by a line start finds what its reader does**, up to the blanks before a match. -/
theorem groups_findAllFrom (h : p.LineLed core) (lead : Option Char) (text : List Char) :
    (p.findAllFrom lead 0 text).map (·.groups) =
      ((atLines p).foundFrom ⟨true, Pattern.startsLine lead, 0⟩ text).map (·.groups) := by
  induction hlength : text.length using Nat.strongRecOn generalizing text lead with
  | _ n ih =>
    subst hlength
    cases hlead : Pattern.startsLine lead with
    | false =>
      cases text with
      | nil =>
        rw [Pattern.findAllFrom, h.matchHere_of_not_startsLine hlead]
        rfl
      | cons c text =>
        have hnone : (atLines p).begins? ⟨true, false, 0⟩ c text = none := rfl
        rw [Pattern.findAllFrom, h.matchHere_of_not_startsLine hlead, foundFrom, hnone]
        have hbehind := ih text.length (Nat.lt_succ_self _) (some c) text rfl
        have hstep : (atLines p).step ⟨true, false, 0⟩ c none = ⟨true, Pattern.startsLine (some c), 0⟩ := by
          simp [step, Pattern.startsLine]
        rw [hstep]
        exact hbehind
    | true =>
      obtain ⟨blanks, rest, rfl, hblanks, hrest⟩ := exists_blanks text
      show _ = ((atLines p).foundFrom .start (blanks ++ rest)).map (·.groups)
      rw [foundFrom_blanks hblanks]
      cases hcore : core.matchHere none rest with
      | none =>
        have hnone : ∀ lead, p.matchHere lead rest = none := fun lead => h.matchHere_eq_none lead blank_nil hrest hcore
        rw [Pattern.findAllFrom_quiet (h.quiet lead hblanks hrest hcore)]
        cases rest with
        | nil =>
          rw [Pattern.findAllFrom, if_pos rfl, hnone]
          rfl
        | cons c rest =>
          have hc : isBlank c = false := hrest c rfl
          have hbehind := ih rest.length (by rw [List.length_append, List.length_cons]; omega) (some c) rest rfl
          rw [startsLine_of_not_isBlank hc] at hbehind
          rw [Pattern.findAllFrom, hnone, foundFrom_none hc (hnone _)]
          exact hbehind
      | some m =>
        obtain ⟨back, rfl⟩ := Pattern.matchHere_front hcore
        obtain ⟨m', hgroups, hfound⟩ := foundFrom_match h hcore
        obtain ⟨last, hlast, hlastBlank⟩ := h.ends hcore
        have hpos : m.text ≠ [] := by
          intro hnil
          rw [hnil] at hlast
          cases hlast
        have hshort : back.length < (blanks ++ (m.text ++ back)).length := by
          have := List.length_pos_iff.2 hpos
          rw [List.length_append, List.length_append]
          omega
        have hbehind := ih back.length hshort (some last) back rfl
        rw [startsLine_of_not_isBlank hlastBlank] at hbehind
        rw [h.findAllFrom_match hlead hblanks hcore rfl, hfound, hlast, List.map_cons, List.map_cons, hbehind, hgroups]
        rfl

end

/-! ## Readings that avoid marked characters -/

/-- the characters, all of them marked or none -/
def allMarked (marked : Bool) (cs : List Char) : List (Char × Bool) := cs.map (·, marked)

theorem map_fst_allMarked (marked : Bool) (cs : List Char) : (allMarked marked cs).map (·.1) = cs := by
  rw [allMarked, List.map_map]
  exact List.map_id cs

theorem map_fst_append (marked : Bool) (cs : List Char) (rest : List (Char × Bool)) :
    (allMarked marked cs ++ rest).map (·.1) = cs ++ rest.map (·.1) := by
  rw [List.map_append, map_fst_allMarked]

theorem avoids_cons {s : Reading} {c : Char} {marked : Bool} {cs : List (Char × Bool)}
    (h : r.avoids s ((c, marked) :: cs) = true) :
    (marked = true → s.inside = 0 ∧ r.begins? s c (cs.map (·.1)) = none) ∧
      r.avoids (r.step s c (r.begins? s c (cs.map (·.1)))) cs = true := by
  obtain ⟨hhere, hbehind⟩ := Bool.and_eq_true_iff.1 h
  refine ⟨?_, hbehind⟩
  rintro rfl
  simpa using hhere

/-- a match ends before the next marked character -/
theorem inside_le {s : Reading} {front : List Char} {mark : Char} {rest : List (Char × Bool)}
    (h : r.avoids s (allMarked false front ++ (mark, true) :: rest) = true) : s.inside ≤ front.length := by
  induction front generalizing s with
  | nil => exact Nat.le_of_eq ((avoids_cons h).1 rfl).1
  | cons c front ih =>
    by_cases hinside : s.inside = 0
    · exact hinside ▸ Nat.zero_le _
    · have hbehind := ih (avoids_cons h).2
      rw [begins?_of_inside hinside] at hbehind
      have hbehind : s.inside - 1 ≤ front.length := hbehind
      rw [List.length_cons]
      omega

/-- A reading passes over marked characters, and knows as much behind them but for what stands on the line. -/
theorem exists_pass {s : Reading} (hs : s.inside = 0) {cs : List Char} {rest : List (Char × Bool)}
    (h : r.avoids s (allMarked true cs ++ rest) = true) :
    ∃ fresh, r.foundFrom s (cs ++ rest.map (·.1)) = r.foundFrom ⟨s.live, fresh, 0⟩ (rest.map (·.1)) ∧
      r.avoids ⟨s.live, fresh, 0⟩ rest = true := by
  induction cs generalizing s with
  | nil =>
    obtain ⟨live, fresh, inside⟩ := s
    obtain rfl : inside = 0 := hs
    exact ⟨fresh, rfl, h⟩
  | cons c cs ih =>
    have hmarked : r.avoids s ((c, true) :: (allMarked true cs ++ rest)) = true := h
    obtain ⟨hhere, hbehind⟩ := avoids_cons hmarked
    have hnone := (hhere rfl).2
    rw [hnone] at hbehind
    rw [map_fst_append] at hnone
    have hstep : (r.step s c none).inside = 0 := by simp [step, hs]
    obtain ⟨fresh, hfound, havoids⟩ := ih hstep hbehind
    have hlive : (r.step s c none).live = s.live := by simp [step]
    rw [hlive] at hfound havoids
    refine ⟨fresh, ?_, havoids⟩
    rw [List.cons_append, foundFrom, hnone]
    exact hfound

/-! ## Lines in two versions -/

end Reader

/-- a line in two versions of a text, which are the same unless it is chosen -/
structure VersionedLine where
  chosen : Bool
  content : Version → List Char
  same : chosen = false → ∀ v w, content v = content w

namespace VersionedLine

/-- the characters, with what is chosen marked -/
def marked (v : Version) (l : VersionedLine) : List (Char × Bool) := Reader.allMarked l.chosen (l.content v)

/-- the lines behind another one, each behind its line feed -/
def behind (v : Version) (ls : List VersionedLine) : List (Char × Bool) :=
  ls.flatMap fun l => ('\n', l.chosen) :: l.marked v

/-- a text of lines -/
def text (v : Version) : List VersionedLine → List (Char × Bool)
  | [] => []
  | l :: ls => l.marked v ++ behind v ls

theorem behind_cons (v : Version) (l : VersionedLine) (ls : List VersionedLine) :
    behind v (l :: ls) = ('\n', l.chosen) :: (l.marked v ++ behind v ls) :=
  List.flatMap_cons

theorem map_fst_text (v : Version) {ls : List VersionedLine} :
    (text v ls).map (·.1) = ['\n'].intercalate (ls.map (·.content v)) := by
  have hmarked (l : VersionedLine) : (l.marked v).map (·.1) = l.content v := Reader.map_fst_allMarked l.chosen _
  cases ls with
  | nil => rfl
  | cons l ls =>
    rw [text, List.map_append, hmarked, List.map_cons]
    induction ls generalizing l with
    | nil => simp [behind]
    | cons l' ls ih =>
      rw [List.map_cons, List.intercalate_cons_cons, ← ih l', behind_cons, List.map_cons, List.map_append, hmarked,
        List.append_assoc]
      rfl

/-- the lines are the same in both versions, or they are so up to the line feed before a chosen one -/
theorem exists_front (ls : List VersionedLine) : (∀ v w, behind v ls = behind w ls) ∨
    ∃ front, ∀ v, ∃ back, behind v ls = Reader.allMarked false front ++ ('\n', true) :: back := by
  induction ls with
  | nil => exact .inl fun _ _ => rfl
  | cons l ls ih =>
    cases hchosen : l.chosen with
    | true => exact .inr ⟨[], fun v => ⟨l.marked v ++ behind v ls, by rw [behind_cons, hchosen]; rfl⟩⟩
    | false =>
      have hsame := l.same hchosen
      rcases ih with hothers | ⟨front, hfront⟩
      · refine .inl fun v w => ?_
        rw [behind_cons, behind_cons, hothers v w, marked, marked, hsame v w]
      · refine .inr ⟨'\n' :: (l.content .old ++ front), fun v => ?_⟩
        obtain ⟨back, hback⟩ := hfront v
        refine ⟨back, ?_⟩
        rw [behind_cons, hback, marked, hsame v .old, hchosen]
        simp [Reader.allMarked]

end VersionedLine

namespace Reader

variable {r : Reader} {ls : List VersionedLine}

/-! ## What is found in both versions -/

/-- the text of both versions: some characters of a line, and the lines behind it -/
def onward (cs : List Char) (v : Version) (ls : List VersionedLine) : List (Char × Bool) :=
  allMarked false cs ++ VersionedLine.behind v ls

/-- **At a character of both versions a reader finds the same match**, as both end before the next chosen line. -/
theorem begins?_eq {s : Reading} {c : Char} {cs : List Char} (h : ∀ v, r.avoids s (onward (c :: cs) v ls) = true)
    (v w : Version) : r.begins? s c ((onward cs v ls).map (·.1)) = r.begins? s c ((onward cs w ls).map (·.1)) := by
  obtain hsame | ⟨front, hfront⟩ := VersionedLine.exists_front ls
  · rw [onward, onward, hsame v w]
  · have hshort : ∀ u, ∃ tail, (onward cs u ls).map (·.1) = (cs ++ front) ++ '\n' :: tail ∧
        ∀ m, r.begins? s c ((onward cs u ls).map (·.1)) = some m → m.text.length ≤ (c :: (cs ++ front)).length := by
      intro u
      obtain ⟨back, hback⟩ := hfront u
      have htext : onward cs u ls = allMarked false (cs ++ front) ++ ('\n', true) :: back := by
        rw [onward, hback, ← List.append_assoc, allMarked, allMarked, ← List.map_append]
        rfl
      refine ⟨back.map (·.1), by rw [htext, map_fst_append]; rfl, fun m hm => ?_⟩
      have hbehind : r.avoids (r.step s c (r.begins? s c ((onward cs u ls).map (·.1)))) (onward cs u ls) = true :=
        (avoids_cons (h u)).2
      rw [hm, htext] at hbehind
      have hinside : m.text.length - 1 ≤ (cs ++ front).length := inside_le hbehind
      rw [List.length_cons]
      omega
    obtain ⟨tail, htail, hv⟩ := hshort v
    obtain ⟨tail', htail', hw⟩ := hshort w
    rw [htail] at hv ⊢
    rw [htail'] at hw ⊢
    rw [begins?, begins?] at *
    split
    · rename_i hcounts
      rw [if_pos hcounts] at hv hw
      rw [← List.cons_append, ← List.cons_append]
      exact Pattern.matchHere_congr hv hw
    · rfl

/-- At a line feed it does not matter what stands before on the line. -/
theorem begins?_lineFeed (live fresh fresh' : Bool) (inside : Nat) (rest : List Char) :
    r.begins? ⟨live, fresh, inside⟩ '\n' rest = r.begins? ⟨live, fresh', inside⟩ '\n' rest := by
  have hblank : isBlank '\n' = true := by decide
  simp [begins?, hblank]

theorem foundFrom_behind (live fresh fresh' : Bool) (inside : Nat) (v : Version) :
    r.foundFrom ⟨live, fresh, inside⟩ ((VersionedLine.behind v ls).map (·.1)) =
      r.foundFrom ⟨live, fresh', inside⟩ ((VersionedLine.behind v ls).map (·.1)) := by
  cases ls with
  | nil => rfl
  | cons l ls =>
    rw [VersionedLine.behind_cons, List.map_cons, foundFrom, foundFrom, begins?_lineFeed live fresh fresh']
    rfl

theorem avoids_behind (live fresh fresh' : Bool) (inside : Nat) (v : Version) :
    r.avoids ⟨live, fresh, inside⟩ (VersionedLine.behind v ls) =
      r.avoids ⟨live, fresh', inside⟩ (VersionedLine.behind v ls) := by
  cases ls with
  | nil => rfl
  | cons l ls =>
    rw [VersionedLine.behind_cons, avoids, avoids, begins?_lineFeed live fresh fresh']
    rfl

/-- Behind chosen characters a reading goes on alike in both versions. -/
theorem exists_pass_behind {s : Reading} (hs : s.inside = 0) {v : Version} {cs : List Char}
    (h : r.avoids s (allMarked true cs ++ VersionedLine.behind v ls) = true) :
    r.foundFrom s (cs ++ (VersionedLine.behind v ls).map (·.1)) =
        r.foundFrom ⟨s.live, true, 0⟩ ((onward [] v ls).map (·.1)) ∧
      r.avoids ⟨s.live, true, 0⟩ (onward [] v ls) = true := by
  obtain ⟨fresh, hfound, havoids⟩ := exists_pass hs h
  exact ⟨hfound.trans (foundFrom_behind s.live fresh true 0 v), (avoids_behind s.live true fresh 0 v).trans havoids⟩

theorem foundFrom_eq {s : Reading} {cs : List Char} (h : ∀ v, r.avoids s (onward cs v ls) = true) (v w : Version) :
    r.foundFrom s ((onward cs v ls).map (·.1)) = r.foundFrom s ((onward cs w ls).map (·.1)) := by
  induction ls generalizing s cs with
  | nil => rfl
  | cons l ls ih =>
    induction cs generalizing s with
    | nil =>
      cases hchosen : l.chosen with
      | true =>
        have hline : ∀ u, onward [] u (l :: ls) = allMarked true ('\n' :: l.content u) ++ VersionedLine.behind u ls := by
          intro u
          rw [onward, VersionedLine.behind_cons, VersionedLine.marked, hchosen]
          rfl
        have hs : s.inside = 0 := ((avoids_cons ((hline v) ▸ h v)).1 rfl).1
        have hpass := fun u => exists_pass_behind hs ((hline u) ▸ h u)
        rw [hline, hline, map_fst_append, map_fst_append, (hpass v).1, (hpass w).1]
        exact ih fun u => (hpass u).2
      | false =>
        have hline : ∀ u, onward [] u (l :: ls) = onward ('\n' :: l.content .old) u ls := by
          intro u
          rw [onward, VersionedLine.behind_cons, VersionedLine.marked, hchosen, l.same hchosen u .old]
          rfl
        rw [hline, hline]
        exact ih fun u => hline u ▸ h u
    | cons c cs ihcs =>
      have hhere := begins?_eq h v w
      have hbehind : ∀ u, r.avoids (r.step s c (r.begins? s c ((onward cs v (l :: ls)).map (·.1))))
          (onward cs u (l :: ls)) = true := by
        intro u
        rw [begins?_eq h v u]
        exact (avoids_cons (h u)).2
      show r.foundFrom s (c :: (onward cs v (l :: ls)).map (·.1)) =
        r.foundFrom s (c :: (onward cs w (l :: ls)).map (·.1))
      rw [foundFrom, foundFrom, ← hhere, ihcs hbehind]

/-- a reader's readings of both versions touch no chosen line -/
def Spares (r : Reader) (ls : List VersionedLine) : Prop :=
  ∀ v, r.avoids .start (VersionedLine.text v ls) = true

instance (r : Reader) (ls : List VersionedLine) : Decidable (r.Spares ls) :=
  inferInstanceAs (Decidable (∀ v, r.avoids .start (VersionedLine.text v ls) = true))

/-- **A reader that touches no chosen line finds the same in both versions.** -/
theorem found_eq (h : r.Spares ls) (v w : Version) :
    r.found ((VersionedLine.text v ls).map (·.1)) = r.found ((VersionedLine.text w ls).map (·.1)) := by
  cases ls with
  | nil => rfl
  | cons l ls =>
    cases hchosen : l.chosen with
    | true =>
      have hline : ∀ u, VersionedLine.text u (l :: ls) =
          allMarked true (l.content u) ++ VersionedLine.behind u ls := by
        intro u
        rw [VersionedLine.text, VersionedLine.marked, hchosen]
      have hpass := fun u => exists_pass_behind (s := .start) rfl (hline u ▸ h u)
      rw [hline, hline, map_fst_append, map_fst_append, found, found, (hpass v).1, (hpass w).1]
      exact foundFrom_eq (fun u => (hpass u).2) v w
    | false =>
      have hline : ∀ u, VersionedLine.text u (l :: ls) = onward (l.content .old) u ls := by
        intro u
        rw [VersionedLine.text, VersionedLine.marked, hchosen, l.same hchosen u .old]
        rfl
      rw [hline, hline]
      exact foundFrom_eq (fun u => hline u ▸ h u) v w

end Reader

end CodeSurvey
