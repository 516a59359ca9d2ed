/-
The assignments `this.f = p;` of a class.

An `AssignmentSite` cuts a text at an assignment. The pattern of assignments matches at the sites and nowhere else
(`AssignmentSite.matchAt_eq`, `exists_assignment`). A match has one dot, behind its first word, so no other site starts
within it, and a search has all of them in text order (`locates_assignments`).
-/
import CodeSurvey.Proofs.Pattern.Places
import CodeSurvey.Proofs.Trace.Parameters

namespace CodeSurvey.Injection

open Text
open Tracer (head_gap head_mark wordEdge_iff)

/-! ## Sites -/

/-- no word character stands before a place -/
def StartsWord (before : List Char) : Prop := ∀ c ∈ before.getLast?, isWord c = false

instance (before : List Char) : Decidable (StartsWord before) :=
  inferInstanceAs (Decidable (∀ c ∈ before.getLast?, isWord c = false))

/-- the text, cut at an assignment `this.f = p;` -/
structure AssignmentSite (text : List Char) where
  before : List Char
  field : List Char
  /-- the blanks before the sign -/
  left : List Char
  /-- the blanks behind the sign -/
  right : List Char
  value : List Char
  /-- the blanks before the semicolon -/
  last : List Char
  after : List Char
  spelled : before ++ ("this.".toList ++ (field ++ (left ++ '=' :: (right ++ (value ++ (last ++ ';' :: after)))))) = text
  start : StartsWord before
  words : IsIdentifier field ∧ IsIdentifier value
  blanks : Blank left ∧ Blank right ∧ Blank last

namespace AssignmentSite

variable {text : List Char}

/-- the place of the text where the assignment stands -/
def place (s : AssignmentSite text) : Nat := s.before.length

/-- the text from the assignment on -/
def rest (s : AssignmentSite text) : List Char :=
  "this.".toList ++ (s.field ++ (s.left ++ '=' :: (s.right ++ (s.value ++ (s.last ++ ';' :: s.after)))))

/-- what the pattern matches at the site -/
def found (s : AssignmentSite text) : Match where
  text := "this.".toList ++ (s.field ++ (s.left ++ '=' :: (s.right ++ (s.value ++ (s.last ++ [';'])))))
  groups := [(2, s.value), (1, s.field)]

theorem found_eq (s : AssignmentSite text) : s.found =
    ⟨"this.".toList ++ (s.field ++ (s.left ++ '=' :: (s.right ++ (s.value ++ (s.last ++ [';']))))),
      [(2, s.value), (1, s.field)]⟩ :=
  rfl

theorem rest_eq (s : AssignmentSite text) : s.rest =
    "this.".toList ++ (s.field ++ (s.left ++ '=' :: (s.right ++ (s.value ++ (s.last ++ ';' :: s.after))))) :=
  rfl

theorem before_rest (s : AssignmentSite text) : s.before ++ s.rest = text := s.spelled

theorem drop_place (s : AssignmentSite text) : text.drop s.place = s.rest :=
  (congrArg (List.drop s.place) s.before_rest.symm).trans List.drop_left

/-- what stands behind the dot of a match -/
def behindDot (s : AssignmentSite text) : List Char :=
  s.field ++ (s.left ++ '=' :: (s.right ++ (s.value ++ (s.last ++ [';']))))

theorem found_dot (s : AssignmentSite text) : s.found.text = "this".toList ++ '.' :: s.behindDot := rfl

theorem drop_place_dot (s : AssignmentSite text) : text.drop s.place = "this".toList ++ '.' ::
    (s.field ++ (s.left ++ '=' :: (s.right ++ (s.value ++ (s.last ++ ';' :: s.after))))) := s.drop_place

theorem dot_not_mem (s : AssignmentSite text) : ∀ c ∈ s.behindDot, c ≠ '.' := by
  obtain ⟨hleft, hright, hlast⟩ := s.blanks
  have hblank : ∀ {gap : List Char}, Blank gap → ∀ c ∈ gap, c ≠ '.' :=
    fun hgap => (WordsOnly.of_blank hgap).ne '.' (by decide) (by decide)
  have hword : ∀ {word : List Char}, IsIdentifier word → ∀ c ∈ word, c ≠ '.' :=
    fun hword => (WordsOnly.of_word hword.chars).ne '.' (by decide) (by decide)
  simp only [behindDot, List.forall_mem_append, List.forall_mem_cons]
  exact ⟨hword s.words.1, hblank hleft, by decide, hblank hright, hword s.words.2, hblank hlast, by decide, nofun⟩

theorem getLast?_found (s : AssignmentSite text) : s.found.text.getLast? = some ';' := by
  simp [found_eq, List.getLast?_append, List.getLast?_cons]

theorem place_le (s : AssignmentSite text) : s.place ≤ text.length := by
  have hlength := congrArg List.length s.before_rest
  rw [List.length_append] at hlength
  exact Nat.le.intro hlength

theorem found_after (s : AssignmentSite text) : s.found.text ++ s.after = s.rest := by
  simp [found_eq, rest_eq]

end AssignmentSite

/-! ## Matches -/

theorem run_assignment {β : Type} (k : Cursor → Option β) (c : Cursor) :
    Pattern.run assignment k c = Pattern.run .wordEdge (Pattern.run (.lit "this.") (Pattern.run (.group 1 .word)
      (Pattern.run .gap (Pattern.run (.char (· == '=')) (Pattern.run .gap (Pattern.run (.group 2 .word)
        (Pattern.run .gap (Pattern.run (.char (· == ';')) k)))))))) c :=
  rfl

/-- **At a site the pattern matches**, with the field and the value as its groups. -/
theorem AssignmentSite.matchAt_eq {text : List Char} (s : AssignmentSite text) :
    assignment.matchAt text s.place = some s.found := by
  obtain ⟨hleft, hright, hlast⟩ := s.blanks
  obtain ⟨hfield, hvalue⟩ := s.words
  have hedge : (Pattern.wordAt s.before.getLast? != Pattern.wordAt s.rest.head?) = true :=
    (wordEdge_iff (by decide) _).2 s.start
  have hmatch : assignment.matchHere s.before.getLast? s.rest = some s.found := by
    rw [Pattern.matchHere, run_assignment, Pattern.wordEdge, Pattern.run_edge hedge, Pattern.lit,
      Pattern.run_exactly s.rest_eq, Pattern.run_group]
    refine Pattern.run_some1 hfield.nonempty hfield.chars (head_gap hleft (by decide) _) rfl ?_
    refine Pattern.run_span hleft (head_mark (by decide) _) rfl ?_
    rw [Pattern.run_char (by decide) rfl]
    refine Pattern.run_span hright (hvalue.head _) rfl ?_
    rw [Pattern.run_group]
    refine Pattern.run_some1 hvalue.nonempty hvalue.chars (head_gap hlast (by decide) _) rfl ?_
    refine Pattern.run_span hlast (head_mark (by decide) _) rfl ?_
    rw [Pattern.run_char (by decide) rfl]
    simp only [Cursor.forward_taken, Cursor.forward_groups, Cursor.text_upTo_forward, Taken.pushAll_append,
      Taken.text_pushAll, List.map_cons, List.map_nil, s.found_eq]
    simp only [List.append_assoc, List.cons_append, List.nil_append]
  exact (congrArg (assignment.matchAt · s.place) s.before_rest.symm).trans
    ((Pattern.matchAt_length s.before s.rest).trans hmatch)

/-- **Where the pattern matches there is a site.** -/
theorem exists_assignment {text : List Char} {start : Nat} {m : Match} (h : assignment.matchAt text start = some m) :
    ∃ s : AssignmentSite text, s.place = start := by
  rw [Pattern.matchAt, Pattern.matchHere, run_assignment] at h
  obtain ⟨hedge, h⟩ := Pattern.exists_of_run_edge h
  obtain ⟨c₀, hrest, h⟩ := Pattern.exists_of_run_exactly h
  obtain ⟨field, c₁, h₁, hne, hfield, h⟩ := Pattern.exists_of_run_group h
  obtain ⟨left, c₂, h₂, hleft, h⟩ := Pattern.exists_of_run_span h
  obtain ⟨sign, c₃, h₃, hx, h⟩ := Pattern.exists_of_run_char h
  obtain ⟨right, c₄, h₄, hright, h⟩ := Pattern.exists_of_run_span h
  obtain ⟨value, c₅, h₅, hvne, hvalue, h⟩ := Pattern.exists_of_run_group h
  obtain ⟨last, c₆, h₆, hlast, h⟩ := Pattern.exists_of_run_span h
  obtain ⟨semicolon, c₇, h₇, hy, -⟩ := Pattern.exists_of_run_char h
  obtain rfl : sign = '=' := beq_iff_eq.1 hx
  obtain rfl : semicolon = ';' := beq_iff_eq.1 hy
  rw [h₁, h₂, h₃, h₄, h₅, h₆, h₇] at hrest
  have hdrop : text.drop start = "this.".toList ++
    (field ++ (left ++ '=' :: (right ++ (value ++ (last ++ ';' :: c₇.rest))))) := hrest
  have hdiffer : (Pattern.wordAt (text.take start).getLast? != Pattern.wordAt (text.drop start).head?) = true := hedge
  rw [hdrop] at hdiffer
  have hlt : start < text.length := by
    refine Nat.lt_of_not_le fun hle => ?_
    rw [List.drop_eq_nil_of_le hle] at hdrop
    cases hdrop
  refine ⟨⟨text.take start, field, left, right, value, last, c₇.rest, ?_, ?_, ⟨⟨hne, hfield⟩, hvne, hvalue⟩, hleft,
    hright, hlast⟩, List.length_take_of_le (Nat.le_of_lt hlt)⟩
  · rw [← hdrop, List.take_append_drop]
  · exact (wordEdge_iff (by decide) _).1 hdiffer

/-- an assignment has one dot, that of its field -/
theorem locates_assignments (text : List Char) :
    Pattern.Locates assignment text (@AssignmentSite.place text) fun m s => m = s.found where
  inside := fun s => s.place_le
  matched := fun s => by rw [s.matchAt_eq]; rfl
  site := by
    intro start m hm
    obtain ⟨s, rfl⟩ := exists_assignment hm
    obtain rfl : m = s.found := Option.some.inj (hm.symm.trans s.matchAt_eq)
    exact ⟨s, rfl, Nat.le_refl _, Nat.lt_add_of_pos_right (List.length_pos_iff.2 (List.cons_ne_nil _ _))⟩
  sole := by
    intro start m hm s t hs ht
    obtain ⟨r, rfl⟩ := exists_assignment hm
    obtain rfl : m = r.found := Option.some.inj (hm.symm.trans r.matchAt_eq)
    have hdot : ∀ u : AssignmentSite text, Pattern.Within r.place r.found u.place → r.place + 4 = u.place + 4 :=
      fun u hu => Pattern.mark_place (r.drop_place.trans r.found_after.symm) u.drop_place_dot hu r.found_dot (by decide)
        (fun hmem => r.dot_not_mem '.' hmem rfl) r.getLast?_found (by decide)
    have hs := hdot s hs
    have ht := hdot t ht
    omega

end CodeSurvey.Injection
