/-
The constructors of a class, and the fields that they assign.

A `ConstructorSite` cuts a text at a constructor: the name of the class, a parameter list and what stands up to the
block. The pattern of constructors may take a modifier before the name, and it takes the parameters up to the first
closing parenthesis; in a text whose class name opens a parameter list at constructors only, each match has one
constructor within it, with its parameters (`exists_constructor`), and each constructor is in a match. So a search has
all constructors in text order, the first declaration of a parameter's name counts, and the fields are those of the
assignments whose value some constructor declares. Main statement: `constructorAssignments_declared`.
-/
import CodeSurvey.Proofs.Trace.Assignments
import CodeSurvey.Proofs.Trace.Fields

namespace CodeSurvey.Injection

open Text
open Tracer (head_mark isBlank_of_isWord span_unique wordEdge_iff)

/-! ## Sites -/

/-- the name with a parenthesis behind it, and no word character before it, stands at a place of the text -/
def opensAt (text name : List Char) (place : Nat) : Bool :=
  match afterStart name (text.drop place) with
  | some rest => !Pattern.wordAt (text.take place).getLast? && (trimStart rest).head? == some '('
  | none => false

/-- a character of a list of what is thrown -/
def isThrown (c : Char) : Bool := isWord c || c == '.' || c == ',' || isBlank c

/-- the clause of what is thrown: the blanks behind `throws` and the types -/
def throwsText : Option (List Char × List Char) → List Char
  | none => []
  | some (blanks, types) => "throws".toList ++ (blanks ++ types)

theorem throwsText_some (blanks types : List Char) :
    throwsText (some (blanks, types)) = "throws".toList ++ (blanks ++ types) :=
  rfl

/-- the text, cut at a constructor of a class -/
structure ConstructorSite (text name : List Char) where
  before : List Char
  gap : List Char
  list : List Char
  /-- the name and the raw type of each parameter -/
  pairs : List (String × String)
  behind : List Char
  throws : Option (List Char × List Char)
  after : List Char
  spelled : before ++ (name ++ (gap ++ '(' :: (list ++ ')' :: (behind ++ (throwsText throws ++ '\x7b' :: after))))) = text
  start : StartsWord before
  blanks : Blank gap ∧ Blank behind
  parameters : ParameterList list pairs
  thrown : ∀ x ∈ throws, (x.1 ≠ [] ∧ Blank x.1) ∧ x.2 ≠ [] ∧ (∀ c ∈ x.2, isThrown c = true) ∧
    ∀ c ∈ x.2.head?, isBlank c = false

namespace ConstructorSite

variable {text name : List Char}

/-- the place of the text where the name stands -/
def place (s : ConstructorSite text name) : Nat := s.before.length

/-- the text from the parameters on -/
def block (s : ConstructorSite text name) : List Char :=
  s.list ++ ')' :: (s.behind ++ (throwsText s.throws ++ '\x7b' :: s.after))

/-- the text from the name on -/
def rest (s : ConstructorSite text name) : List Char := name ++ (s.gap ++ '(' :: s.block)

theorem before_rest (s : ConstructorSite text name) : s.before ++ s.rest = text := s.spelled

theorem drop_place (s : ConstructorSite text name) : text.drop s.place = s.rest :=
  (congrArg (List.drop s.place) s.before_rest.symm).trans List.drop_left

theorem place_le (s : ConstructorSite text name) : s.place ≤ text.length := by
  have hlength := congrArg List.length s.before_rest
  rw [List.length_append] at hlength
  exact Nat.le.intro hlength

end ConstructorSite

/-! ## Matches -/

/-- a modifier of access before the name -/
def access : Pattern := .wordEdge ++ .oneOf ["public", "protected", "private"] ++ .blank

def throwsUse : Pattern := .lit "throws" ++ .blank ++ .some1 isThrown

section

variable {β : Type} {k : Cursor → Option β} {c : Cursor} {b : β}

/-- what a constructor's head is from its name on -/
def runNamed (name : String) (k : Cursor → Option β) : Cursor → Option β :=
  Pattern.run .wordEdge (Pattern.run (.lit name) (Pattern.run .gap (Pattern.run (.char (· == '('))
    (Pattern.run (.group 1 (.any0 (Pattern.except ")"))) (Pattern.run (.char (· == ')')) (Pattern.run .gap
      (Pattern.run (.opt throwsUse) (Pattern.run (.char (· == '\x7b')) k))))))))

theorem run_constructorHead (name : String) (k : Cursor → Option β) (c : Cursor) :
    Pattern.run (constructorHead name) k c = Pattern.run (.opt access) (runNamed name k) c :=
  rfl

theorem run_access (k : Cursor → Option β) (c : Cursor) : Pattern.run access k c = Pattern.run .wordEdge
    (Pattern.run (.oneOf ["public", "protected", "private"]) (Pattern.run .blank k)) c :=
  rfl

theorem run_throwsUse (k : Cursor → Option β) (c : Cursor) :
    Pattern.run throwsUse k c = Pattern.run (.lit "throws") (Pattern.run .blank (Pattern.run (.some1 isThrown) k)) c :=
  rfl

/-- the clause is taken where it stands -/
theorem run_throwsText {throws : Option (List Char × List Char)} {after : List Char}
    (hthrows : ∀ x ∈ throws, (x.1 ≠ [] ∧ Blank x.1) ∧ x.2 ≠ [] ∧ (∀ c ∈ x.2, isThrown c = true) ∧
      ∀ c ∈ x.2.head?, isBlank c = false)
    (hc : c.rest = throwsText throws ++ '\x7b' :: after)
    (h : k (c.forward (throwsText throws) ('\x7b' :: after)) = some b) : Pattern.run (.opt throwsUse) k c = some b := by
  cases throws with
  | none =>
    have hrest : c.rest = '\x7b' :: after := hc
    rw [Pattern.run_opt_pass]
    · rwa [← Cursor.forward_nil hrest]
    · refine Option.eq_none_iff_forall_ne_some.2 fun b' hb' => ?_
      obtain ⟨rest, hthrows, -⟩ := Pattern.of_run_exactly hb'
      rw [hrest] at hthrows
      exact absurd (List.cons.inj hthrows).1 (by decide)
  | some x =>
    obtain ⟨blanks, types⟩ := x
    obtain ⟨⟨hbne, hblanks⟩, hne, htypes, hhead⟩ := hthrows _ rfl
    have hstart : ∀ c ∈ (types ++ '\x7b' :: after).head?, isBlank c = false := by
      obtain ⟨t, types', rfl⟩ := List.exists_cons_of_ne_nil hne
      exact hhead
    have hsplit : c.rest = "throws".toList ++ (blanks ++ (types ++ '\x7b' :: after)) := by
      rw [hc, throwsText_some, List.append_assoc, List.append_assoc]
    refine Pattern.run_opt_take ?_
    rw [run_throwsUse, Pattern.lit, Pattern.run_exactly hsplit]
    refine Pattern.run_some1 hbne hblanks hstart rfl ?_
    refine Pattern.run_some1 hne htypes (head_mark (by decide) _) rfl ?_
    rw [Cursor.forward_forward, Cursor.forward_forward]
    have hpassed := List.append_ne_nil_of_right_ne_nil "throws".toList (List.append_ne_nil_of_left_ne_nil hbne types)
    exact (Pattern.onward_forward _ _ hpassed _).trans h

/-- what is taken there holds no parenthesis -/
theorem of_run_throwsUse (h : Pattern.run (.opt throwsUse) k c = some b) :
    ∃ taken rest, c.rest = taken ++ rest ∧ '(' ∉ taken ∧ k (c.forward taken rest) = some b := by
  rcases Pattern.exists_of_run_opt h with hthrows | ⟨-, h⟩
  · rw [run_throwsUse] at hthrows
    obtain ⟨rest, hrest, hthrows⟩ := Pattern.of_run_exactly hthrows
    obtain ⟨blanks, rest₁, h₁, -, hblanks, hthrows⟩ := Pattern.of_run_some1 hthrows
    obtain ⟨types, rest₂, h₂, -, htypes, hthrows⟩ := Pattern.of_run_some1 hthrows
    have htaken := Pattern.of_onward hthrows
    rw [Cursor.forward_forward, Cursor.forward_forward] at htaken
    refine ⟨_, rest₂, ?_, ?_, htaken⟩
    · have h₁' : rest = blanks ++ rest₁ := h₁
      have h₂' : rest₁ = types ++ rest₂ := h₂
      rw [hrest, h₁', h₂', List.append_assoc, List.append_assoc]
    · simp only [List.mem_append, not_or]
      refine ⟨by decide, fun hmem => ?_, fun hmem => ?_⟩
      · exact absurd (hblanks _ hmem) (by decide)
      · exact absurd (htypes _ hmem) (by decide)
  · exact ⟨[], c.rest, rfl, List.not_mem_nil, by rwa [Cursor.forward_nil rfl]⟩

end

/-- **What a match has from the name on**: blanks, a parameter list, and nothing with a parenthesis behind it. -/
theorem of_runNamed {name : String} {c : Cursor} {m : Match} (h : runNamed name (fun d => some d.found) c = some m) :
    (Pattern.wordAt c.previous != Pattern.wordAt c.rest.head?) = true ∧ ∃ gap list behind rest, Blank gap ∧
      ')' ∉ list ∧ '(' ∉ behind ∧
      c.rest = name.toList ++ (gap ++ '(' :: (list ++ ')' :: (behind ++ '\x7b' :: rest))) ∧
      m.text = (c.taken.pushAll (name.toList ++ (gap ++ '(' :: (list ++ ')' :: (behind ++ ['\x7b']))))).text ∧
      m.group 1 = String.ofList list := by
  obtain ⟨hedge, h⟩ := Pattern.exists_of_run_edge h
  obtain ⟨rest, hrest, h⟩ := Pattern.of_run_exactly h
  obtain ⟨gap, rest₁, h₁, hgap, h⟩ := Pattern.of_run_span h
  obtain ⟨opening, rest₂, h₂, hx, h⟩ := Pattern.of_run_char h
  rw [Pattern.run_group] at h
  obtain ⟨list, rest₃, h₃, hlist, h⟩ := Pattern.of_run_span h
  obtain ⟨closing, rest₄, h₄, hy, h⟩ := Pattern.of_run_char h
  obtain ⟨blanks, rest₅, h₅, hblanks, h⟩ := Pattern.of_run_span h
  obtain ⟨thrown, rest₆, h₆, hthrown, h⟩ := of_run_throwsUse h
  obtain ⟨brace, rest₇, h₇, hz, h⟩ := Pattern.of_run_char h
  obtain rfl : opening = '(' := beq_iff_eq.1 hx
  obtain rfl : closing = ')' := beq_iff_eq.1 hy
  obtain rfl : brace = '\x7b' := beq_iff_eq.1 hz
  refine ⟨hedge, gap, list, blanks ++ thrown, rest₇, hgap, (excepts_iff list).2 hlist, ?_, ?_, ?_, ?_⟩
  · refine fun hmem => (List.mem_append.1 hmem).elim (fun hmem => ?_) hthrown
    exact absurd (hblanks _ hmem) (by decide)
  · have hspelled : c.rest = name.toList ++ rest ∧ rest = gap ++ rest₁ ∧ rest₁ = '(' :: rest₂ ∧
        rest₂ = list ++ rest₃ ∧ rest₃ = ')' :: rest₄ ∧ rest₄ = blanks ++ rest₅ ∧ rest₅ = thrown ++ rest₆ ∧
        rest₆ = '\x7b' :: rest₇ := ⟨hrest, h₁, h₂, h₃, h₄, h₅, h₆, h₇⟩
    obtain ⟨hrest, rfl, rfl, rfl, rfl, rfl, rfl, rfl⟩ := hspelled
    rw [hrest, List.append_assoc]
  · rw [← Option.some.inj h]
    simp only [Cursor.found, Cursor.forward_taken, Taken.pushAll_append, List.append_assoc, List.singleton_append]
    rfl
  · rw [← Option.some.inj h]
    exact congrArg String.ofList (Cursor.text_upTo_forward _ _ _)

/-! ## Matches and sites -/

theorem not_mem_of_wordsOnly {text : List Char} (h : WordsOnly text) {mark : Char} (hword : isWord mark = false)
    (hblank : isBlank mark = false) : mark ∉ text := fun hmem => h.ne mark hword hblank mark hmem rfl

theorem opensAt_of_spelled (name : List Char) {front gap : List Char} (hfront : StartsWord front) (hgap : Blank gap)
    (back : List Char) : opensAt (front ++ (name ++ (gap ++ '(' :: back))) name front.length = true := by
  have hafter : afterStart name (name ++ (gap ++ '(' :: back)) = some (gap ++ '(' :: back) :=
    afterStart_eq_some_iff.2 rfl
  have htrim : trimStart (gap ++ '(' :: back) = '(' :: back := by
    rw [trimStart, List.dropWhile_append_of_pos hgap]
    exact List.dropWhile_cons_of_neg (by decide)
  have hedge : Pattern.wordAt front.getLast? = false := by
    cases hlast : front.getLast? with
    | none => rfl
    | some c => exact hfront c hlast
  rw [opensAt, List.drop_left, List.take_left, hafter]
  simp only [htrim, hedge]
  rfl

section

variable {text : List Char} {name : String} (hname : IsIdentifier name.toList)

include hname

/-- before a name there is an edge where no word character stands before it -/
theorem edge_iff (lead : Option Char) (rest : List Char) :
    (Pattern.wordAt lead != Pattern.wordAt (name.toList ++ rest).head?) = true ↔ ∀ c ∈ lead, isWord c = false := by
  obtain ⟨w, ws, hw, hword⟩ := hname.exists_cons
  rw [hw]
  exact wordEdge_iff hword lead

/-- **At a constructor the pattern matches.** -/
theorem ConstructorSite.isSome_matchAt (s : ConstructorSite text name.toList) :
    ((constructorHead name).matchAt text s.place).isSome = true := by
  obtain ⟨hgap, hbehind⟩ := s.blanks
  have hlist : ')' ∉ s.list := fun hmem => (s.parameters.parentheses ')' hmem).2 rfl
  have hthrows : ∀ c ∈ (throwsText s.throws ++ '\x7b' :: s.after).head?, isBlank c = false := by
    cases s.throws with
    | none => exact head_mark (by decide) _
    | some x => exact fun c hc => Option.some.inj hc ▸ by decide
  have hnamed : runNamed name (fun _ => some ()) ⟨s.before.getLast?, ⟨0, []⟩, s.rest, []⟩ = some () := by
    rw [runNamed, Pattern.wordEdge, Pattern.run_edge ((edge_iff hname _ _).2 s.start), Pattern.lit,
      Pattern.run_exactly rfl]
    refine Pattern.run_span hgap (head_mark (by decide) _) rfl ?_
    rw [Pattern.run_char (by decide) rfl, Pattern.run_group]
    refine Pattern.run_span ((excepts_iff s.list).1 hlist) (head_mark (by decide) _) rfl ?_
    rw [Pattern.run_char (by decide) rfl]
    refine Pattern.run_span hbehind hthrows rfl ?_
    refine run_throwsText s.thrown rfl ?_
    exact Pattern.run_char (by decide) rfl
  rw [congrArg ((constructorHead name).matchAt · s.place) s.before_rest.symm, place, Pattern.matchAt_length]
  refine Pattern.isSome_matchHere ?_
  rw [run_constructorHead, Pattern.run_opt, hnamed]
  cases Pattern.run access _ _ <;> rfl

/-- **What a match has**: perhaps a modifier, and the head of a constructor behind it. -/
theorem exists_head {start : Nat} {m : Match} (h : (constructorHead name).matchAt text start = some m) :
    ∃ front gap list behind rest, StartsWord (text.take start ++ front) ∧ WordsOnly front ∧ Blank gap ∧
      ')' ∉ list ∧ '(' ∉ behind ∧
      text.drop start = front ++ (name.toList ++ (gap ++ '(' :: (list ++ ')' :: (behind ++ '\x7b' :: rest)))) ∧
      m.text = front ++ (name.toList ++ (gap ++ '(' :: (list ++ ')' :: (behind ++ ['\x7b'])))) ∧
      m.group 1 = String.ofList list := by
  have hnamed : ∃ front rest, WordsOnly front ∧ text.drop start = front ++ rest ∧
      runNamed name (fun d => some d.found)
        (Cursor.forward ⟨(text.take start).getLast?, ⟨0, []⟩, text.drop start, []⟩ front rest) = some m := by
    rw [Pattern.matchAt, Pattern.matchHere, run_constructorHead] at h
    rcases Pattern.exists_of_run_opt h with haccess | ⟨-, hrun⟩
    · rw [run_access] at haccess
      obtain ⟨-, haccess⟩ := Pattern.exists_of_run_edge haccess
      obtain ⟨word, hword, rest, hrest, haccess⟩ := Pattern.of_run_oneOf haccess
      obtain ⟨blanks, rest', hrest', -, hblanks, haccess⟩ := Pattern.of_run_some1 haccess
      have hrun := Pattern.of_onward haccess
      have hchars : ∀ word ∈ ["public", "protected", "private"], ∀ c ∈ word.toList, isWord c = true := by decide
      have hspelled : text.drop start = word.toList ++ (blanks ++ rest') := by
        have hrest'' : rest = blanks ++ rest' := hrest'
        rw [← hrest'']
        exact hrest
      rw [Cursor.forward_forward] at hrun
      refine ⟨word.toList ++ blanks, rest', ?_, by rw [hspelled, List.append_assoc], hrun⟩
      exact (WordsOnly.of_word (hchars word hword)).append (.of_blank hblanks)
    · exact ⟨[], _, .of_blank blank_nil, rfl, by rwa [Cursor.forward_nil rfl]⟩
  obtain ⟨front, rest, hfront, hrest, hrun⟩ := hnamed
  obtain ⟨hedge, gap, list, behind, rest', hgap, hlist, hbehind, hspelled, htext, hgroup⟩ := of_runNamed hrun
  have hspelled : rest = name.toList ++ (gap ++ '(' :: (list ++ ')' :: (behind ++ '\x7b' :: rest'))) := hspelled
  refine ⟨front, gap, list, behind, rest', ?_, hfront, hgap, hlist, hbehind, by rw [hrest, hspelled], ?_, hgroup⟩
  · rw [Cursor.previous_forward] at hedge
    rw [StartsWord, List.getLast?_append]
    exact (edge_iff hname _ _).1 (hspelled ▸ hedge)
  · rw [htext, Cursor.forward_taken, Taken.pushAll_append, Taken.text_pushAll]

end

/-- what stands before blanks at the end of a text is where they are the last ones -/
theorem gap_unique {front gap front' gap' : List Char} (h : front ++ gap = front' ++ gap') (hgap : Blank gap)
    (hgap' : Blank gap') (hfront : ∀ c ∈ front.getLast?, isBlank c = false)
    (hfront' : ∀ c ∈ front'.getLast?, isBlank c = false) : front = front' := by
  have hreverse := congrArg List.reverse h
  rw [List.reverse_append, List.reverse_append] at hreverse
  have hblank : ∀ {blanks : List Char}, Blank blanks → ∀ c ∈ blanks.reverse, isBlank c = true :=
    fun h c hc => h c (List.mem_reverse.1 hc)
  have hsplit := span_unique hreverse (hblank hgap) (by rwa [List.head?_reverse]) (hblank hgap')
    (by rwa [List.head?_reverse])
  exact List.reverse_inj.1 hsplit.2

section

variable {text : List Char} {name : String} (hname : IsIdentifier name.toList)
  (hopens : ∀ place, opensAt text name.toList place = true → ∃ s : ConstructorSite text name.toList, s.place = place)

include hname hopens

/-- **Within a match stands a constructor**, and the group of the match is its parameter list. -/
theorem exists_constructor {start : Nat} {m : Match} (hm : (constructorHead name).matchAt text start = some m) :
    ∃ (s : ConstructorSite text name.toList) (front behind : List Char), WordsOnly front ∧ '(' ∉ behind ∧
      s.place = start + front.length ∧ m.group 1 = String.ofList s.list ∧
      m.text = front ++ (name.toList ++ (s.gap ++ '(' :: (s.list ++ ')' :: (behind ++ ['\x7b'])))) := by
  obtain ⟨front, gap, list, behind, rest, hstart, hfront, hgap, hlist, hbehind, hdrop, htext, hgroup⟩ :=
    exists_head hname hm
  have hlt : start < text.length := by
    refine Nat.lt_of_not_le fun hle => ?_
    rw [List.drop_eq_nil_of_le hle] at hdrop
    exact absurd hdrop.symm (by simp)
  have hplace : (text.take start ++ front).length = start + front.length := by
    rw [List.length_append, List.length_take_of_le (Nat.le_of_lt hlt)]
  have hspelled : (text.take start ++ front) ++
      (name.toList ++ (gap ++ '(' :: (list ++ ')' :: (behind ++ '\x7b' :: rest)))) = text := by
    rw [List.append_assoc, ← hdrop, List.take_append_drop]
  have hopen := opensAt_of_spelled name.toList hstart hgap (list ++ ')' :: (behind ++ '\x7b' :: rest))
  rw [hspelled] at hopen
  obtain ⟨s, hs⟩ := hopens _ hopen
  -- the site at the place of the name has the same blanks and the same list
  have hsame : s.rest = name.toList ++ (gap ++ '(' :: (list ++ ')' :: (behind ++ '\x7b' :: rest))) := by
    rw [← s.drop_place, hs]
    exact (congrArg (List.drop _) hspelled.symm).trans List.drop_left
  obtain ⟨hgaps, hmarks⟩ := span_unique (List.append_cancel_left hsame) s.blanks.1 (head_mark (by decide) _) hgap
    (head_mark (by decide) _)
  have hclosed : ')' ∉ s.list := fun hmem => (s.parameters.parentheses _ hmem).2 rfl
  have hlists := (span_unique (List.cons.inj hmarks).2 ((excepts_iff s.list).1 hclosed) (head_mark (by decide) _)
    ((excepts_iff list).1 hlist) (head_mark (by decide) _)).1
  exact ⟨s, front, behind, hfront, hbehind, hs.trans hplace, hlists ▸ hgroup, hgaps ▸ hlists ▸ htext⟩

omit hopens in
/-- a parenthesis has one site at most whose name stands before it -/
theorem ConstructorSite.place_eq {s t : ConstructorSite text name.toList}
    (h : s.place + (name.toList ++ s.gap).length = t.place + (name.toList ++ t.gap).length) : s.place = t.place := by
  have hlength : (s.before ++ (name.toList ++ s.gap)).length = (t.before ++ (name.toList ++ t.gap)).length := by
    simpa only [List.length_append, place] using h
  have hspelled : ∀ u : ConstructorSite text name.toList,
      (u.before ++ (name.toList ++ u.gap)) ++ '(' :: u.block = text := by
    intro u
    refine Eq.trans ?_ u.before_rest
    rw [rest, List.append_assoc, List.append_assoc]
  have hfront := (List.append_inj ((hspelled s).trans (hspelled t).symm) hlength).1
  rw [← List.append_assoc, ← List.append_assoc] at hfront
  have hlast : ∀ before : List Char, ∀ c ∈ (before ++ name.toList).getLast?, isBlank c = false := by
    intro before c hc
    rw [List.getLast?_append, List.getLast?_eq_some_getLast hname.nonempty] at hc
    obtain rfl := Option.some.inj hc
    exact isBlank_of_isWord (hname.chars _ (List.getLast_mem hname.nonempty))
  have hsame := congrArg List.length (gap_unique hfront s.blanks.1 t.blanks.1 (hlast _) (hlast _))
  simp only [List.length_append] at hsame
  exact Nat.add_right_cancel hsame

/-- a match has one parenthesis before its parameter list -/
theorem locates_constructors :
    Pattern.Locates (constructorHead name) text (@ConstructorSite.place text name.toList)
      fun m s => parameters (m.group 1) = s.pairs where
  inside := fun s => s.place_le
  matched := fun s => s.isSome_matchAt hname
  site := by
    intro start m hm
    obtain ⟨s, front, behind, -, -, hplace, hgroup, htext⟩ := exists_constructor hname hopens hm
    refine ⟨s, by rw [hgroup, s.parameters.parameters_eq], ?_⟩
    rw [hplace, Pattern.Within, htext]
    simp only [List.length_append, List.length_cons]
    omega
  sole := by
    intro start m hm s t hs ht
    obtain ⟨r, front, behind, hfront, hbehind, -, -, htext⟩ := exists_constructor hname hopens hm
    obtain ⟨back, hback⟩ := Pattern.matchHere_front hm
    have hword : ∀ {gap : List Char}, Blank gap → WordsOnly (name.toList ++ gap) :=
      fun hgap => (WordsOnly.of_word hname.chars).append (.of_blank hgap)
    have hopening : '(' ∉ front ++ (name.toList ++ r.gap) :=
      not_mem_of_wordsOnly (hfront.append (hword r.blanks.1)) (by decide) (by decide)
    have hbehind' : '(' ∉ r.list ++ ')' :: (behind ++ ['\x7b']) := by
      simp only [List.mem_append, List.mem_cons, not_or]
      exact ⟨fun hmem => (r.parameters.parentheses _ hmem).1 rfl, by decide, hbehind, by decide, List.not_mem_nil⟩
    have hbrace : ∀ u : ConstructorSite text name.toList, '\x7b' ∉ name.toList ++ u.gap :=
      fun u => not_mem_of_wordsOnly (hword u.blanks.1) (by decide) (by decide)
    have hmark : ∀ u : ConstructorSite text name.toList, Pattern.Within start m u.place →
        start + (front ++ (name.toList ++ r.gap)).length = u.place + (name.toList ++ u.gap).length := by
      intro u hu
      refine Pattern.mark_place hback (u.drop_place.trans (List.append_assoc _ _ _).symm) hu ?_ hopening hbehind' ?_
        (hbrace u)
      · rw [htext, List.append_assoc, List.append_assoc]
      · rw [htext]
        simp [List.getLast?_append, List.getLast?_cons]
    exact ConstructorSite.place_eq hname ((hmark s hs).symm.trans (hmark t ht))

end

/-! ## The assignments of constructor parameters -/

/-- **The fields that constructors assign**: in text order one for each assignment of a parameter of some constructor,
with the raw type that the first constructor with such a parameter gives it, where the name of the class opens a
parameter list at its constructors only. And the loop that removes type arguments ends on every text. -/
theorem constructorAssignments_declared (text name : String) (hname : IsIdentifier name.toList)
    (hopens : ∀ place, opensAt text.toList name.toList place = true →
      ∃ s : ConstructorSite text.toList name.toList, s.place = place) :
    (∃ (constructors : List (ConstructorSite text.toList name.toList)) (assignments : List (AssignmentSite text.toList)),
      Pattern.InTextOrder ConstructorSite.place constructors ∧ Pattern.InTextOrder AssignmentSite.place assignments ∧
      constructorAssignments text name = assignments.filterMap fun a =>
        ((constructors.flatMap ConstructorSite.pairs).lookup (String.ofList a.value)).map (String.ofList a.field, ·)) ∧
    ∀ list : String, ∃ n ≤ list.length, (∀ i < n, typeArguments.occurs (oneRound^[i] list) = true) ∧
      typeArguments.occurs (oneRound^[n] list) = false ∧
      ∀ fuel, list.length ≤ fuel → dropTypeArguments fuel list = oneRound^[n] list := by
  refine ⟨?_, dropTypeArguments_ends⟩
  obtain ⟨constructors, hconstructors, hlists⟩ := (locates_constructors hname hopens).exists_sites
  obtain ⟨assignments, hassignments, hmatches⟩ := (locates_assignments text.toList).exists_sites
  refine ⟨constructors, assignments, hconstructors, hassignments, ?_⟩
  have hdeclared : declaredParameters text name = constructors.flatMap ConstructorSite.pairs := by
    rw [declaredParameters, List.flatMap_def, List.flatMap_def, Pattern.map_eq_of_forall₂ hlists]
  have hfound : assignment.findAll text = assignments.map AssignmentSite.found := by
    rw [← Pattern.map_eq_of_forall₂ (f := id) hmatches, List.map_id]
  rw [constructorAssignments, hfound, List.filterMap_map]
  refine congrArg (List.filterMap · assignments) (funext fun a => ?_)
  simp only [Function.comp_apply, get?_constructorParameters, hdeclared]
  rfl

theorem opensAt_beyond {text name : List Char} (hname : name ≠ []) {place : Nat} (h : text.length ≤ place) :
    opensAt text name place = false := by
  obtain ⟨x, xs, rfl⟩ := List.exists_cons_of_ne_nil hname
  rw [opensAt, List.drop_eq_nil_of_le h]
  rfl

/-- a class with two constructors that share the name of a parameter -/
def sharedName : String :=
  "class A { A(@Lazy final Map<K, List<V>> m, B b) { this.m = m; this.x = b; } A(C b) throws E { this.b = b; } }"

def mapParameter : Parameter where
  lead := []
  modifiers := [.marker "Lazy".toList [' '], .final [' ']]
  type := "Map<K, List<V>>".toList
  raw := "Map".toList
  space := [' ']
  name := ['m']
  last := []

/-- a parameter `b` without type arguments -/
def plainParameter (lead type : List Char) : Parameter := ⟨lead, [], type, type, [' '], ['b'], []⟩

theorem mapParameter_wellFormed : mapParameter.WellFormed where
  lead := by decide
  modifiers := List.forall_mem_cons.2 ⟨.marker (by decide) (by decide) (by decide),
    List.forall_mem_singleton.2 (.final (by decide) (by decide))⟩
  nested := by
    have hlist : Nested ("K, List".toList ++ ('<' :: (['V'] ++ '>' :: []))) ("K, List".toList ++ []) :=
      (Nested.of_bare (by decide)).append (.arguments (.of_bare (by decide)) .nil)
    have hname : Nested "Map".toList "Map".toList := .of_bare (by decide)
    exact hname.append (.arguments hlist .nil)
  type := by decide
  raw := by decide
  space := by decide
  name := by decide
  last := by decide

theorem plainParameter_wellFormed {lead type : List Char} (hlead : Blank lead) (htype : IsIdentifier type)
    (hfinal : type ≠ "final".toList) : (plainParameter lead type).WellFormed where
  lead := hlead
  modifiers := nofun
  nested := (WordsOnly.of_word htype.chars).nested
  type := fun c hc => ⟨(WordsOnly.of_word htype.chars).ne '@' (by decide) (by decide) c hc,
    (WordsOnly.of_word htype.chars).parentheses c hc⟩
  raw := ⟨htype.nonempty, fun c hc => ⟨isBlank_of_isWord (htype.chars c hc),
    (WordsOnly.of_word htype.chars).ne ',' (by decide) (by decide) c hc⟩, hfinal⟩
  space := (by decide : [' '] ≠ [] ∧ Blank [' '])
  name := (by decide : IsIdentifier ['b'] ∧ ['b'] ≠ "final".toList)
  last := blank_nil

theorem sharedName_opens (place : Nat) (h : opensAt sharedName.toList "A".toList place = true) :
    ∃ s : ConstructorSite sharedName.toList "A".toList, s.place = place := by
  have hplaces : ∀ place < sharedName.toList.length, opensAt sharedName.toList "A".toList place = true →
      place = 10 ∨ place = 76 := by decide +kernel
  have hlt : place < sharedName.toList.length := by
    refine Nat.lt_of_not_le fun hle => ?_
    rw [opensAt_beyond (by decide) hle] at h
    cases h
  have hb : ParameterList (plainParameter [' '] ['B']).text [(plainParameter [' '] ['B']).pair] :=
    .last (plainParameter_wellFormed (by decide) (by decide) (by decide))
  rcases hplaces place hlt h with rfl | rfl
  · exact ⟨⟨sharedName.toList.take 10, [], _, _, [' '], none, sharedName.toList.drop 49, by decide +kernel, by decide,
      by decide, .cons mapParameter_wellFormed hb, nofun⟩, List.length_take_of_le (by decide)⟩
  · have hc : ParameterList (plainParameter [] ['C']).text [(plainParameter [] ['C']).pair] :=
      .last (plainParameter_wellFormed (by decide) (by decide) (by decide))
    refine ⟨⟨sharedName.toList.take 76, [], _, _, [' '], some ([' '], ['E', ' ']), sharedName.toList.drop 93,
      by decide +kernel, by decide, by decide, hc, ?_⟩, List.length_take_of_le (by decide)⟩
    rintro x ⟨⟩
    decide

/-- the second constructor gives its parameter another type, which does not count -/
theorem constructorAssignments_sharedName :
    (∃ (constructors : List (ConstructorSite sharedName.toList "A".toList))
        (assignments : List (AssignmentSite sharedName.toList)),
      Pattern.InTextOrder ConstructorSite.place constructors ∧ Pattern.InTextOrder AssignmentSite.place assignments ∧
      constructorAssignments sharedName "A" = assignments.filterMap fun a =>
        ((constructors.flatMap ConstructorSite.pairs).lookup (String.ofList a.value)).map (String.ofList a.field, ·)) ∧
    constructorAssignments sharedName "A" = [("m", "Map"), ("x", "B"), ("b", "B")] :=
  ⟨(constructorAssignments_declared sharedName "A" (by decide) sharedName_opens).1, by decide +kernel⟩

end CodeSurvey.Injection
