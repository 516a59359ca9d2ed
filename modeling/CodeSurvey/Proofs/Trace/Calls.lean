/-
The calls of a body, as they are written in it.

A `CallSite` cuts a text at a call: a whole word, a dot and a whole word before a parenthesis, with blanks between any
two of them. The pattern of calls matches at the sites and nowhere else (`CallSite.matchHere_eq`,
`exists_site`), since words, blanks and the marks between them have no character in common, so that a shorter run of
either leads nowhere. For the same reason a place has one site at most (`CallSite.ext_before`).

No match starts within another (`apart_callPattern`): what stands behind the first character of a match starts no word,
but for the method, and that is followed by a parenthesis and not by a dot. Hence the search has every site in turn,
within the arguments of a call too, and of a chain the last two words. Main statement: `calls_sites`.
-/
import CodeSurvey.Proofs.Pattern.Occurrences
import CodeSurvey.Proofs.Text.Blanks
import CodeSurvey.Trace.Tracer

namespace CodeSurvey.Tracer

open Text

/-! ## Sites -/

/-- a word of a text, with no word character next to it -/
structure WholeWord (before word after : List Char) : Prop where
  nonempty : word ≠ []
  chars : ∀ c ∈ word, isWord c = true
  start : ∀ c ∈ before.getLast?, isWord c = false
  stop : ∀ c ∈ after.head?, isWord c = false

/-- the text, cut at a call -/
structure CallSite (text : List Char) where
  before : List Char
  receiver : List Char
  /-- the blanks before the dot -/
  left : List Char
  /-- the blanks behind the dot -/
  right : List Char
  method : List Char
  /-- the blanks before the parenthesis -/
  last : List Char
  after : List Char
  spelled : before ++ (receiver ++ (left ++ '.' :: (right ++ (method ++ (last ++ '(' :: after))))) = text
  blanks : ∀ c ∈ left ++ right ++ last, isBlank c = true
  wholeReceiver : WholeWord before receiver (left ++ '.' :: (right ++ (method ++ (last ++ '(' :: after))))
  wholeMethod : WholeWord (before ++ (receiver ++ (left ++ '.' :: right))) method (last ++ '(' :: after)

namespace CallSite

variable {text : List Char}

def names (s : CallSite text) : String × String := (String.ofList s.receiver, String.ofList s.method)

/-- what the pattern matches at the site -/
def found (s : CallSite text) : Match where
  text := s.receiver ++ (s.left ++ '.' :: (s.right ++ (s.method ++ (s.last ++ ['(']))))
  groups := [(2, s.method), (1, s.receiver)]

/-- the text from the receiver on -/
def rest (s : CallSite text) : List Char :=
  s.receiver ++ (s.left ++ '.' :: (s.right ++ (s.method ++ (s.last ++ '(' :: s.after))))

theorem before_rest (s : CallSite text) : s.before ++ s.rest = text := s.spelled

theorem found_after (s : CallSite text) : s.found.text ++ s.after = s.rest := by
  simp [found, rest]

theorem blank_left (s : CallSite text) : ∀ c ∈ s.left, isBlank c = true :=
  fun c hc => s.blanks c (by simp [hc])

theorem blank_right (s : CallSite text) : ∀ c ∈ s.right, isBlank c = true :=
  fun c hc => s.blanks c (by simp [hc])

theorem blank_last (s : CallSite text) : ∀ c ∈ s.last, isBlank c = true :=
  fun c hc => s.blanks c (by simp [hc])

end CallSite

/-! ## Runs of words and blanks -/

theorem head_mark {p : Char → Bool} {mark : Char} (hmark : p mark = false) (rest : List Char) :
    ∀ c ∈ (mark :: rest).head?, p c = false :=
  fun _ hc => Option.some.inj hc ▸ hmark

/-- what comes first of some blanks with a mark behind them is no word character -/
theorem head_gap {gap : List Char} (hgap : ∀ c ∈ gap, isBlank c = true) {mark : Char} (hmark : isWord mark = false)
    (rest : List Char) : ∀ c ∈ (gap ++ mark :: rest).head?, isWord c = false := by
  cases gap with
  | nil => exact head_mark hmark rest
  | cons d gap => exact head_mark (isWord_of_isBlank (hgap d List.mem_cons_self)) _

/-- what comes last of a mark with some blanks behind it is no word character -/
theorem last_gap {gap : List Char} (hgap : ∀ c ∈ gap, isBlank c = true) {mark : Char} (hmark : isWord mark = false)
    (front : List Char) : ∀ c ∈ (front ++ mark :: gap).getLast?, isWord c = false := by
  intro c hc
  rw [List.getLast?_append, List.getLast?_cons, Option.some_or, ← List.getLast?_cons] at hc
  rcases List.mem_cons.1 (List.mem_of_getLast? hc) with rfl | hblank
  · exact hmark
  · exact isWord_of_isBlank (hgap c hblank)

theorem isBlank_of_isWord {c : Char} (h : isWord c = true) : isBlank c = false := by
  rw [← Bool.not_eq_true]
  intro hblank
  exact absurd h (by simp [isWord_of_isBlank hblank])

theorem WholeWord.exists_cons {before word after : List Char} (h : WholeWord before word after) :
    ∃ w ws, word = w :: ws ∧ isWord w = true ∧ ∀ c ∈ ws, isWord c = true := by
  obtain ⟨w, ws, rfl⟩ := List.exists_cons_of_ne_nil h.nonempty
  exact ⟨w, ws, rfl, List.forall_mem_cons.1 h.chars⟩

/-- a word does not start with a blank -/
theorem WholeWord.head {before word after : List Char} (h : WholeWord before word after) (rest : List Char) :
    ∀ c ∈ (word ++ rest).head?, isBlank c = false := by
  obtain ⟨w, ws, rfl, hw, -⟩ := h.exists_cons
  exact head_mark (isBlank_of_isWord hw) _

/-- a text has one longest run at its front -/
theorem span_unique {p : Char → Bool} {as bs as' bs' : List Char} (h : as ++ bs = as' ++ bs')
    (has : ∀ a ∈ as, p a = true) (hbs : ∀ b ∈ bs.head?, p b = false) (has' : ∀ a ∈ as', p a = true)
    (hbs' : ∀ b ∈ bs'.head?, p b = false) : as = as' ∧ bs = bs' := by
  have hspan : ∀ as bs : List Char, (∀ a ∈ as, p a = true) → (∀ b ∈ bs.head?, p b = false) →
      (as ++ bs).takeWhile p = as := by
    intro as bs has hbs
    rw [List.takeWhile_append_of_pos has]
    cases bs with
    | nil => simp
    | cons b bs => rw [List.takeWhile_cons_of_neg (by simp [hbs b rfl]), List.append_nil]
  obtain rfl : as = as' := by rw [← hspan as bs has hbs, h, hspan as' bs' has' hbs']
  exact ⟨rfl, List.append_cancel_left h⟩

/-- **A place has one site at most.** -/
theorem CallSite.ext_before {text : List Char} {s s' : CallSite text} (h : s.before.length = s'.before.length) :
    s = s' := by
  have hdot : isBlank '.' = false := by decide
  have hparenthesis : isBlank '(' = false := by decide
  obtain ⟨hbefore, hrest⟩ := List.append_inj (s.spelled.trans s'.spelled.symm) h
  obtain ⟨hreceiver, hrest⟩ := span_unique hrest s.wholeReceiver.chars s.wholeReceiver.stop s'.wholeReceiver.chars
    s'.wholeReceiver.stop
  obtain ⟨hleft, hrest⟩ := span_unique hrest s.blank_left (head_mark hdot _) s'.blank_left (head_mark hdot _)
  obtain ⟨hright, hrest⟩ := span_unique (List.cons.inj hrest).2 s.blank_right (s.wholeMethod.head _) s'.blank_right
    (s'.wholeMethod.head _)
  obtain ⟨hmethod, hrest⟩ := span_unique hrest s.wholeMethod.chars s.wholeMethod.stop s'.wholeMethod.chars
    s'.wholeMethod.stop
  obtain ⟨hlast, hrest⟩ := span_unique hrest s.blank_last (head_mark hparenthesis _) s'.blank_last
    (head_mark hparenthesis _)
  have hafter := (List.cons.inj hrest).2
  cases s
  cases s'
  simp only at hbefore hreceiver hleft hright hmethod hlast hafter
  subst hbefore hreceiver hleft hright hmethod hlast hafter
  rfl

/-! ## Matches -/

theorem run_callPattern {β : Type} (k : Cursor → Option β) (c : Cursor) :
    Pattern.run callPattern k c =
      Pattern.run .wordEdge (Pattern.run (.group 1 .word) (Pattern.run .gap (Pattern.run (.char (· == '.'))
        (Pattern.run .gap (Pattern.run (.group 2 .word) (Pattern.run .gap (Pattern.run (.char (· == '(')) k))))))) c :=
  rfl

/-- before a word character there is an edge where no other one stands before it -/
theorem wordEdge_iff {w : Char} (hw : isWord w = true) (lead : Option Char) :
    (Pattern.wordAt lead != Pattern.wordAt (some w)) = true ↔ ∀ c ∈ lead, isWord c = false := by
  cases lead <;> simp [Pattern.wordAt, hw]

/-- **At a site the pattern matches**, with the two words as its groups. -/
theorem CallSite.matchHere_eq {text : List Char} (s : CallSite text) :
    callPattern.matchHere s.before.getLast? s.rest = some s.found := by
  have hedge : (Pattern.wordAt s.before.getLast? != Pattern.wordAt s.rest.head?) = true := by
    obtain ⟨w, ws, hword, hw, -⟩ := s.wholeReceiver.exists_cons
    rw [rest, hword, List.cons_append, List.head?_cons]
    exact (wordEdge_iff hw _).2 s.wholeReceiver.start
  rw [Pattern.matchHere, run_callPattern, Pattern.wordEdge, Pattern.run_edge hedge, Pattern.run_group]
  refine Pattern.run_some1 s.wholeReceiver.nonempty s.wholeReceiver.chars s.wholeReceiver.stop rfl ?_
  refine Pattern.run_span s.blank_left (head_mark (by decide) _) rfl ?_
  rw [Pattern.run_char (by decide) rfl]
  refine Pattern.run_span s.blank_right (s.wholeMethod.head _) rfl ?_
  rw [Pattern.run_group]
  refine Pattern.run_some1 s.wholeMethod.nonempty s.wholeMethod.chars s.wholeMethod.stop rfl ?_
  refine Pattern.run_span s.blank_last (head_mark (by decide) _) rfl ?_
  rw [Pattern.run_char (by decide) rfl]
  simp only [Cursor.forward_taken, Cursor.forward_groups, Cursor.text_upTo_forward, Taken.pushAll_append,
    Taken.text_pushAll, List.map_cons, List.map_nil, CallSite.found]
  simp only [List.append_assoc, List.cons_append, List.nil_append]

/-- **Where the pattern matches there is a site.** -/
theorem exists_site {before rest : List Char} {m : Match}
    (h : callPattern.matchHere before.getLast? rest = some m) : ∃ s : CallSite (before ++ rest), s.before = before := by
  have hdot : isWord '.' = false := by decide
  have hparenthesis : isWord '(' = false := by decide
  rw [Pattern.matchHere, run_callPattern] at h
  obtain ⟨hedge, h⟩ := Pattern.exists_of_run_edge h
  obtain ⟨receiver, c₁, hrest, hne, hreceiver, h⟩ := Pattern.exists_of_run_group h
  obtain ⟨left, c₂, h₁, hleft, h⟩ := Pattern.exists_of_run_span h
  obtain ⟨dot, c₃, h₂, hx, h⟩ := Pattern.exists_of_run_char h
  obtain ⟨right, c₄, h₃, hright, h⟩ := Pattern.exists_of_run_span h
  obtain ⟨method, c₅, h₄, hmne, hmethod, h⟩ := Pattern.exists_of_run_group h
  obtain ⟨last, c₆, h₅, hlast, h⟩ := Pattern.exists_of_run_span h
  obtain ⟨parenthesis, c₇, h₆, hy, -⟩ := Pattern.exists_of_run_char h
  obtain rfl : dot = '.' := beq_iff_eq.1 hx
  obtain rfl : parenthesis = '(' := beq_iff_eq.1 hy
  rw [h₁, h₂, h₃, h₄, h₅, h₆] at hrest
  have hspelled : rest = receiver ++ (left ++ '.' :: (right ++ (method ++ (last ++ '(' :: c₇.rest)))) := hrest
  have hstart : ∀ c ∈ before.getLast?, isWord c = false := by
    obtain ⟨w, ws, rfl⟩ := List.exists_cons_of_ne_nil hne
    have hdiffer : (Pattern.wordAt before.getLast? != Pattern.wordAt rest.head?) = true := hedge
    rw [hspelled, List.cons_append, List.head?_cons] at hdiffer
    exact (wordEdge_iff (hreceiver w List.mem_cons_self) _).1 hdiffer
  refine ⟨⟨before, receiver, left, right, method, last, c₇.rest, by rw [hspelled], ?_, ?_, ?_⟩, rfl⟩
  · simp only [List.mem_append]
    rintro c ((hc | hc) | hc)
    · exact hleft c hc
    · exact hright c hc
    · exact hlast c hc
  · exact ⟨hne, hreceiver, hstart, head_gap hleft hdot _⟩
  · refine ⟨hmne, hmethod, ?_, head_gap hlast hparenthesis _⟩
    rw [← List.append_assoc, ← List.append_assoc]
    exact last_gap hright hdot _

/-! ## No match within another -/

theorem getLast?_toList (lead : Option Char) : lead.toList.getLast? = lead := by
  cases lead <;> rfl

/-- a match is what is found at a site behind the character before it -/
theorem site_of_matchHere {lead : Option Char} {rest : List Char} {m : Match}
    (h : callPattern.matchHere lead rest = some m) :
    ∃ s : CallSite (lead.toList ++ rest), s.before.getLast? = lead ∧ s.rest = rest ∧ m = s.found := by
  rw [← getLast?_toList lead] at h
  obtain ⟨s, hbefore⟩ := exists_site h
  have hrest : s.rest = rest := by
    have hspelled := s.before_rest
    rw [hbefore] at hspelled
    exact List.append_cancel_left hspelled
  have hfound := s.matchHere_eq
  rw [hbefore, hrest, h] at hfound
  exact ⟨s, by rw [hbefore, getLast?_toList], hrest, Option.some.inj hfound⟩

/-- a match starts with a word, and no word character stands before it -/
theorem start_of_matchHere {lead : Option Char} {c : Char} {rest : List Char} {m : Match}
    (h : callPattern.matchHere lead (c :: rest) = some m) : (∀ d ∈ lead, isWord d = false) ∧ isWord c = true := by
  obtain ⟨s, hlead, hrest, -⟩ := site_of_matchHere h
  obtain ⟨w, ws, hword, hw, -⟩ := s.wholeReceiver.exists_cons
  rw [CallSite.rest, hword, List.cons_append] at hrest
  obtain rfl : w = c := (List.cons.inj hrest).1
  exact ⟨hlead ▸ s.wholeReceiver.start, hw⟩

theorem quiet_gap {front : List Char} (h : ∀ c ∈ front, isWord c = false) (lead : Option Char) (back : List Char) :
    callPattern.Quiet lead front back := by
  refine Pattern.quiet_of_forall (fun c hc lead rest => Option.eq_none_iff_forall_ne_some.2 fun m hm => ?_) lead
  exact absurd (start_of_matchHere hm).2 (by simp [h c hc])

/-- within a word no match starts -/
theorem quiet_word {front : List Char} (h : ∀ c ∈ front, isWord c = true) {d : Char} (hd : isWord d = true)
    (back : List Char) : callPattern.Quiet (some d) front back := by
  induction front generalizing d with
  | nil => trivial
  | cons c front ih =>
    obtain ⟨hc, hfront⟩ := List.forall_mem_cons.1 h
    refine ⟨Option.eq_none_iff_forall_ne_some.2 fun m hm => ?_, ih hfront hc⟩
    exact absurd ((start_of_matchHere hm).1 d rfl) (by simp [hd])

/-- at a word that a parenthesis follows no match starts -/
theorem quiet_method {before method last after : List Char} (h : WholeWord before method (last ++ '(' :: after))
    (hlast : ∀ c ∈ last, isBlank c = true) (lead : Option Char) :
    callPattern.Quiet lead method (last ++ '(' :: after) := by
  have hnone : callPattern.matchHere lead (method ++ (last ++ '(' :: after)) = none := by
    refine Option.eq_none_iff_forall_ne_some.2 fun m hm => ?_
    -- behind its receiver, which would be the word, stands a dot
    obtain ⟨s, -, hrest, -⟩ := site_of_matchHere hm
    have hbehind := (span_unique hrest s.wholeReceiver.chars s.wholeReceiver.stop h.chars h.stop).2
    have hmarks := (span_unique hbehind s.blank_left (head_mark (by decide) _) hlast (head_mark (by decide) _)).2
    exact absurd (List.cons.inj hmarks).1 (by decide)
  obtain ⟨w, ws, rfl, hw, hws⟩ := h.exists_cons
  exact ⟨hnone, quiet_word hws hw _⟩

/-- **No call starts within the match of another.** -/
theorem apart_callPattern : callPattern.Apart := by
  intro lead c front back m h htext
  obtain ⟨s, -, hrest, rfl⟩ := site_of_matchHere h
  obtain ⟨w, ws, hword, hw, hws⟩ := s.wholeReceiver.exists_cons
  have hafter : s.after = back := by
    rw [← s.found_after, htext] at hrest
    exact List.append_cancel_left hrest
  rw [CallSite.found, hword, List.cons_append] at htext
  obtain ⟨rfl, hfront⟩ := List.cons.inj htext
  have hdot : ∀ x ∈ s.left ++ '.' :: s.right, isWord x = false := by
    simp only [List.mem_append, List.mem_cons]
    rintro x (hleft | rfl | hright)
    · exact isWord_of_isBlank (s.blank_left x hleft)
    · decide
    · exact isWord_of_isBlank (s.blank_right x hright)
  have hparenthesis : ∀ x ∈ s.last ++ ['('], isWord x = false := by
    simp only [List.mem_append, List.mem_singleton]
    rintro x (hlast | rfl)
    · exact isWord_of_isBlank (s.blank_last x hlast)
    · decide
  have hmethod := quiet_method s.wholeMethod s.blank_last
  have hsplit : front = ws ++ ((s.left ++ '.' :: s.right) ++ (s.method ++ (s.last ++ ['(']))) := by
    simp [← hfront]
  rw [hafter] at hmethod
  rw [hsplit]
  refine (quiet_word hws hw _).append fun _ => ?_
  refine (quiet_gap hdot _ _).append fun lead => ?_
  refine Pattern.Quiet.append ?_ fun _ => quiet_gap hparenthesis _ _
  rw [List.append_assoc]
  exact hmethod lead

/-! ## The search -/

theorem CallSite.length_before_lt {text : List Char} (s : CallSite text) : s.before.length < text.length := by
  have hrest : s.rest ≠ [] := List.append_ne_nil_of_left_ne_nil s.wholeReceiver.nonempty _
  have hpos : 0 < s.rest.length := List.length_pos_iff.2 hrest
  have hlength : text.length = s.before.length + s.rest.length := by rw [← List.length_append, s.before_rest]
  omega

/-- **One place of the text**: it has no site and the pattern does not match there, or it has one and the pattern
matches what is found at it. -/
theorem site_or_none {text before rest : List Char} (h : before ++ rest = text) :
    (callPattern.matchHere before.getLast? rest = none ∧ ∀ s : CallSite text, s.before.length ≠ before.length) ∨
      ∃ s : CallSite text, s.before.length = before.length ∧
        callPattern.matchHere before.getLast? rest = some s.found := by
  have hmatch : ∀ s : CallSite text, s.before.length = before.length →
      callPattern.matchHere before.getLast? rest = some s.found := by
    intro s hlength
    obtain ⟨hbefore, hrest⟩ := List.append_inj (s.before_rest.trans h.symm) hlength
    rw [← hbefore, ← hrest]
    exact s.matchHere_eq
  cases hhere : callPattern.matchHere before.getLast? rest with
  | none =>
    refine .inl ⟨rfl, fun s hlength => ?_⟩
    rw [hmatch s hlength] at hhere
    exact nomatch hhere
  | some m =>
    subst h
    obtain ⟨s, hbefore⟩ := exists_site hhere
    have hlength : s.before.length = before.length := congrArg List.length hbefore
    exact .inr ⟨s, hlength, hhere.symm.trans (hmatch s hlength)⟩

/-- **The sites from a place on**, in order, are what the pattern matches from there on. -/
theorem exists_sites {text before rest : List Char} (h : before ++ rest = text) :
    ∃ sites : List (CallSite text),
      sites.Pairwise (fun s t => s.before.length < t.before.length) ∧
        (∀ s, s ∈ sites ↔ before.length ≤ s.before.length) ∧
        sites.map CallSite.found = callPattern.everyMatch before.getLast? rest := by
  induction rest generalizing before with
  | nil =>
    have hnone : ∀ s : CallSite text, s.before.length < before.length := by
      intro s
      have hlength : text.length = before.length := by rw [← h, List.append_nil]
      exact hlength ▸ s.length_before_lt
    refine ⟨[], .nil, fun s => iff_of_false List.not_mem_nil (Nat.not_le.2 (hnone s)), ?_⟩
    rcases site_or_none h with ⟨hhere, -⟩ | ⟨s, hplace, -⟩
    · rw [Pattern.everyMatch, hhere]
      rfl
    · exact absurd hplace (Nat.ne_of_lt (hnone s))
  | cons c cs ih =>
    have hnext : (before ++ [c]) ++ cs = text := by rw [← h, List.append_assoc, List.singleton_append]
    have hlast : (before ++ [c]).getLast? = some c := List.getLast?_concat
    have hlength : (before ++ [c]).length = before.length + 1 := List.length_append
    obtain ⟨sites, hordered, hmem, hfound⟩ := ih hnext
    rw [hlast] at hfound
    rw [hlength] at hmem
    rcases site_or_none h with ⟨hhere, hnone⟩ | ⟨s, hplace, hhere⟩
    · refine ⟨sites, hordered, fun s => ?_, by rw [hfound, Pattern.everyMatch, hhere]; rfl⟩
      have hother := hnone s
      rw [hmem s]
      omega
    · refine ⟨s :: sites, List.pairwise_cons.2 ⟨fun t ht => ?_, hordered⟩, fun t => ?_, ?_⟩
      · rw [hplace]
        exact (hmem t).1 ht
      · rw [List.mem_cons, hmem t]
        constructor
        · rintro (rfl | hlater)
          · exact Nat.le_of_eq hplace.symm
          · exact Nat.le_of_succ_le hlater
        · intro hle
          rcases Nat.eq_or_lt_of_le hle with heq | hlt
          · exact .inl (CallSite.ext_before (heq.symm.trans hplace.symm))
          · exact .inr hlt
      · rw [List.map_cons, hfound, Pattern.everyMatch, hhere]
        rfl

/-- **The calls of a body are read off its sites in order**, each of them once, without those on the class itself and
those of ignored methods. -/
theorem calls_sites (ignored : IgnoreList) (body : String) :
    ∃ sites : List (CallSite body.toList),
      sites.Pairwise (fun s t => s.before.length < t.before.length) ∧
        (∀ s, s ∈ sites) ∧
        calls ignored body = (sites.map CallSite.names).filter fun c =>
          c.1 ≠ "this" ∧ c.1 ≠ "super" ∧ ignored.ignores c.2 = false := by
  obtain ⟨sites, hordered, hmem, hfound⟩ := exists_sites (List.nil_append body.toList)
  refine ⟨sites, hordered, fun s => (hmem s).2 (Nat.zero_le _), ?_⟩
  have hmatches : (callPattern.findAll body).map (fun m => (m.group 1, m.group 2)) = sites.map CallSite.names := by
    rw [Pattern.findAll_everyMatch apart_callPattern, show callPattern.everyMatch none body.toList = _ from hfound.symm,
      List.map_map]
    rfl
  rw [calls, hmatches]
  refine List.filter_congr fun c _ => ?_
  simp [selfReceivers, Bool.and_assoc]

/-- a chain, with calls among its arguments -/
example : calls ⟨[]⟩ "a.b\n  . c (d.e(f.g), this.h(), i.j().k())" = [("b", "c"), ("d", "e"), ("i", "j")] := by
  decide +kernel

end CodeSurvey.Tracer
