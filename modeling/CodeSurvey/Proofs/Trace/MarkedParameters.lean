/-
Markers on constructor parameters have no part in injection.

A `ParameterPlace` is a place of a class text where a parameter of a constructor starts. Markers put in there, behind a
parenthesis or a comma, are carried over by all patterns that read a class (`carries_constructorHead`,
`carries_annotatedField`, `carries_plainField`), so the constructors and the declared fields are found as before, the
parameters are those that were declared (`parameters_marked`), and no declaration starts within the markers unless one is
named like an annotation that asks for injection or like a modifier (`quiet_markers`). Main statement:
`constructorAssignments_marked`.

The text of an argument list does change what is found: the pattern of constructors ends the parameter list at the first
closing parenthesis (`constructorAssignments_qualified`).
-/
import CodeSurvey.Proofs.Pattern.Insertions
import CodeSurvey.Proofs.Trace.Constructors
import CodeSurvey.Proofs.Trace.Markers

namespace CodeSurvey.Injection

open Text Pattern.Insertion
open Pattern (Insertion)
open Tracer (head_mark span_unique last_gap)

/-! ## Patterns over an insertion -/

/-- markers put in behind a parenthesis or a comma -/
structure OfMarkers (i : Insertion) (markers : List (Mark × List Char)) : Prop where
  mark : i.mark = '(' ∨ i.mark = ','
  gap : Blank i.gap
  inserted : i.inserted = markersText markers
  markers : Markers markers

section

variable {i : Insertion} {markers : List (Mark × List Char)} (hi : OfMarkers i markers)
  {alike : Nat → List Char → List Char → Prop} {x : List Char}

include hi

theorem OfMarkers.not_mark {p : Char → Prop} (hopen : p '(') (hcomma : p ',') : p i.mark := by
  rcases hi.mark with h | h
  · exact h ▸ hopen
  · exact h ▸ hcomma

theorem OfMarkers.not_mem {c : Char} (hc : c ≠ '(' ∧ c ≠ ',') (hblank : isBlank c = false) : c ∉ i.mark :: i.gap := by
  rw [List.mem_cons, not_or]
  refine ⟨?_, fun hmem => Bool.false_ne_true (hblank.symm.trans (hi.gap c hmem))⟩
  exact hi.not_mark (p := (c ≠ ·)) hc.1 hc.2

/-- a run that excludes some marks takes all of the markers -/
theorem OfMarkers.excepts {closing : Char} {s : String}
    (h : ∀ d ∈ closing :: s.toList, d ≠ '@' ∧ isWord d = false ∧ isBlank d = false) :
    ∀ c ∈ i.inserted, c ≠ closing ∧ Pattern.except s c = true := by
  have hmem : ∀ d ∈ closing :: s.toList, d ∉ i.inserted := by
    intro d hd
    obtain ⟨hmark, hword, hblank⟩ := h d hd
    exact hi.inserted ▸ hi.markers.not_mem hmark hword hblank
  intro c hc
  refine ⟨fun heq => hmem closing List.mem_cons_self (heq ▸ hc), ?_⟩
  have hcontains : s.toList.contains c = false := by
    rw [← Bool.not_eq_true, List.contains_iff_mem]
    exact fun hcs => hmem c (List.mem_cons_of_mem _ hcs) hc
  rw [Pattern.except, hcontains]
  rfl

theorem stays_run (lazily : Bool) {test : Char → Bool} (hopen : test '(' = false) (hcomma : test ',' = false) :
    Stays i alike x (Pattern.ways (.span lazily test)) :=
  stays_span lazily (hi.not_mark (p := (test · = false)) hopen hcomma)

theorem stays_words {test : Char → Bool} (hopen : test '(' = false) (hcomma : test ',' = false) :
    Stays i alike x (Pattern.ways (.some1 test)) :=
  stays_some1 (hi.not_mark (p := (test · = false)) hopen hcomma)

theorem stays_lit {s : String} (h : '(' ∉ s.toList ∧ ',' ∉ s.toList) : Stays i alike x (Pattern.ways (.lit s)) :=
  stays_exactly (hi.not_mark (p := (· ∉ s.toList)) h.1 h.2)

theorem carries_texts {ss : List String} (h : ∀ s ∈ ss, '(' ∉ s.toList ∧ ',' ∉ s.toList) :
    Carries i alike x (Pattern.ways (.oneOf ss)) :=
  carries_oneOf (hi.not_mark (p := fun c => ∀ s ∈ ss, c ∉ s.toList) (fun s hs => (h s hs).1) fun s hs => (h s hs).2)

theorem carries_arguments : Carries i alike x (Pattern.ways arguments) :=
  (stays_run hi false (by decide) (by decide)).carries.enclosed (runsOver_span false _) (fun _ _ _ _ _ _ h => h)
    (hi.not_mem (by decide) (by decide)) (hi.excepts (by decide)) (· == '(')

theorem carries_annotationUse : Carries i alike x (Pattern.ways annotationUse) :=
  ((stays_lit hi (by decide)).carries.seq (stays_words hi (by decide) (by decide)).carries).seq (carries_arguments hi).opt

theorem carries_typeArguments : Carries i alike x
    (Pattern.ways (.lit "<" ++ .span true (Pattern.except ";=") ++ .lit ">")) :=
  carries_enclosed (runsOver_span true _) (fun _ _ _ _ _ _ h => h) (hi.not_mem (by decide) (by decide))
    (hi.excepts (by decide)) (· == '<')

theorem carries_declaredType : Carries i alike x (Pattern.ways declaredType) :=
  (stays_words hi (by decide) (by decide)).carries.seq (carries_typeArguments hi).opt

theorem stays_blank : Stays i alike x (Pattern.ways .blank) := stays_words hi (by decide) (by decide)

theorem stays_gap : Stays i alike x (Pattern.ways .gap) := stays_run hi false (by decide) (by decide)

theorem stays_word (n : Nat) : Stays i alike x (Pattern.ways (.group n .word)) :=
  (stays_words hi (by decide) (by decide)).group

theorem carries_assignment : Carries i alike x (Pattern.ways assignment) :=
  (((((((((stays_edge _).seq (stays_lit hi (by decide))).seq (stays_word hi 1)).seq (stays_gap hi)).seq
    (stays_lit hi (by decide))).seq (stays_gap hi)).seq (stays_word hi 2)).seq (stays_gap hi)).seq
    (stays_lit hi (by decide))).carries

end

/-! ## Declared types -/

/-- a dotted name, perhaps with type arguments behind it -/
def IsDeclaredType (text : List Char) : Prop :=
  ∃ base back, text = base ++ back ∧ (∀ c ∈ base, (isWord c || c == '.') = true) ∧ ∀ c ∈ back.head?, c = '<'

theorem of_run_declaredType {β : Type} {k : Cursor → Option β} {c : Cursor} {b : β}
    (h : Pattern.run declaredType k c = some b) : ∃ d, k d = some b ∧ IsDeclaredType (c.upTo d).text := by
  obtain ⟨base, rest, hrest, hne, hbase, h⟩ := Pattern.of_run_some1 h
  rcases Pattern.exists_of_run_opt h with hargs | ⟨-, h⟩
  · obtain ⟨rest₁, h₁, hargs⟩ := Pattern.of_run_exactly hargs
    obtain ⟨inner, rest₂, h₂, -, hargs⟩ := Pattern.of_run_span hargs
    obtain ⟨rest₃, h₃, hargs⟩ := Pattern.of_run_exactly hargs
    have hk := Pattern.of_onward hargs
    rw [Cursor.forward_forward, Cursor.forward_forward, Cursor.forward_forward] at hk
    refine ⟨_, hk, base, "<".toList ++ (inner ++ ">".toList), ?_, hbase, fun c hc => (Option.some.inj hc).symm⟩
    rw [Cursor.text_upTo_forward]
  · exact ⟨_, h, base, [], by rw [Cursor.text_upTo_forward, List.append_nil], hbase, nofun⟩

/-- declared types that differ within their type arguments only -/
def SameBase (n : Nat) (type type' : List Char) : Prop :=
  n = 1 ∧ type.takeWhile (· != '<') = type'.takeWhile (· != '<')

theorem sameBase_of_isDeclaredType {front back back' : List Char} {mark : Char}
    (h : IsDeclaredType (front ++ mark :: back)) (hmark : (isWord mark || mark == '.') = false) (hopen : mark ≠ '<') :
    SameBase 1 (front ++ mark :: back) (front ++ back') := by
  obtain ⟨base, tail, htext, hbase, htail⟩ := h
  -- the mark is no part of the name, so the type arguments start before it
  obtain ⟨middle, rfl⟩ : ∃ middle, front = base ++ '<' :: middle := by
    rcases List.append_eq_append_iff.1 htext.symm with ⟨middle, hfront, hrest⟩ | ⟨middle, hbase', hrest⟩
    · cases middle with
      | nil => exact absurd (htail mark (by rw [hrest]; rfl)) hopen
      | cons c middle =>
        obtain rfl := htail c (by rw [hrest]; rfl)
        exact ⟨middle, hfront⟩
    · cases middle with
      | nil => exact absurd (htail mark (by rw [← List.nil_append tail, ← hrest]; rfl)) hopen
      | cons c middle =>
        obtain ⟨rfl, -⟩ := List.cons.inj hrest
        exact absurd (hbase mark (hbase' ▸ by simp)) (by simp [hmark])
  have hpass : ∀ c ∈ base, (c != '<') = true := by
    intro c hc
    refine bne_iff_ne.2 fun heq => ?_
    exact absurd (heq ▸ hbase c hc) (by decide)
  refine ⟨rfl, ?_⟩
  simp only [List.append_assoc, List.takeWhile_append_of_pos hpass, List.cons_append]
  rfl

/-- all ways of a pattern have what each run that succeeds shows of its way -/
theorem forall_mem_ways {p : Pattern} {c : Cursor} {P : Cursor → Prop}
    (h : ∀ (k : Cursor → Option Cursor) (b : Cursor), Pattern.run p k c = some b → ∃ d, k d = some b ∧ P d) :
    ∀ e ∈ Pattern.ways p c, P e := by
  classical
  intro e he
  by_contra hnot
  let k : Cursor → Option Cursor := fun d => if P d then none else some d
  have hk : k e = some e := if_neg hnot
  obtain ⟨b, hrun⟩ : ∃ b, Pattern.run p k c = some b := by
    rw [Pattern.run_eq]
    exact Option.isSome_iff_exists.1 (List.findSome?_isSome_iff.2 ⟨e, he, by rw [hk]; rfl⟩)
  obtain ⟨d, hd, hP⟩ := h k b hrun
  rw [show k d = none from if_pos hP] at hd
  cases hd

section

variable {i : Insertion} {markers : List (Mark × List Char)} (hi : OfMarkers i markers) {x : List Char}

include hi

theorem carries_type : Carries i SameBase x (Pattern.ways (.group 1 declaredType)) := by
  refine (carries_declaredType hi).group fun c e he r y htext => ?_
  have hshape : IsDeclaredType (c.upTo e).text := forall_mem_ways (fun k b => of_run_declaredType) e he
  rw [htext] at hshape
  exact sameBase_of_isDeclaredType hshape
    (hi.not_mark (p := fun c => (isWord c || c == '.') = false) (by decide) (by decide))
    (hi.not_mark (p := (· ≠ '<')) (by decide) (by decide))

theorem carries_plainField : Carries i SameBase x (Pattern.ways plainField) :=
  ((((((((stays_edge _).carries.seq (carries_texts hi (by decide))).seq (stays_blank hi).carries).seq
    ((stays_lit hi (by decide)).seq (stays_blank hi)).carries.opt).seq (carries_type hi)).seq
    (stays_blank hi).carries).seq (stays_word hi 2).carries).seq (stays_gap hi).carries).seq (stays_lit hi (by decide)).carries

theorem carries_annotatedField : Carries i SameBase x (Pattern.ways annotatedField) :=
  ((((((((((stays_lit hi (by decide)).carries.seq (carries_texts hi (by decide))).seq (carries_arguments hi).opt).seq
    (stays_blank hi).carries).seq ((carries_annotationUse hi).seq (stays_blank hi).carries).star).seq
    ((carries_texts hi (by decide)).seq (stays_blank hi).carries).star).seq (carries_type hi)).seq
    (stays_blank hi).carries).seq (stays_word hi 2).carries).seq (stays_gap hi).carries).seq
    (stays_lit hi (by decide)).carries

end

/-- **The head of a constructor carries over what is put into its parameter list.** -/
theorem carries_constructorHead {i : Insertion} {name : String} (hname : IsIdentifier name.toList) (hmark : i.mark = '(')
    (hgap : ')' ∉ i.gap) (hinserted : ')' ∉ i.inserted) (x : List Char) :
    Carries i (fun _ _ _ => True) x (Pattern.ways (constructorHead name)) := by
  have hlit : ∀ {s : String}, '(' ∉ s.toList → Stays i (fun _ _ _ => True) x (Pattern.ways (.lit s)) :=
    fun hs => stays_exactly (hmark ▸ hs)
  have hrun : ∀ {test : Char → Bool}, test '(' = false → Stays i (fun _ _ _ => True) x (Pattern.ways (.some1 test)) :=
    fun htest => stays_some1 (hmark ▸ htest)
  have hblanks : Stays i (fun _ _ _ => True) x (Pattern.ways .gap) := stays_span false (hmark ▸ by decide)
  have hopening : '(' ∉ name.toList := fun hmem => absurd (hname.chars _ hmem) (by decide)
  have haccess : Carries i (fun _ _ _ => True) x (Pattern.ways access) :=
    ((stays_edge _).carries.seq (carries_oneOf (by rw [hmark]; decide))).seq (hrun (by decide)).carries
  have hthrows : Carries i (fun _ _ _ => True) x (Pattern.ways throwsUse) :=
    (((hlit (by decide)).seq (hrun (by decide))).seq (hrun (by decide))).carries
  have hnamed : Carries i (fun _ _ _ => True) x (Pattern.ways (.opt access ++ .wordEdge ++ .lit name ++ .gap)) :=
    ((haccess.opt.seq (stays_edge _).carries).seq (hlit hopening).carries).seq hblanks.carries
  have hclosed : ∀ c ∈ i.inserted, c ≠ ')' ∧ Pattern.except ")" c = true :=
    fun c hc => ⟨fun heq => hinserted (heq ▸ hc), (excepts_iff i.inserted).1 hinserted c hc⟩
  have hlist := hnamed.enclosed (runsOver_group 1 false (Pattern.except ")"))
    (fun _ _ _ _ _ _ hgroups => .cons ⟨rfl, .inr trivial⟩ hgroups) (by simp [hmark, hgap]) hclosed (· == '(')
  exact ((hlist.seq hblanks.carries).seq hthrows.opt).seq (hlit (by decide)).carries

/-! ## No declaration starts within markers -/

/-- annotations that ask for injection -/
def injecting : List String := ["Autowired", "Inject", "EJB", "Resource", "PersistenceContext"]

/-- modifiers that a plain field starts with -/
def fieldModifiers : List String := ["private", "protected"]

theorem head_of_blank {β : Type} {k : Cursor → Option β} {c : Cursor} {b : β} (h : Pattern.run .blank k c = some b) :
    ∃ x, c.rest.head? = some x ∧ isBlank x = true := by
  obtain ⟨cs, rest, hrest, hne, hblank, -⟩ := Pattern.of_run_some1 h
  obtain ⟨x, cs, rfl⟩ := List.exists_cons_of_ne_nil hne
  exact ⟨x, by rw [hrest]; rfl, hblank x List.mem_cons_self⟩

theorem head_of_annotatedField {lead : Option Char} {text : List Char} {m : Match}
    (h : annotatedField.matchHere lead text = some m) :
    ∃ word ∈ injecting, ∃ rest, text = '@' :: (word.toList ++ rest) ∧ ∀ c ∈ rest.head?, isWord c = false := by
  obtain ⟨k, hrun⟩ : ∃ k, Pattern.run (.lit "@") (Pattern.run (.oneOf injecting) (Pattern.run (.opt arguments)
      (Pattern.run .blank k))) ⟨lead, ⟨0, []⟩, text, []⟩ = some m := ⟨_, h⟩
  obtain ⟨rest, hat, hrun⟩ := Pattern.of_run_exactly hrun
  obtain ⟨word, hword, rest', hrest, hrun⟩ := Pattern.of_run_oneOf hrun
  refine ⟨word, hword, rest', hat.trans (congrArg ('@' :: ·) hrest), ?_⟩
  rcases Pattern.exists_of_run_opt hrun with hargs | ⟨-, hblank⟩
  · rw [run_arguments_eq] at hargs
    obtain ⟨gap, rest₁, h₁, hgap, hargs⟩ := Pattern.of_run_span hargs
    obtain ⟨opening, rest₂, h₂, hx, -⟩ := Pattern.of_run_char hargs
    obtain rfl : opening = '(' := beq_iff_eq.1 hx
    have hsplit : rest' = gap ++ rest₁ ∧ rest₁ = '(' :: rest₂ := ⟨h₁, h₂⟩
    obtain ⟨rfl, rfl⟩ := hsplit
    exact Tracer.head_gap hgap (by decide) rest₂
  · obtain ⟨x, hx, hblank⟩ := head_of_blank hblank
    intro c hc
    obtain rfl : x = c := Option.some.inj (hx.symm.trans hc)
    exact isWord_of_isBlank hblank

theorem head_of_plainField {lead : Option Char} {text : List Char} {m : Match}
    (h : plainField.matchHere lead text = some m) : (Pattern.wordAt lead != Pattern.wordAt text.head?) = true ∧
      ∃ word ∈ fieldModifiers, ∃ rest, text = word.toList ++ rest ∧ ∀ c ∈ rest.head?, isWord c = false := by
  obtain ⟨k, hrun⟩ : ∃ k, Pattern.run .wordEdge (Pattern.run (.oneOf fieldModifiers) (Pattern.run .blank k))
      ⟨lead, ⟨0, []⟩, text, []⟩ = some m := ⟨_, h⟩
  obtain ⟨hedge, hrun⟩ := Pattern.exists_of_run_edge hrun
  obtain ⟨word, hword, rest, hrest, hrun⟩ := Pattern.of_run_oneOf hrun
  refine ⟨hedge, word, hword, rest, hrest, fun c hc => ?_⟩
  obtain ⟨x, hx, hblank⟩ := head_of_blank hrun
  obtain rfl : x = c := Option.some.inj (hx.symm.trans hc)
  exact isWord_of_isBlank hblank

theorem head_of_assignment {lead : Option Char} {text : List Char} {m : Match}
    (h : assignment.matchHere lead text = some m) : ∃ rest, text = "this".toList ++ '.' :: rest := by
  rw [Pattern.matchHere, run_assignment] at h
  obtain ⟨-, h⟩ := Pattern.exists_of_run_edge h
  obtain ⟨rest, hrest, -⟩ := Pattern.of_run_exactly h
  exact ⟨rest, hrest⟩

/-- a match starts with a word character or the mark of annotations -/
def StartsField (p : Pattern) : Prop :=
  ∀ lead c rest m, p.matchHere lead (c :: rest) = some m → c = '@' ∨ isWord c = true

theorem startsField_annotatedField : StartsField annotatedField := by
  intro lead c rest m hm
  obtain ⟨word, -, rest', htext, -⟩ := head_of_annotatedField hm
  exact .inl (List.cons.inj htext).1

theorem head_fieldModifiers {word : String} (hword : word ∈ fieldModifiers) (rest : List Char) :
    (word.toList ++ rest).head? = some 'p' := by
  have hfirst : ∀ word ∈ fieldModifiers, word.toList.head? = some 'p' := by decide
  rw [List.head?_append, hfirst word hword, Option.some_or]

theorem startsField_plainField : StartsField plainField := by
  intro lead c rest m hm
  obtain ⟨-, word, hword, rest', htext, -⟩ := head_of_plainField hm
  obtain rfl : c = 'p' := Option.some.inj ((congrArg List.head? htext).trans (head_fieldModifiers hword rest'))
  exact .inr (by decide)

theorem startsField_assignment : StartsField assignment := by
  intro lead c rest m hm
  obtain ⟨rest', htext⟩ := head_of_assignment hm
  obtain rfl := (List.cons.inj htext).1
  exact .inr (by decide)

section

variable {p : Pattern} (hp : StartsField p)

include hp

theorem quiet_of_startsField {text : List Char} (h : ∀ c ∈ text, c ≠ '@' ∧ isWord c = false) (lead : Option Char)
    (back : List Char) : p.Quiet lead text back := by
  refine Pattern.quiet_of_forall (fun c hc lead rest => ?_) lead
  refine Option.eq_none_iff_forall_ne_some.2 fun m hm => ?_
  rcases hp lead c rest m hm with hmark | hword
  · exact (h c hc).1 hmark
  · exact Bool.false_ne_true ((h c hc).2.symm.trans hword)

theorem quiet_blank {gap : List Char} (h : Blank gap) (lead : Option Char) (back : List Char) : p.Quiet lead gap back :=
  quiet_of_startsField hp (fun c hc => ⟨not_at_of_blank h c hc, isWord_of_isBlank (h c hc)⟩) lead back

/-- a marker is quiet if no match starts at its mark or within its name -/
theorem quiet_marker {name gap : List Char} (hgap : Blank gap) {back : List Char}
    (hmark : ∀ lead, p.matchHere lead ('@' :: (name ++ (gap ++ back))) = none)
    (hname : ∀ u c v, name = u ++ c :: v → p.matchHere ('@' :: u).getLast? (c :: (v ++ (gap ++ back))) = none)
    (lead : Option Char) : p.Quiet lead ('@' :: (name ++ gap)) back := by
  have hwithin : ∀ u v, name = u ++ v → p.Quiet ('@' :: u).getLast? v (gap ++ back) := by
    intro u v
    induction v generalizing u with
    | nil => exact fun _ => trivial
    | cons c v ih =>
      intro hsplit
      refine ⟨hname u c v hsplit, ?_⟩
      have hnext := ih (u ++ [c]) (by rw [hsplit, List.append_assoc]; rfl)
      rwa [← List.cons_append, List.getLast?_concat] at hnext
  refine ⟨?_, (hwithin [] name rfl).append fun lead => quiet_blank hp hgap lead back⟩
  rw [List.cons_append, List.append_assoc]
  exact hmark lead

omit hp in
theorem quiet_markers {markers : List (Mark × List Char)} (h : Markers markers)
    (hquiet : ∀ x ∈ markers, ∀ lead back, p.Quiet lead ('@' :: (x.1.name ++ x.2)) back) (lead : Option Char)
    (back : List Char) : p.Quiet lead (markersText markers) back := by
  induction markers generalizing lead with
  | nil => trivial
  | cons x markers ih =>
    obtain ⟨hx, hothers⟩ := List.forall_mem_cons.1 hquiet
    obtain ⟨⟨⟨-, hmarker⟩, -⟩, hmarkers⟩ := List.forall_mem_cons.1 h
    have htext : markersText (x :: markers) = '@' :: (x.1.name ++ x.2) ++ markersText markers := by
      obtain ⟨⟨name, arguments⟩, gap⟩ := x
      obtain rfl : arguments = none := hmarker
      rw [markersText, List.flatMap_cons, Mark.text_marker]
      rfl
    rw [htext]
    exact (hx lead _).append fun lead => ih hmarkers hothers lead

end

section

variable {name gap : List Char} (hname : IsIdentifier name) (hne : gap ≠ []) (hgap : Blank gap)

include hname hne hgap

/-- the word of a marker is where its blanks start -/
theorem word_unique {word back rest : List Char} (h : name ++ (gap ++ back) = word ++ rest)
    (hword : ∀ c ∈ word, isWord c = true) (hrest : ∀ c ∈ rest.head?, isWord c = false) : name = word :=
  (span_unique h hname.chars (head_of_blanks hne hgap back) hword hrest).1

theorem quiet_annotatedField (hnot : ∀ word ∈ injecting, name ≠ word.toList) (lead : Option Char) (back : List Char) :
    annotatedField.Quiet lead ('@' :: (name ++ gap)) back := by
  refine quiet_marker startsField_annotatedField hgap (fun lead => ?_) (fun u c v hsplit => ?_) lead
  · refine Option.eq_none_iff_forall_ne_some.2 fun m hm => ?_
    obtain ⟨word, hword, rest, htext, hrest⟩ := head_of_annotatedField hm
    have hchars : ∀ word ∈ injecting, ∀ c ∈ word.toList, isWord c = true := by decide
    exact hnot word hword (word_unique hname hne hgap (List.cons.inj htext).2 (hchars word hword) hrest)
  · refine Option.eq_none_iff_forall_ne_some.2 fun m hm => ?_
    obtain ⟨word, -, rest, htext, -⟩ := head_of_annotatedField hm
    exact not_at_of_isWord hname.chars c (hsplit ▸ by simp) (List.cons.inj htext).1

theorem quiet_plainField (hnot : ∀ word ∈ fieldModifiers, name ≠ word.toList) (lead : Option Char) (back : List Char) :
    plainField.Quiet lead ('@' :: (name ++ gap)) back := by
  refine quiet_marker startsField_plainField hgap (fun lead => ?_) (fun u c v hsplit => ?_) lead
  · refine Option.eq_none_iff_forall_ne_some.2 fun m hm => ?_
    obtain ⟨-, word, hword, rest, htext, -⟩ := head_of_plainField hm
    have hfirst : some '@' = some 'p' := (congrArg List.head? htext).trans (head_fieldModifiers hword rest)
    exact absurd hfirst (by decide)
  · refine Option.eq_none_iff_forall_ne_some.2 fun m hm => ?_
    obtain ⟨hedge, word, hword, rest, htext, hrest⟩ := head_of_plainField hm
    have hchars : ∀ word ∈ fieldModifiers, ∀ c ∈ word.toList, isWord c = true := by decide
    rcases List.eq_nil_or_concat u with rfl | ⟨u, b, rfl⟩
    · have hwhole : name ++ (gap ++ back) = word.toList ++ rest := hsplit ▸ htext
      exact hnot word hword (word_unique hname hne hgap hwhole (hchars word hword) hrest)
    · -- there is no edge within a word
      have hb : isWord b = true := hname.chars b (hsplit ▸ by simp)
      have hc : isWord c = true := hname.chars c (hsplit ▸ by simp)
      rw [List.concat_eq_append, ← List.cons_append, List.getLast?_concat] at hedge
      simp [Pattern.wordAt, hb, hc] at hedge

theorem quiet_assignment (lead : Option Char) (back : List Char) : assignment.Quiet lead ('@' :: (name ++ gap)) back := by
  refine quiet_marker startsField_assignment hgap (fun lead => ?_) (fun u c v hsplit => ?_) lead
  · refine Option.eq_none_iff_forall_ne_some.2 fun m hm => ?_
    obtain ⟨rest, htext⟩ := head_of_assignment hm
    exact absurd (List.cons.inj htext).1 (by decide)
  · refine Option.eq_none_iff_forall_ne_some.2 fun m hm => ?_
    obtain ⟨rest, htext⟩ := head_of_assignment hm
    have hchars : ∀ d ∈ c :: v, isWord d = true := fun d hd => hname.chars d (hsplit ▸ List.mem_append_right u hd)
    obtain ⟨-, hgaps⟩ := span_unique ((List.cons_append).trans htext) hchars (head_of_blanks hne hgap back) (by decide)
      (head_mark (by decide) rest)
    obtain ⟨b, gap, rfl⟩ := List.exists_cons_of_ne_nil hne
    obtain rfl := (List.cons.inj hgaps).1
    exact absurd (hgap '.' List.mem_cons_self) (by decide)

end

/-! ## Searches -/

theorem last_markersText {markers : List (Mark × List Char)} (h : Markers markers) :
    ∀ c ∈ (markersText markers).getLast?, isWord c = false := by
  induction markers with
  | nil => exact nofun
  | cons x markers ih =>
    obtain ⟨⟨-, hne, hgap⟩, hothers⟩ := List.forall_mem_cons.1 h
    intro c hc
    rw [markersText, List.flatMap_cons, ← markersText, List.getLast?_append] at hc
    cases hlast : (markersText markers).getLast? with
    | some d => exact ih hothers c (by rwa [hlast] at hc ⊢)
    | none =>
      rw [hlast, Option.none_or, List.getLast?_append, List.getLast?_eq_some_getLast hne] at hc
      obtain rfl := Option.some.inj hc
      exact isWord_of_isBlank (hgap _ (List.getLast_mem hne))

/-- **A search finds the same declarations with the markers**, if none starts within them. -/
theorem findAllFrom_markers {i : Insertion} {markers : List (Mark × List Char)} (hi : OfMarkers i markers)
    {alike : Nat → List Char → List Char → Prop} {p : Pattern} (hp : ∀ x, Carries i alike x (Pattern.ways p))
    (hstart : StartsField p)
    (hquiet : ∀ x ∈ markers, ∀ lead back, p.Quiet lead ('@' :: (x.1.name ++ x.2)) back)
    (hedges : ∀ lead lead', Pattern.wordAt lead = false → Pattern.wordAt lead' = false → p.SameEdges lead lead')
    (front : List Char) :
    List.Forall₂ (AlikeGroups alike) (p.findAllFrom none 0 (i.plain front)) (p.findAllFrom none 0 (i.filled front)) := by
  have hmark : i.mark ≠ '@' ∧ isWord i.mark = false :=
    hi.not_mark (p := fun c => c ≠ '@' ∧ isWord c = false) (by decide) (by decide)
  have hneutral : ∀ lead back, p.Quiet lead (i.mark :: i.gap) back :=
    quiet_of_startsField hstart (List.forall_mem_cons.2
      ⟨hmark, fun c hc => ⟨not_at_of_blank hi.gap c hc, isWord_of_isBlank (hi.gap c hc)⟩⟩)
  have hmarkers : ∀ lead back, p.Quiet lead i.inserted back := by
    rw [hi.inserted]
    exact quiet_markers hi.markers hquiet
  have hwordAt : ∀ {lead : Option Char}, (∀ c ∈ lead, isWord c = false) → Pattern.wordAt lead = false := by
    intro lead hlead
    cases lead with
    | none => rfl
    | some c => exact hlead c rfl
  have hlast : ∀ c ∈ (i.mark :: i.gap).getLast?, isWord c = false := last_gap hi.gap hmark.2 []
  refine findAllFrom_insertion hp (fun lead => hneutral lead _)
    (fun lead => (hneutral lead _).append fun lead => hmarkers lead _) (hedges _ _ (hwordAt hlast) (hwordAt ?_)) front
  rw [List.getLast?_append, hi.inserted]
  cases hinserted : (markersText markers).getLast? with
  | none => exact hlast
  | some c => exact fun d hd => last_markersText hi.markers d (hinserted.trans hd)

theorem sameEdges_wordEdge {lead lead' : Option Char} (h : Pattern.wordAt lead = false)
    (h' : Pattern.wordAt lead' = false) : Pattern.SameEdges lead lead' .wordEdge := by
  intro next
  show (Pattern.wordAt lead != _) = (Pattern.wordAt lead' != _)
  rw [h, h']

theorem sameEdges_assignment {lead lead' : Option Char} (h : Pattern.wordAt lead = false)
    (h' : Pattern.wordAt lead' = false) : assignment.SameEdges lead lead' :=
  ((((((((sameEdges_wordEdge h h').seq rfl).seq rfl).seq rfl).seq rfl).seq rfl).seq rfl).seq rfl).seq rfl

theorem sameEdges_plainField {lead lead' : Option Char} (h : Pattern.wordAt lead = false)
    (h' : Pattern.wordAt lead' = false) : plainField.SameEdges lead lead' :=
  ((((((((sameEdges_wordEdge h h').seq rfl).seq rfl).seq rfl).seq rfl).seq rfl).seq rfl).seq rfl).seq rfl

/-! ## Declarations -/

/-- declarations of one name, whose types are resolved alike -/
def SameDeclaration (d d' : String × String) : Prop :=
  d.1 = d'.1 ∧ ∀ known, Names.resolveType d.2 known = Names.resolveType d'.2 known

theorem sameDeclaration_of_sameBase {m m' : Match} (h : AlikeGroups SameBase m m') :
    SameDeclaration (m.group 2, m.group 1) (m'.group 2, m'.group 1) := by
  refine ⟨(h.group 2).resolve_right fun ⟨_, _, ⟨htwo, _⟩, _⟩ => absurd htwo (by decide), fun known => ?_⟩
  rcases h.group 1 with hsame | ⟨type, type', ⟨-, hbase⟩, hm, hm'⟩
  · exact congrArg (Names.resolveType · known) hsame
  · have hsimple : Names.simpleType (m.group 1) = Names.simpleType (m'.group 1) := by
      rw [hm, hm', Names.simpleType, Names.simpleType, beforeFirst, beforeFirst, String.toList_ofList,
        String.toList_ofList, hbase]
    simp only [Names.resolveType, hsimple]

/-- A pattern of field declarations finds the same declarations with the markers. -/
theorem fields_marked {i : Insertion} {front : List Char} {q : Pattern}
    (hfound : List.Forall₂ (AlikeGroups SameBase) (q.findAllFrom none 0 (i.plain front))
      (q.findAllFrom none 0 (i.filled front))) :
    List.Forall₂ SameDeclaration ((q.findAll (String.ofList (i.plain front))).map fun m => (m.group 2, m.group 1))
      ((q.findAll (String.ofList (i.filled front))).map fun m => (m.group 2, m.group 1)) := by
  rw [Pattern.findAll, Pattern.findAll, String.toList_ofList, String.toList_ofList, List.forall₂_map_left_iff,
    List.forall₂_map_right_iff]
  exact hfound.imp fun _ _ => sameDeclaration_of_sameBase

/-- such declarations are recorded alike -/
theorem foldl_record_congr (known : NameSet) {ds ds' : List (String × String)} (h : List.Forall₂ SameDeclaration ds ds')
    (map : InjectionMap) : ds.foldl (record known) map = ds'.foldl (record known) map := by
  refine List.rel_foldl (fun map map' hmap d d' hd => ?_) (rfl : map = map) h
  rw [hmap, record, record, hd.1, hd.2 known]

/-! ## Places of parameters -/

/-- the places and the parameter lists of the constructors that a search finds -/
def parameterLists (text name : String) : List (Nat × String) :=
  ((constructorHead name).placed text).map fun a => (a.1, a.2.group 1)

/-- a class text, cut where a parameter of a constructor starts -/
structure ParameterPlace (name : String) where
  before : List Char
  /-- the constructor up to its parameters -/
  head : List Char
  earlier : List Char
  later : List Char
  after : List Char
  opening : '(' ∉ head
  starts : StartsParameter earlier
  found : (before.length, String.ofList (earlier ++ later)) ∈
    parameterLists (String.ofList (before ++ (head ++ '(' :: (earlier ++ (later ++ ')' :: after))))) name

namespace ParameterPlace

variable {name : String} (p : ParameterPlace name) (markers : List (Mark × List Char))

/-- the text as it is found -/
def text : List Char := p.before ++ (p.head ++ '(' :: (p.earlier ++ (p.later ++ ')' :: p.after)))

/-- the text with another one put in before the parameter -/
def filled (inserted : List Char) : List Char :=
  p.before ++ (p.head ++ '(' :: (p.earlier ++ (inserted ++ (p.later ++ ')' :: p.after))))

/-- the text with markers before the parameter -/
abbrev marked : List Char := p.filled (markersText markers)

/-- the insertion of markers, with all that stands in the list before them -/
def inList : Insertion := ⟨'(', p.earlier, markersText markers, p.later ++ ')' :: p.after⟩

theorem plain_inList : (p.inList markers).plain (p.before ++ p.head) = p.text := by
  simp only [Insertion.plain, inList, text, List.append_assoc, List.cons_append]

theorem filled_inList : (p.inList markers).filled (p.before ++ p.head) = p.marked markers := by
  simp only [Insertion.filled, inList, filled, List.append_assoc, List.cons_append]

theorem exists_ofMarkers (h : Markers markers) : ∃ (i : Insertion) (front : List Char), OfMarkers i markers ∧
    i.plain front = p.text ∧ i.filled front = p.marked markers := by
  obtain ⟨before, head, earlier, later, after, -, hstarts, -⟩ := p
  cases hstarts with
  | first hgap =>
    refine ⟨⟨'(', earlier, markersText markers, later ++ ')' :: after⟩, before ++ head, ⟨.inl rfl, hgap, rfl, h⟩, ?_, ?_⟩
    · simp only [Insertion.plain, text, List.append_assoc, List.cons_append]
    · simp only [Insertion.filled, filled, List.append_assoc, List.cons_append]
  | @next front gap hgap =>
    refine ⟨⟨',', gap, markersText markers, later ++ ')' :: after⟩, before ++ (head ++ '(' :: front),
      ⟨.inr rfl, hgap, rfl, h⟩, ?_, ?_⟩
    · simp only [Insertion.plain, text, List.append_assoc, List.cons_append]
    · simp only [Insertion.filled, filled, List.append_assoc, List.cons_append]

variable (hname : IsIdentifier name.toList)

include hname

/-- the parameter list of a match stands between its first parentheses -/
theorem list_of_match {text : List Char} {start : Nat} {m : Match}
    (hm : (constructorHead name).matchAt text start = some m) :
    ∃ head list rest, m.text = head ++ '(' :: (list ++ ')' :: rest) ∧ '(' ∉ head ∧ ')' ∉ list ∧
      m.group 1 = String.ofList list := by
  obtain ⟨front, gap, list, behind, -, -, hfront, hgap, hlist, -, -, hmatch, hgroup⟩ := exists_head hname hm
  have hwords : WordsOnly (front ++ (name.toList ++ gap)) :=
    hfront.append (.append (.of_word hname.chars) (.of_blank hgap))
  refine ⟨_, list, behind ++ ['\x7b'], ?_, not_mem_of_wordsOnly hwords (by decide) (by decide), hlist, hgroup⟩
  rw [hmatch, List.append_assoc, List.append_assoc]

omit hname in
/-- a text is cut at the first parentheses in one way -/
theorem list_unique {head list rest head' list' rest' : List Char}
    (h : head ++ '(' :: (list ++ ')' :: rest) = head' ++ '(' :: (list' ++ ')' :: rest')) (hhead : '(' ∉ head)
    (hlist : ')' ∉ list) (hhead' : '(' ∉ head') (hlist' : ')' ∉ list') : head = head' ∧ list = list' ∧ rest = rest' := by
  have hbefore : ∀ {mark : Char} {text : List Char}, mark ∉ text → ∀ c ∈ text, (c != mark) = true :=
    fun hmem c hc => bne_iff_ne.2 fun heq => hmem (heq ▸ hc)
  obtain ⟨hheads, hopened⟩ := span_unique h (hbefore hhead) (head_mark (by decide) _) (hbefore hhead')
    (head_mark (by decide) _)
  obtain ⟨hlists, hclosed⟩ := span_unique (List.cons.inj hopened).2 (hbefore hlist) (head_mark (by decide) _)
    (hbefore hlist') (head_mark (by decide) _)
  exact ⟨hheads, hlists, (List.cons.inj hclosed).2⟩

/-- the search finds the constructor of the place, with the parameter list cut there -/
theorem exists_found : ∃ m rest, (p.before.length, m) ∈ (constructorHead name).placedFrom none 0 0 p.text ∧
    m.text = p.head ++ '(' :: (p.earlier ++ p.later ++ ')' :: rest) ∧
    m.group 1 = String.ofList (p.earlier ++ p.later) ∧ ')' ∉ p.earlier ++ p.later := by
  obtain ⟨⟨start, m⟩, hmem, hpair⟩ := List.mem_map.1 p.found
  obtain ⟨rfl, hgroup⟩ := Prod.mk.inj hpair
  have hmatch := ((constructorHead name).sweep_placed _).stands _ hmem
  rw [Pattern.placed] at hmem
  rw [String.toList_ofList] at hmem hmatch
  obtain ⟨head, list, rest, htext, hhead, hlist, hgroup'⟩ := list_of_match hname hmatch
  obtain rfl : list = p.earlier ++ p.later := String.ofList_inj.1 (hgroup'.symm.trans hgroup)
  -- both the head of the match and that of the place end before the first parenthesis
  rw [Pattern.matchAt_length] at hmatch
  obtain ⟨back, hback⟩ := Pattern.matchHere_front hmatch
  rw [htext] at hback
  have hboth : p.head ++ '(' :: (p.earlier ++ p.later ++ ')' :: p.after) =
      head ++ '(' :: (p.earlier ++ p.later ++ ')' :: (rest ++ back)) := by
    simpa only [List.append_assoc, List.cons_append] using hback
  obtain ⟨rfl, -, -⟩ := list_unique hboth p.opening hlist hhead hlist
  exact ⟨m, rest, hmem, htext, hgroup, hlist⟩

/-- **The constructors declare the same parameters with the markers.** -/
theorem declaredParameters_marked (h : Markers markers) :
    declaredParameters (String.ofList (p.marked markers)) name = declaredParameters (String.ofList p.text) name := by
  obtain ⟨m, rest, hmem, htext, hgroup, hlist⟩ := p.exists_found hname
  obtain ⟨hearlier, hlater⟩ := not_or.1 (List.mem_append.not.1 hlist)
  have hclosed : ')' ∉ markersText markers := h.not_mem (by decide) (by decide) (by decide)
  rw [← p.plain_inList markers] at hmem
  obtain ⟨ms, ms', m', hplain, hfilled, hmatch, hcross⟩ :=
    findAllFrom_crossing (fun x => carries_constructorHead hname rfl hearlier hclosed x) hmem (by simp) (by simp [htext])
  -- with the markers the list of the match has them behind the earlier parameters
  have hgroup' : m'.group 1 = String.ofList (p.earlier ++ (markersText markers ++ p.later)) := by
    obtain ⟨y, -, -, -, hm, hm'⟩ := hcross.text
    rw [List.drop_left] at hm hm'
    have hy : y = p.later ++ ')' :: rest := by
      have hrest := List.append_cancel_left (htext.symm.trans hm)
      simpa [inList] using hrest.symm
    obtain ⟨head, list, rest', hm'', hhead, hlist', hgroup'⟩ := list_of_match hname hmatch
    have hboth : p.head ++ '(' :: (p.earlier ++ (markersText markers ++ p.later) ++ ')' :: rest) =
        head ++ '(' :: (list ++ ')' :: rest') := by
      simpa [inList, hy] using hm'.symm.trans hm''
    have hopen : ')' ∉ p.earlier ++ (markersText markers ++ p.later) := by
      simp only [List.mem_append, not_or]
      exact ⟨hearlier, hclosed, hlater⟩
    rw [hgroup', (list_unique hboth p.opening hopen hhead hlist').2.1]
  have hsame : parameters (m'.group 1) = parameters (m.group 1) := by
    rw [hgroup, hgroup']
    exact parameters_marked p.starts h hlist
  rw [plain_inList] at hplain
  rw [filled_inList] at hfilled
  simp only [declaredParameters, Pattern.findAll, String.toList_ofList, hplain, hfilled, List.flatMap_append,
    List.flatMap_cons, hsame]

/-! ## What the markers leave the same -/

/-- The constructors assign the same fields with the markers. -/
theorem assignments_marked (h : Markers markers) :
    constructorAssignments (String.ofList (p.marked markers)) name =
      constructorAssignments (String.ofList p.text) name := by
  obtain ⟨i, front, hi, hplain, hfilled⟩ := p.exists_ofMarkers markers h
  have hquiet : ∀ x ∈ markers, ∀ lead back, assignment.Quiet lead ('@' :: (x.1.name ++ x.2)) back :=
    fun x hx => quiet_assignment (h x hx).1.1.name (h x hx).2.1 (h x hx).2.2
  have hcarries : ∀ x, Carries i (fun _ _ _ => False) x (Pattern.ways assignment) := fun _ => carries_assignment hi
  have hfound := findAllFrom_markers hi hcarries startsField_assignment hquiet (fun _ _ => sameEdges_assignment) front
  have hgroup : ∀ {m m' : Match}, AlikeGroups (fun _ _ _ => False) m m' → ∀ n, m.group n = m'.group n :=
    fun hm n => (hm.group n).resolve_right fun ⟨_, _, hfalse, _⟩ => hfalse
  have hpairs : (assignment.findAll (String.ofList p.text)).map (fun m => (m.group 1, m.group 2)) =
      (assignment.findAll (String.ofList (p.marked markers))).map fun m => (m.group 1, m.group 2) := by
    rw [Pattern.findAll, Pattern.findAll, String.toList_ofList, String.toList_ofList, ← hplain, ← hfilled]
    exact Pattern.map_eq_of_forall₂ (hfound.imp fun m m' hm => by rw [hgroup hm, hgroup hm])
  have hassigned : ∀ text, constructorAssignments text name =
      ((assignment.findAll text).map fun m => (m.group 1, m.group 2)).filterMap fun a =>
        ((declaredParameters text name).lookup a.2).map (a.1, ·) := by
    intro text
    simp only [constructorAssignments, get?_constructorParameters, List.filterMap_map, Function.comp_def]
  rw [hassigned, hassigned, hpairs, p.declaredParameters_marked markers hname h]

theorem declarations_marked (h : Markers markers)
    (hnot : ∀ x ∈ markers, ∀ word ∈ injecting ++ fieldModifiers, x.1.name ≠ word.toList) :
    List.Forall₂ SameDeclaration (declarations (String.ofList p.text) (some name))
      (declarations (String.ofList (p.marked markers)) (some name)) := by
  obtain ⟨i, front, hi, hplain, hfilled⟩ := p.exists_ofMarkers markers h
  have hannotated := findAllFrom_markers hi (fun _ => carries_annotatedField hi) startsField_annotatedField
    (fun x hx => quiet_annotatedField (h x hx).1.1.name (h x hx).2.1 (h x hx).2.2
      fun word hword => hnot x hx word (List.mem_append_left _ hword))
    (fun lead lead' _ _ => Pattern.sameEdges_of_edgeFree rfl lead lead') front
  have hfields := findAllFrom_markers hi (fun _ => carries_plainField hi) startsField_plainField
    (fun x hx => quiet_plainField (h x hx).1.1.name (h x hx).2.1 (h x hx).2.2
      fun word hword => hnot x hx word (List.mem_append_right _ hword))
    (fun _ _ => sameEdges_plainField) front
  have hassigned : List.Forall₂ SameDeclaration (constructorAssignments (String.ofList p.text) name)
      (constructorAssignments (String.ofList (p.marked markers)) name) := by
    rw [p.assignments_marked markers hname h]
    exact List.forall₂_same.2 fun _ _ => ⟨rfl, fun _ => rfl⟩
  rw [declarations, declarations, ← hplain, ← hfilled]
  rw [← hplain, ← hfilled] at hassigned
  exact List.rel_append (List.rel_append (fields_marked hannotated) hassigned) (fields_marked hfields)

end ParameterPlace

/-- **Markers before constructor parameters have no part in injection.** Put in where a parameter of a constructor starts,
they leave the assignments of constructors as they are, and the injection map too if none is named like an annotation
that asks for injection or like a modifier of fields. -/
theorem constructorAssignments_marked {name : String} (hname : IsIdentifier name.toList) (p : ParameterPlace name)
    {markers : List (Mark × List Char)} (h : Markers markers) :
    constructorAssignments (String.ofList (p.marked markers)) name =
        constructorAssignments (String.ofList p.text) name ∧
      ((∀ x ∈ markers, ∀ word ∈ injecting ++ fieldModifiers, x.1.name ≠ word.toList) → ∀ known,
        resolve (String.ofList (p.marked markers)) (some name) known =
          resolve (String.ofList p.text) (some name) known) := by
  refine ⟨p.assignments_marked markers hname h, fun hnot known => ?_⟩
  exact (foldl_record_congr known (p.declarations_marked markers hname h hnot) _).symm

/-- a constructor with one parameter, which it assigns to a field -/
def storeParameter : ParameterPlace "A" where
  before := "class A \x7b ".toList
  head := "A".toList
  earlier := []
  later := "Store s".toList
  after := " \x7b this.s = s; \x7d \x7d".toList
  opening := by decide
  starts := .first nofun
  found := by decide +kernel

/-- two markers and the blanks behind them -/
def storeMarkers : List (Mark × List Char) := [(⟨"Lazy".toList, none⟩, [' ']), (⟨"NonNull".toList, none⟩, ['\n', ' '])]

theorem markers_storeMarkers : Markers storeMarkers :=
  List.forall_mem_cons.2 ⟨⟨⟨Mark.wellFormed_marker (by decide), rfl⟩, by decide, by decide⟩,
    List.forall_mem_singleton.2 ⟨⟨Mark.wellFormed_marker (by decide), rfl⟩, by decide, by decide⟩⟩

theorem constructorAssignments_marked_store :
    String.ofList (storeParameter.marked storeMarkers) =
      "class A \x7b A(@Lazy @NonNull\n Store s) \x7b this.s = s; \x7d \x7d" ∧
    constructorAssignments (String.ofList (storeParameter.marked storeMarkers)) "A" = [("s", "Store")] ∧
    (resolve (String.ofList (storeParameter.marked storeMarkers)) (some "A") (NameSet.ofList ["Store"])).get? "s" =
      some "Store" := by
  obtain ⟨hassigned, hmap⟩ := constructorAssignments_marked (by decide) storeParameter markers_storeMarkers
  rw [hassigned, hmap (by decide)]
  decide +kernel

/-- an argument list ends the parameter list, and the constructor is none any more -/
theorem constructorAssignments_qualified :
    constructorAssignments (String.ofList storeParameter.text) "A" = [("s", "Store")] ∧
    constructorAssignments (String.ofList (storeParameter.filled "@Qualifier(\"main\") ".toList)) "A" = [] ∧
    (resolve (String.ofList storeParameter.text) (some "A") (NameSet.ofList ["Store"])).get? "s" = some "Store" ∧
    (resolve (String.ofList (storeParameter.filled "@Qualifier(\"main\") ".toList)) (some "A")
      (NameSet.ofList ["Store"])).get? "s" = none := by
  decide +kernel

end CodeSurvey.Injection
