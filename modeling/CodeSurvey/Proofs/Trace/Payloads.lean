/-
The payload of an operation: the declared type of the parameter that holds the request's body.

`BodyParameter` is a parameter list with such a parameter: the annotation, markers, `final`, a type and a name, with any
text before and behind. Its type is a dotted name with type arguments and array brackets. The pattern reads the type
arguments lazily, up to a closing bracket with blanks and a word behind it; within type arguments no word stands there
(`ArgumentList`), so the arguments are read to their end, however deep they are. It reads no array brackets, so the
payload is the declared type exactly when there are none. Main statement: `requestType_declared`.
-/
import CodeSurvey.Proofs.Pattern.Places
import CodeSurvey.Proofs.Trace.Annotations
import CodeSurvey.Trace.Endpoint

namespace CodeSurvey.Endpoint

open Text
open Injection (Mark IsIdentifier Solid annotationUse run_annotationUse_other solid_of_isWord)
open Tracer (head_mark span_unique isBlank_of_isWord)

/-! ## Type arguments -/

/-- blanks, at least one, and a word -/
def WordFollows (text : List Char) : Prop :=
  ∃ gap w rest, gap ≠ [] ∧ Blank gap ∧ isWord w = true ∧ text = gap ++ w :: rest

/-- the text of type arguments: brackets are balanced, there are no parentheses, and where arguments within it close no
word follows -/
inductive ArgumentList : List Char → Prop
  | nil : ArgumentList []
  | char {c : Char} {text : List Char} (hc : c ∉ "<>()".toList) (h : ArgumentList text) : ArgumentList (c :: text)
  | nested {inner text : List Char} (hinner : ArgumentList inner) (h : ArgumentList text)
    (hnext : ¬ WordFollows text) : ArgumentList ('<' :: (inner ++ '>' :: text))

theorem not_wordFollows_of_head {text : List Char} (h : ∀ c ∈ text.head?, isBlank c = false) : ¬ WordFollows text := by
  rintro ⟨gap, w, rest, hne, hgap, -, rfl⟩
  obtain ⟨b, gap, rfl⟩ := List.exists_cons_of_ne_nil hne
  exact Bool.false_ne_true ((h b rfl).symm.trans (hgap b List.mem_cons_self))

theorem WordFollows.of_append {text rest : List Char} {c : Char} (hblank : isBlank c = false) (hword : isWord c = false)
    (h : WordFollows (text ++ c :: rest)) : WordFollows text := by
  obtain ⟨gap, w, back, hne, hgap, hw, htext⟩ := h
  have hww : isBlank w = false := isBlank_of_isWord hw
  rcases List.append_eq_append_iff.1 htext with ⟨middle, hgap', hmiddle⟩ | ⟨middle, rfl, hmiddle⟩
  · -- the character would stand within the blanks or be the word's first one
    cases middle with
    | nil =>
      obtain rfl := (List.cons.inj hmiddle).1
      rw [hw] at hword
      cases hword
    | cons d middle =>
      obtain rfl := (List.cons.inj hmiddle).1
      have hd := hgap c (by rw [hgap']; simp)
      rw [hblank] at hd
      cases hd
  · cases middle with
    | nil =>
      obtain rfl := (List.cons.inj hmiddle).1
      rw [hw] at hword
      cases hword
    | cons d middle =>
      obtain ⟨rfl, -⟩ := List.cons.inj hmiddle
      exact ⟨gap, w, middle, hne, hgap, hw, rfl⟩

namespace ArgumentList

variable {text : List Char}

theorem plain_append (front : List Char) (hfront : ∀ c ∈ front, c ∉ "<>()".toList) (h : ArgumentList text) :
    ArgumentList (front ++ text) := by
  induction front with
  | nil => exact h
  | cons c front ih =>
    obtain ⟨hc, hothers⟩ := List.forall_mem_cons.1 hfront
    exact .char hc (ih hothers)

theorem chars (h : ArgumentList text) : ∀ c ∈ text, Pattern.except "()" c = true := by
  induction h with
  | nil => exact fun c hc => absurd hc List.not_mem_nil
  | @char c text hc _ ih =>
    refine List.forall_mem_cons.2 ⟨?_, ih⟩
    have hne : c ≠ '(' ∧ c ≠ ')' := by
      constructor <;> rintro rfl <;> exact hc (by decide)
    simp [Pattern.except, hne]
  | nested _ _ _ ihinner ih =>
    refine List.forall_mem_cons.2 ⟨rfl, fun c hc => ?_⟩
    rcases List.mem_append.1 hc with hc | hc
    · exact ihinner c hc
    · rcases List.mem_cons.1 hc with rfl | hc
      · rfl
      · exact ih c hc

/-- **Behind a closing bracket within type arguments no word follows.** -/
theorem not_wordFollows (h : ArgumentList text) {front back : List Char} (htext : text = front ++ '>' :: back) :
    ¬ WordFollows back := by
  induction h generalizing front back with
  | nil => simp at htext
  | @char c text hc _ ih =>
    cases front with
    | nil =>
      obtain rfl := (List.cons.inj htext).1
      exact absurd (by decide) hc
    | cons d front => exact ih (List.cons.inj htext).2
  | @nested inner text hinner _ hnext ihinner ih =>
    cases front with
    | nil => exact absurd (List.cons.inj htext).1 (by decide)
    | cons d front =>
      -- the bracket stands behind the inner arguments or at their end, or it is one of them
      rcases List.append_eq_append_iff.1 (List.cons.inj htext).2 with ⟨middle, -, hmiddle⟩ | ⟨middle, hinner', hmiddle⟩
      · cases middle with
        | nil => exact (List.cons.inj hmiddle).2 ▸ hnext
        | cons e middle => exact ih (List.cons.inj hmiddle).2
      · cases middle with
        | nil => exact (List.cons.inj hmiddle).2 ▸ hnext
        | cons e middle =>
          obtain ⟨rfl, rfl⟩ := List.cons.inj hmiddle
          exact fun hfollows => ihinner hinner' (hfollows.of_append (by decide) (by decide))

end ArgumentList

/-! ## The parameter that holds the body -/

/-- the annotation of the request's body stands at a place of the text -/
def marksBody (text : List Char) (place : Nat) : Bool :=
  match afterStart "@RequestBody".toList (text.drop place) with
  | some rest => !Pattern.wordAt rest.head?
  | none => false

theorem marksBody_eq_false {text : List Char} (h : ∀ place < text.length, marksBody text place = false) (place : Nat) :
    marksBody text place = false := by
  by_cases hplace : place < text.length
  · exact h place hplace
  · rw [marksBody, List.drop_eq_nil_of_le (Nat.le_of_not_lt hplace)]
    rfl

theorem wordAt_eq_false {next : Option Char} (h : ∀ c ∈ next, isWord c = false) : Pattern.wordAt next = false := by
  cases next with
  | none => rfl
  | some c => exact h c rfl

/-- a character of a dotted name -/
def isDotted (c : Char) : Bool := isWord c || c == '.'

theorem not_dotted_of_isBlank {c : Char} (h : isBlank c = true) : isDotted c = false := by
  rw [isDotted, isWord_of_isBlank h, Bool.false_or]
  refine Bool.eq_false_iff.2 fun hdot => ?_
  rw [beq_iff_eq.1 hdot] at h
  exact absurd h (by decide)

/-- a list of parameters, one of them under the annotation of the request's body -/
structure BodyParameter where
  before : List Char
  /-- of the annotation's argument list, the blanks before it and what stands within the parentheses -/
  arguments : Option (List Char × List Char)
  gap : List Char
  /-- the names of further annotations, each with the blanks behind it -/
  markers : List (List Char × List Char)
  /-- the blanks behind `final`, if it stands there -/
  isFinal : Option (List Char)
  /-- the dotted name of the type -/
  typeName : List Char
  typeArguments : Option (List Char)
  /-- how many pairs of array brackets follow -/
  dimensions : Nat
  space : List Char
  name : List Char
  after : List Char

namespace BodyParameter

/-- the annotation of the request's body -/
def mark (p : BodyParameter) : Mark := ⟨"RequestBody".toList, p.arguments⟩

/-- a further annotation with the blanks behind it -/
def markerText (m : List Char × List Char) : List Char := Mark.text ⟨m.1, none⟩ ++ m.2

def finalText (p : BodyParameter) : List Char :=
  match p.isFinal with
  | none => []
  | some gap => "final".toList ++ gap

def argumentText (p : BodyParameter) : List Char :=
  match p.typeArguments with
  | none => []
  | some inner => '<' :: (inner ++ ['>'])

/-- the declared type as it is written -/
def type (p : BodyParameter) : List Char :=
  p.typeName ++ (p.argumentText ++ (List.replicate p.dimensions "[]".toList).flatten)

/-- from the modifiers of the type on -/
def declaration (p : BodyParameter) : List Char := p.finalText ++ (p.type ++ (p.space ++ (p.name ++ p.after)))

/-- from the annotation on -/
def rest (p : BodyParameter) : List Char :=
  p.mark.text ++ (p.gap ++ ((p.markers.map markerText).flatten ++ p.declaration))

def text (p : BodyParameter) : List Char := p.before ++ p.rest

/-- from the annotation on up to the name -/
def taken (p : BodyParameter) : List Char :=
  p.mark.text ++ (p.gap ++ ((p.markers.map markerText).flatten ++ (p.finalText ++ (p.type ++ (p.space ++ p.name)))))

structure WellFormed (p : BodyParameter) : Prop where
  mark : p.mark.WellFormed
  plain : p.mark.Plain
  gap : p.gap ≠ [] ∧ Blank p.gap
  markers : ∀ m ∈ p.markers, IsIdentifier m.1 ∧ m.2 ≠ [] ∧ Blank m.2
  isFinal : ∀ gap ∈ p.isFinal, gap ≠ [] ∧ Blank gap
  typeName : p.typeName ≠ [] ∧ (∀ c ∈ p.typeName, isDotted c = true) ∧ p.typeName ≠ "final".toList
  typeArguments : ∀ inner ∈ p.typeArguments, ArgumentList inner
  space : p.space ≠ [] ∧ Blank p.space
  name : IsIdentifier p.name
  after : ∀ c ∈ p.after.head?, isWord c = false
  /-- the annotation stands at no earlier place -/
  first : ∀ place < p.before.length, marksBody p.text place = false

end BodyParameter

/-! ## What the pattern takes -/

/-- a type as the pattern takes it: a dotted name with type arguments -/
def payloadType : Pattern :=
  .some1 (fun c => isWord c || c == '.') ++ .opt (.lit "<" ++ .span true (Pattern.except "()") ++ .lit ">")

section

variable {β : Type} {k : Cursor → Option β} {c : Cursor} {b : β}

theorem run_requestBody (k : Cursor → Option β) (c : Cursor) :
    Pattern.run requestBody k c = Pattern.run (.lit "@RequestBody") (Pattern.run .wordEdge
      (Pattern.run (.opt Injection.arguments) (Pattern.run .blank (Pattern.run (.star (annotationUse ++ .blank))
        (Pattern.run (.opt (.lit "final" ++ .blank)) (Pattern.run (.group 1 payloadType) (Pattern.run .blank
          (Pattern.run .word k)))))))) c :=
  rfl

theorem solid_of_dotted {text : List Char} (h : ∀ c ∈ text.head?, isDotted c = true) : Solid text := by
  intro c hc
  rcases Bool.or_eq_true_iff.1 (h c hc) with hword | hdot
  · exact solid_of_isWord (fun d hd => Option.some.inj (hc.symm.trans hd) ▸ hword) c hc
  · rw [beq_iff_eq.1 hdot]
    decide

theorem run_blank {gap back : List Char} (hgap : gap ≠ [] ∧ Blank gap) (hback : ∀ c ∈ back.head?, isBlank c = false)
    (hc : c.rest = gap ++ back) (h : k (c.forward gap back) = some b) : Pattern.run .blank k c = some b :=
  Pattern.run_some1 hgap.1 hgap.2 hback hc h

theorem run_marker {m : List Char × List Char} (hm : IsIdentifier m.1 ∧ m.2 ≠ [] ∧ Blank m.2) {back : List Char}
    (hback : Solid back) (hc : c.rest = BodyParameter.markerText m ++ back)
    (h : k (c.forward (BodyParameter.markerText m) back) = some b) :
    Pattern.run (annotationUse ++ .blank) k c = some b := by
  obtain ⟨hname, hgap⟩ := hm
  have hend : Mark.EndsAt ⟨m.1, none⟩ (m.2 ++ back) := Mark.endsAt_gap hgap.2 (fun _ => hgap.1) hback
  rw [BodyParameter.markerText, List.append_assoc] at hc
  refine Mark.run_text (Mark.wellFormed_marker hname) (Mark.plain_marker _) hend hc ?_
  refine run_blank hgap (fun c hc => (hback c hc).1) rfl ?_
  rwa [Cursor.forward_forward]

/-- where the type is not declared `final`, no such word is taken -/
theorem run_final_eq_none {name back : List Char} (hname : ∀ c ∈ name, isDotted c = true)
    (hfinal : name ≠ "final".toList) (hback : ∀ c ∈ back.head?, isDotted c = false) (hc : c.rest = name ++ back) :
    Pattern.run (.lit "final" ++ .blank) k c = none := by
  refine Option.eq_none_iff_forall_ne_some.2 fun b hb => hfinal ?_
  obtain ⟨rest, hrest, hb⟩ := Pattern.of_run_exactly (k := Pattern.run .blank k) hb
  obtain ⟨gap, back', hgap, hne, hblank, -⟩ := Pattern.of_run_some1 hb
  have hword : ∀ c ∈ "final".toList, isDotted c = true := by decide
  have hstop : ∀ c ∈ (gap ++ back').head?, isDotted c = false := by
    obtain ⟨x, xs, rfl⟩ := List.exists_cons_of_ne_nil hne
    exact head_mark (not_dotted_of_isBlank (hblank x List.mem_cons_self)) _
  have hsplit : name ++ back = "final".toList ++ (gap ++ back') := by rw [← hc, hrest, ← hgap]; rfl
  exact (span_unique hsplit hname hback hword hstop).1

/-- blanks and a word are not taken where none follows -/
theorem run_space_eq_none {text : List Char} (h : ¬ WordFollows text) (hc : c.rest = text) :
    Pattern.run .blank (Pattern.run .word k) c = none := by
  refine Option.eq_none_iff_forall_ne_some.2 fun b hb => h ?_
  obtain ⟨gap, rest, hgap, hne, hblank, hb⟩ := Pattern.of_run_some1 hb
  obtain ⟨word, back, hword, hwne, hchars, -⟩ := Pattern.of_run_some1 hb
  obtain ⟨w, ws, rfl⟩ := List.exists_cons_of_ne_nil hwne
  have hrest : rest = w :: ws ++ back := hword
  exact ⟨gap, w, ws ++ back, hne, hblank, hchars w List.mem_cons_self, by rw [← hc, hgap, hrest, List.cons_append]⟩

theorem run_bracketed (k : Cursor → Option β) (c : Cursor) :
    Pattern.run (.lit "<" ++ .span true (Pattern.except "()") ++ .lit ">") k c = Pattern.run (.char (· == '<'))
      (Pattern.run (.span true (Pattern.except "()")) (Pattern.run (.char (· == '>')) k)) c :=
  rfl

/-- **The type is taken whole**: the arguments up to the bracket that closes them. -/
theorem run_payloadType {name arguments back : List Char} (hname : name ≠ [] ∧ ∀ c ∈ name, isDotted c = true)
    (hback : ∀ c ∈ back.head?, isDotted c = false ∧ c ≠ '<')
    (harguments : arguments = [] ∨ ∃ inner, ArgumentList inner ∧ arguments = '<' :: (inner ++ ['>']))
    (hc : c.rest = name ++ (arguments ++ back))
    (h : Pattern.run .blank (Pattern.run .word k)
      { c.forward (name ++ arguments) back with
        groups := (1, c.upTo (c.forward (name ++ arguments) back)) :: c.groups } = some b) :
    Pattern.run (.group 1 payloadType) (Pattern.run .blank (Pattern.run .word k)) c = some b := by
  have hhead : ∀ d ∈ (arguments ++ back).head?, isDotted d = false := by
    rcases harguments with rfl | ⟨inner, -, rfl⟩
    · exact fun d hd => (hback d hd).1
    · exact head_mark (by decide) _
  rw [Pattern.run_group]
  refine Pattern.run_some1 hname.1 hname.2 hhead hc ?_
  rcases harguments with rfl | ⟨inner, hinner, rfl⟩
  · rw [List.append_nil] at h
    rw [Pattern.run_opt_pass]
    · exact h
    · refine Option.eq_none_iff_forall_ne_some.2 fun b' hb' => ?_
      obtain ⟨x, rest, hrest, hx, -⟩ := Pattern.of_run_char hb'
      have hopening : back.head? = some x := congrArg List.head? hrest
      exact (hback x hopening).2 (beq_iff_eq.1 hx)
  · have hsplit : '<' :: (inner ++ ['>']) ++ back = '<' :: (inner ++ '>' :: back) := by simp
    refine Pattern.run_opt_take ?_
    rw [run_bracketed, Pattern.run_char rfl hsplit]
    refine Pattern.run_lazily hinner.chars (fun front rest hfront => ?_) rfl ?_
    · -- the run behind an earlier bracket would take blanks and a word
      refine Option.eq_none_iff_forall_ne_some.2 fun b' hb' => ?_
      have hfollows : ¬ WordFollows (rest ++ '>' :: back) :=
        fun hword => hinner.not_wordFollows hfront (hword.of_append (by decide) (by decide))
      have hspace := Pattern.of_onward hb'
      exact nomatch (run_space_eq_none hfollows rfl).symm.trans hspace
    · rw [Cursor.forward_forward]
      refine (Pattern.onward_forward _ _ (List.cons_ne_nil _ _) _).trans ?_
      rw [Cursor.forward_forward]
      exact h

end

/-! ## The match -/

section

variable {p : BodyParameter} (hp : p.WellFormed)

include hp

theorem head_typeName (back : List Char) : ∀ c ∈ (p.typeName ++ back).head?, isDotted c = true := by
  obtain ⟨x, name, hname⟩ := List.exists_cons_of_ne_nil hp.typeName.1
  rw [hname]
  exact fun c hc => Option.some.inj hc ▸ hp.typeName.2.1 x (hname ▸ List.mem_cons_self)

theorem head_declaration : ∀ c ∈ p.declaration.head?, isDotted c = true := by
  rw [BodyParameter.declaration, BodyParameter.finalText]
  cases p.isFinal with
  | none =>
    rw [BodyParameter.type, List.append_assoc]
    exact head_typeName hp _
  | some gap => exact fun c hc => Option.some.inj hc ▸ by decide

/-- `final` is taken where the type is declared so, and only there -/
theorem run_finalText {β : Type} {k : Cursor → Option β} {c : Cursor} {b : β} (back : List Char)
    (hback : ∀ c ∈ back.head?, isDotted c = false) (hc : c.rest = p.finalText ++ (p.typeName ++ back))
    (h : k (c.forward p.finalText (p.typeName ++ back)) = some b) :
    Pattern.run (.opt (.lit "final" ++ .blank)) k c = some b := by
  rw [BodyParameter.finalText] at hc h
  cases hfinal : p.isFinal with
  | none =>
    rw [hfinal] at hc h
    have hrest : c.rest = p.typeName ++ back := hc
    rw [Pattern.run_opt_pass (run_final_eq_none hp.typeName.2.1 hp.typeName.2.2 hback hrest)]
    rwa [← Cursor.forward_nil hrest]
  | some gap =>
    rw [hfinal] at hc h
    rw [List.append_assoc] at hc
    refine Pattern.run_opt_take ((Pattern.run_exactly (k := Pattern.run .blank _) hc).trans ?_)
    refine run_blank (hp.isFinal gap hfinal) (fun c hc => (solid_of_dotted (head_typeName hp back) c hc).1) rfl ?_
    rw [Cursor.forward_forward]
    exact (Pattern.onward_forward _ _ (List.cons_ne_nil _ _) _).trans h

theorem argumentText_cases :
    p.argumentText = [] ∨ ∃ inner, ArgumentList inner ∧ p.argumentText = '<' :: (inner ++ ['>']) := by
  rw [BodyParameter.argumentText]
  cases harguments : p.typeArguments with
  | none => exact .inl rfl
  | some inner => exact .inr ⟨inner, hp.typeArguments inner harguments, rfl⟩

theorem solid_markers : Solid ((p.markers.map BodyParameter.markerText).flatten ++ p.declaration) := by
  cases p.markers with
  | nil => exact solid_of_dotted (head_declaration hp)
  | cons m ms => exact fun c hc => Option.some.inj hc ▸ by decide

theorem head_space : ∀ c ∈ (p.space ++ (p.name ++ p.after)).head?, isBlank c = true := by
  obtain ⟨x, xs, hx⟩ := List.exists_cons_of_ne_nil hp.space.1
  rw [hx]
  exact fun c hc => Option.some.inj hc ▸ hp.space.2 x (hx ▸ List.mem_cons_self)

/-- **Where the annotation stands, the pattern takes the declared type** if it has no array brackets. -/
theorem matchHere_rest (hdimensions : p.dimensions = 0) (lead : Option Char) :
    requestBody.matchHere lead p.rest = some ⟨p.taken, [(1, p.type)]⟩ := by
  have htype : p.type = p.typeName ++ p.argumentText := by
    rw [BodyParameter.type, hdimensions, List.replicate_zero, List.flatten_nil, List.append_nil]
  have hend := p.mark.endsAt_gap hp.gap.2 (fun _ => hp.gap.1) (solid_markers hp)
  have hspace := head_space hp
  have hrest : p.rest = "@RequestBody".toList ++ (p.mark.argumentText ++
      (p.gap ++ ((p.markers.map BodyParameter.markerText).flatten ++ p.declaration))) := by
    rw [BodyParameter.rest, Mark.text, List.cons_append, List.append_assoc]
    rfl
  have hedge : (true != Pattern.wordAt (p.mark.argumentText ++
      (p.gap ++ ((p.markers.map BodyParameter.markerText).flatten ++ p.declaration))).head?) = true := by
    rw [wordAt_eq_false (Mark.head_argumentText hp.mark hend)]
    rfl
  rw [Pattern.matchHere, run_requestBody, Pattern.lit, Pattern.run_exactly hrest]
  rw [Pattern.wordEdge, Pattern.run_edge hedge]
  refine Mark.run_argumentText hp.mark hp.plain hend rfl ?_
  refine run_blank hp.gap (fun c hc => (solid_markers hp c hc).1) rfl ?_
  refine Pattern.run_star Solid (fun piece hpiece => ?_)
    (solid_of_dotted (head_declaration hp)) (fun k c hc => ?_) rfl ?_
  · obtain ⟨m, hm, rfl⟩ := List.mem_map.1 hpiece
    refine ⟨List.cons_ne_nil _ _, fun back c hc => Option.some.inj hc ▸ by decide, fun k c back hback hc h => ?_⟩
    exact run_marker (hp.markers m hm) hback hc h
  · refine run_annotationUse_other (k := Pattern.run .blank k) fun x hx => ?_
    rw [hc] at hx
    rintro rfl
    exact absurd (head_declaration hp _ hx) (by decide)
  refine run_finalText hp (p.argumentText ++ (p.space ++ (p.name ++ p.after))) ?_ ?_ ?_
  · rcases argumentText_cases hp with hnone | ⟨inner, -, harguments⟩
    · rw [hnone]
      exact fun c hc => not_dotted_of_isBlank (hspace c hc)
    · rw [harguments]
      exact head_mark (by decide) _
  · rw [← List.append_assoc p.typeName, ← htype]
    rfl
  refine run_payloadType ⟨hp.typeName.1, hp.typeName.2.1⟩ (fun c hc => ?_) (argumentText_cases hp) rfl ?_
  · have hblank := hspace c hc
    refine ⟨not_dotted_of_isBlank hblank, ?_⟩
    rintro rfl
    exact absurd hblank (by decide)
  refine run_blank hp.space (hp.name.head p.after) rfl ?_
  refine Pattern.run_some1 hp.name.nonempty hp.name.chars hp.after rfl ?_
  rw [← htype]
  rw [Option.some.injEq, Match.mk.injEq]
  refine ⟨?_, congrArg (fun type => [(1, type)]) (Cursor.text_upTo_forward _ _ _)⟩
  refine Eq.trans ?_ (Taken.text_pushAll p.taken)
  simp only [Cursor.forward_taken, Taken.pushAll_append]
  refine congrArg (fun front => (Taken.pushAll ⟨0, []⟩ front).text) ?_
  rw [BodyParameter.taken, Mark.text]
  simp only [List.append_assoc]
  rfl

end

/-! ## No other match -/

/-- where the annotation does not stand, there is no match -/
theorem matchAt_eq_none {text : List Char} {place : Nat} (h : marksBody text place = false) :
    requestBody.matchAt text place = none := by
  refine Option.eq_none_iff_forall_ne_some.2 fun m hm => Bool.eq_false_iff.1 h ?_
  rw [Pattern.matchAt, Pattern.matchHere, run_requestBody] at hm
  obtain ⟨rest, hrest, hm⟩ := Pattern.of_run_exactly (k := Pattern.run .wordEdge _) hm
  obtain ⟨hedge, -⟩ := Pattern.exists_of_run_edge hm
  have hbehind : (true != Pattern.wordAt rest.head?) = true := hedge
  have hsplit : afterStart "@RequestBody".toList (text.drop place) = some rest := afterStart_eq_some_iff.2 hrest
  rw [marksBody, hsplit]
  exact (Bool.true_bne _).symm.trans hbehind

/-- a type that the pattern takes ends with a character of a name or with the bracket of type arguments -/
theorem exists_of_run_payloadType {β : Type} {k : Cursor → Option β} {c : Cursor} {b : β}
    (h : Pattern.run payloadType k c = some b) :
    ∃ front x rest, x ≠ ']' ∧ k (c.forward (front ++ [x]) rest) = some b := by
  obtain ⟨name, rest, -, hne, hname, h⟩ := Pattern.of_run_some1 (k := Pattern.run (.opt _) k) h
  rcases Pattern.exists_of_run_opt h with harguments | ⟨-, h⟩
  · rw [run_bracketed] at harguments
    obtain ⟨opening, rest, -, -, harguments⟩ := Pattern.of_run_char harguments
    obtain ⟨inner, rest, -, -, harguments⟩ := Pattern.of_run_span harguments
    obtain ⟨closing, rest, -, hclosing, harguments⟩ := Pattern.of_run_char harguments
    have h := Pattern.of_onward harguments
    rw [Cursor.forward_forward, Cursor.forward_forward, Cursor.forward_forward, ← List.append_assoc,
      ← List.append_assoc] at h
    refine ⟨_, closing, rest, ?_, h⟩
    rw [beq_iff_eq.1 hclosing]
    decide
  · refine ⟨name.dropLast, name.getLast hne, rest, fun hlast => ?_, ?_⟩
    · exact absurd (hlast ▸ hname _ (List.getLast_mem hne)) (by decide)
    · rwa [List.dropLast_concat_getLast]

theorem payload_ends {text : List Char} {lead : Option Char} {m : Match}
    (h : requestBody.matchHere lead text = some m) :
    ∃ front x, m.group 1 = String.ofList (front ++ [x]) ∧ x ≠ ']' := by
  obtain ⟨c, -, hm⟩ := Pattern.exists_of_run (k := Pattern.run (.group 1 payloadType) _) h
  rw [Pattern.run_group] at hm
  obtain ⟨front, x, rest, hx, hm⟩ := exists_of_run_payloadType hm
  obtain ⟨gap, rest', -, -, -, hm⟩ := Pattern.of_run_some1 hm
  obtain ⟨word, rest', -, -, -, hm⟩ := Pattern.of_run_some1 hm
  refine ⟨front, x, ?_, hx⟩
  rw [← Option.some.inj hm]
  exact congrArg String.ofList (Cursor.text_upTo_forward _ _ _)

/-! ## The payload of an operation -/

theorem requestType_eq_some_iff {sources : Sources} {m : Source.Method} {type : String} :
    (describe sources m).requestType = some type ↔ ∃ place ≤ m.params.toList.length, ∃ found,
      requestBody.matchAt m.params.toList place = some found ∧ found.group 1 = type ∧
        ∀ earlier < place, requestBody.matchAt m.params.toList earlier = none := by
  rw [describe, Option.map_eq_some_iff, Pattern.find?_eq]
  simp only [Pattern.findSome?_range, Nat.lt_succ_iff]
  constructor
  · rintro ⟨found, ⟨place, hplace, hfound, hearlier⟩, htype⟩
    exact ⟨place, hplace, found, hfound, htype, hearlier⟩
  · rintro ⟨place, hplace, found, hfound, htype, hearlier⟩
    exact ⟨found, ⟨place, hplace, hfound, hearlier⟩, htype⟩

theorem getLast?_type {p : BodyParameter} (h : p.dimensions ≠ 0) : p.type.getLast? = some ']' := by
  obtain ⟨n, hn⟩ := Nat.exists_eq_succ_of_ne_zero h
  have hbrackets : (List.replicate p.dimensions "[]".toList).flatten =
      (List.replicate n "[]".toList).flatten ++ ['['] ++ [']'] := by
    rw [hn, List.replicate_succ', List.flatten_append]
    simp
  rw [BodyParameter.type, hbrackets, ← List.append_assoc, ← List.append_assoc, List.getLast?_concat]

/-- **The payload is the declared type as it is written**, with all its type arguments, exactly if it has no array
brackets; and where no parameter is annotated there is neither a payload nor a field of one. -/
theorem requestType_declared (sources : Sources) (m : Source.Method) :
    (∀ p : BodyParameter, p.WellFormed → m.params = String.ofList p.text →
      ((describe sources m).requestType = some (String.ofList p.type) ↔ p.dimensions = 0)) ∧
    ((∀ place, marksBody m.params.toList place = false) →
      (describe sources m).requestType = none ∧ (describe sources m).requestFields = []) := by
  refine ⟨fun p hp hparams => ?_, fun hnone => ?_⟩
  · have htext : m.params.toList = p.text := by rw [hparams, String.toList_ofList]
    rw [requestType_eq_some_iff, htext]
    constructor
    · rintro ⟨place, -, found, hfound, htype, -⟩
      obtain ⟨front, x, hgroup, hx⟩ := payload_ends hfound
      have hlast : p.type.getLast? = some x := by
        rw [← String.ofList_injective (hgroup.symm.trans htype), List.getLast?_concat]
      refine Decidable.byContradiction fun hdimensions => hx ?_
      exact Option.some.inj (hlast.symm.trans (getLast?_type hdimensions))
    · intro hdimensions
      refine ⟨p.before.length, by simp [BodyParameter.text], ⟨p.taken, [(1, p.type)]⟩, ?_, ?_, fun place hplace => ?_⟩
      · rw [BodyParameter.text, Pattern.matchAt_length, matchHere_rest hp hdimensions]
      · rfl
      · exact matchAt_eq_none (hp.first place hplace)
  · have hfind : requestBody.find? m.params = none := by
      rw [Pattern.find?_eq]
      exact List.findSome?_eq_none_iff.2 fun place _ => matchAt_eq_none (hnone place)
    rw [describe, hfind]
    exact ⟨rfl, rfl⟩

/-- no file declares a type -/
def noSources : Sources := ⟨fun _ => .ok "", fun _ => none⟩

/-- a body with arguments of the annotation, a marker, `final` and nested type arguments, between two parameters -/
def orderBody : BodyParameter where
  before := "@PathVariable String id, ".toList
  arguments := some ([], "required = false".toList)
  gap := [' ']
  markers := [("Valid".toList, [' '])]
  isFinal := some [' ']
  typeName := "java.util.Map".toList
  typeArguments := some "String, List<Order[]>".toList
  dimensions := 0
  space := [' ']
  name := "orders".toList
  after := ", Page<Integer> page".toList

theorem orderBody_wellFormed : orderBody.WellFormed where
  mark := ⟨by decide, by decide⟩
  plain := by
    rintro x ⟨⟩
    decide
  gap := by decide
  markers := by decide
  isFinal := by decide
  typeName := by decide
  typeArguments := by
    rintro inner ⟨⟩
    have hinner : ArgumentList ("Order[]".toList ++ []) := .plain_append _ (by decide) .nil
    exact .plain_append "String, List".toList (by decide)
      (.nested hinner .nil (not_wordFollows_of_head (by decide)))
  space := by decide
  name := by decide
  after := by decide
  first := by decide

theorem requestType_declared_orders :
    orderBody.WellFormed ∧ orderBody.type = "java.util.Map<String, List<Order[]>>".toList ∧
    (describe noSources ⟨"save", "public void", String.ofList orderBody.text, none⟩).requestType =
      some (String.ofList orderBody.type) ∧
    (describe noSources ⟨"all", "public void", "@RequestParam int page", none⟩).requestType = none := by
  refine ⟨orderBody_wellFormed, by decide, ?_, ?_⟩
  · have hdeclared := requestType_declared noSources ⟨"save", "public void", String.ofList orderBody.text, none⟩
    exact (hdeclared.1 orderBody orderBody_wellFormed rfl).2 rfl
  · exact ((requestType_declared _ _).2 (marksBody_eq_false (by decide))).1

/-- The pattern has no array brackets: it does not find a parameter whose type is an array. -/
theorem requestType_array :
    (describe noSources ⟨"save", "public void", "@RequestBody Order[] orders", none⟩).requestType = none := by
  decide +kernel

end CodeSurvey.Endpoint
