/-
What a parameter list declares.

`Parameter` is one parameter: markers and `final`, a type with type arguments, and a name. `ParameterList` is a list of
them. The commas between type arguments do not part parameters: without the annotations the list is nested, the type
arguments are removed before it is cut (`dropTypeArguments_nested`), and what is left has a comma between parameters
only. Of the words of a part the last two are the raw type and the name. Main statement: `ParameterList.parameters_eq`.
-/
import CodeSurvey.Proofs.Trace.Annotations
import CodeSurvey.Proofs.Trace.TypeArguments

namespace CodeSurvey.Injection

open Text
open Tracer (head_mark isBlank_of_isWord)

/-! ## Parameters -/

/-- a marker or `final` before a type, with the blanks behind it -/
inductive Modifier where
  | marker (name gap : List Char)
  | final (gap : List Char)

namespace Modifier

def text : Modifier → List Char
  | marker name gap => Mark.text ⟨name, none⟩ ++ gap
  | final gap => "final".toList ++ gap

/-- the text without the marker -/
def bare : Modifier → List Char
  | marker _ gap => gap
  | final gap => "final".toList ++ gap

inductive WellFormed : Modifier → Prop
  | marker {name gap : List Char} (hname : IsIdentifier name) (hne : gap ≠ []) (hgap : Blank gap) :
    WellFormed (marker name gap)
  | final {gap : List Char} (hne : gap ≠ []) (hgap : Blank gap) : WellFormed (final gap)

theorem text_marker (name gap : List Char) : text (marker name gap) = Mark.text ⟨name, none⟩ ++ gap := rfl

theorem bare_marker (name gap : List Char) : bare (marker name gap) = gap := rfl

theorem bare_final (gap : List Char) : bare (final gap) = "final".toList ++ gap := rfl

end Modifier

/-- one parameter of a list -/
structure Parameter where
  lead : List Char
  modifiers : List Modifier
  /-- the type as it is written -/
  type : List Char
  /-- the type without its type arguments -/
  raw : List Char
  space : List Char
  name : List Char
  last : List Char

namespace Parameter

/-- the name and the blanks around it -/
def named (p : Parameter) : List Char := p.space ++ (p.name ++ p.last)

def text (p : Parameter) : List Char := p.lead ++ (p.modifiers.flatMap Modifier.text ++ (p.type ++ p.named))

/-- the text without markers -/
def bare (p : Parameter) : List Char := p.lead ++ (p.modifiers.flatMap Modifier.bare ++ (p.type ++ p.named))

/-- the text without markers and type arguments -/
def plain (p : Parameter) : List Char := p.lead ++ (p.modifiers.flatMap Modifier.bare ++ (p.raw ++ p.named))

/-- the name and the raw type -/
def pair (p : Parameter) : String × String := (String.ofList p.name, String.ofList p.raw)

structure WellFormed (p : Parameter) : Prop where
  lead : Blank p.lead
  modifiers : ∀ m ∈ p.modifiers, m.WellFormed
  nested : Nested p.type p.raw
  /-- neither annotations nor parentheses stand in the type -/
  type : ∀ c ∈ p.type, c ≠ '@' ∧ c ≠ '(' ∧ c ≠ ')'
  raw : p.raw ≠ [] ∧ (∀ c ∈ p.raw, isBlank c = false ∧ c ≠ ',') ∧ p.raw ≠ "final".toList
  space : p.space ≠ [] ∧ Blank p.space
  name : IsIdentifier p.name ∧ p.name ≠ "final".toList
  last : Blank p.last

end Parameter

/-- the text of a parameter list, and the name and raw type of each parameter -/
inductive ParameterList : List Char → List (String × String) → Prop
  | empty {gap : List Char} (hgap : Blank gap) : ParameterList gap []
  | last {p : Parameter} (hp : p.WellFormed) : ParameterList p.text [p.pair]
  | cons {p : Parameter} {list : List Char} {pairs : List (String × String)} (hp : p.WellFormed)
    (h : ParameterList list pairs) : ParameterList (p.text ++ ',' :: list) (p.pair :: pairs)

/-! ## Without annotations -/

theorem Modifier.WellFormed.solid {m : Modifier} (h : m.WellFormed) (rest : List Char) : Solid (m.text ++ rest) := by
  cases h with
  | marker => exact fun c hc => Option.some.inj hc ▸ by decide
  | final => exact fun c hc => Option.some.inj hc ▸ by decide

theorem annotationsReplaced_modifiers {modifiers : List Modifier} (hmodifiers : ∀ m ∈ modifiers, m.WellFormed)
    {rest : List Char} (hrest : Solid rest) :
    annotationsReplaced [] (modifiers.flatMap Modifier.text ++ rest) =
      modifiers.flatMap Modifier.bare ++ annotationsReplaced [] rest := by
  refine annotationsReplaced_flatMap (fun m hm => ⟨(hmodifiers m hm).solid, fun back hback => ?_⟩) hrest
  cases hmodifiers m hm with
  | marker hname hne hgap =>
    exact annotationsReplaced_gap [] (Mark.wellFormed_marker hname) (Mark.plain_marker _) hgap (fun _ => hne) hback
  | final hne hgap =>
    exact annotationsReplaced_append [] (List.forall_mem_append.2 ⟨by decide, not_at_of_blank hgap⟩) back

theorem Nested.solid {type raw : List Char} (h : Nested type raw) (hne : raw ≠ []) (hraw : ∀ c ∈ raw, isBlank c = false)
    (htype : ∀ c ∈ type, c ≠ '(') (back : List Char) : Solid (type ++ back) := by
  cases h with
  | nil => exact absurd rfl hne
  | char hc h =>
    intro d hd
    obtain rfl := Option.some.inj hd
    exact ⟨hraw _ List.mem_cons_self, htype _ List.mem_cons_self⟩
  | arguments => exact fun c hc => Option.some.inj hc ▸ by decide

/-- only word characters and blanks -/
def WordsOnly (text : List Char) : Prop := ∀ c ∈ text, isWord c = true ∨ isBlank c = true

theorem WordsOnly.of_blank {gap : List Char} (h : Blank gap) : WordsOnly gap := fun c hc => .inr (h c hc)

theorem WordsOnly.of_word {text : List Char} (h : ∀ c ∈ text, isWord c = true) : WordsOnly text :=
  fun c hc => .inl (h c hc)

theorem WordsOnly.append {text text' : List Char} (h : WordsOnly text) (h' : WordsOnly text') :
    WordsOnly (text ++ text') :=
  List.forall_mem_append.2 ⟨h, h'⟩

theorem WordsOnly.ne {text : List Char} (h : WordsOnly text) (mark : Char) (hword : isWord mark = false)
    (hblank : isBlank mark = false) : ∀ c ∈ text, c ≠ mark := by
  rintro c hc rfl
  rcases h c hc with hc | hc
  · exact Bool.false_ne_true (hword.symm.trans hc)
  · exact Bool.false_ne_true (hblank.symm.trans hc)

theorem WordsOnly.parentheses {text : List Char} (h : WordsOnly text) : ∀ c ∈ text, c ≠ '(' ∧ c ≠ ')' :=
  fun c hc => ⟨h.ne '(' (by decide) (by decide) c hc, h.ne ')' (by decide) (by decide) c hc⟩

theorem WordsOnly.nested {text : List Char} (h : WordsOnly text) : Nested text text := by
  refine .of_bare fun c hc => ?_
  have hopening := h.ne '<' (by decide) (by decide) c hc
  have hclosing := h.ne '>' (by decide) (by decide) c hc
  simp [isBracket, hopening, hclosing]

theorem wordsOnly_modifiers {modifiers : List Modifier} (h : ∀ m ∈ modifiers, m.WellFormed) :
    WordsOnly (modifiers.flatMap Modifier.bare) := by
  intro c hc
  obtain ⟨m, hm, hc⟩ := List.mem_flatMap.1 hc
  cases h m hm with
  | marker _ _ hgap => exact .inr (hgap c hc)
  | final _ hgap =>
    have hfinal : WordsOnly "final".toList := .of_word (by decide)
    exact (hfinal.append (.of_blank hgap)) c hc

theorem parentheses_modifiers {modifiers : List Modifier} (h : ∀ m ∈ modifiers, m.WellFormed) :
    ∀ c ∈ modifiers.flatMap Modifier.text, c ≠ '(' ∧ c ≠ ')' := by
  intro c hc
  obtain ⟨m, hm, hc⟩ := List.mem_flatMap.1 hc
  have hfinal : ∀ c ∈ "final".toList, c ≠ '(' ∧ c ≠ ')' := by decide
  cases h m hm with
  | marker hname _ hgap =>
    rw [Modifier.text_marker, Mark.text_marker] at hc
    exact List.forall_mem_append.2 ⟨List.forall_mem_cons.2 ⟨by decide, (WordsOnly.of_word hname.chars).parentheses⟩,
      (WordsOnly.of_blank hgap).parentheses⟩ c hc
  | final _ hgap => exact List.forall_mem_append.2 ⟨hfinal, (WordsOnly.of_blank hgap).parentheses⟩ c hc

/-- `final` does not count among the words -/
def typeWords (text : List Char) : List (List Char) := (words text).filter (· != "final".toList)

theorem typeWords_modifiers {modifiers : List Modifier} (h : ∀ m ∈ modifiers, m.WellFormed) (rest : List Char) :
    typeWords (modifiers.flatMap Modifier.bare ++ rest) = typeWords rest := by
  induction modifiers with
  | nil => rfl
  | cons m modifiers ih =>
    obtain ⟨hm, hothers⟩ := List.forall_mem_cons.1 h
    rw [← ih hothers, List.flatMap_cons, List.append_assoc]
    generalize modifiers.flatMap Modifier.bare ++ rest = back
    cases hm with
    | marker _ _ hgap => rw [typeWords, Modifier.bare_marker, words_gap hgap, typeWords]
    | @final gap hne hgap =>
      have hbehind : ∀ c ∈ (gap ++ back).head?, isBlank c = true := by
        obtain ⟨b, gap, rfl⟩ := List.exists_cons_of_ne_nil hne
        exact fun c hc => Option.some.inj hc ▸ hgap b List.mem_cons_self
      rw [typeWords, Modifier.bare_final, List.append_assoc, words_word (by decide) (by decide) hbehind, words_gap hgap,
        List.filter_cons_of_neg (by decide), typeWords]

section

variable {p : Parameter} (hp : p.WellFormed)

include hp

theorem annotationsReplaced_parameter (back : List Char) :
    annotationsReplaced [] (p.text ++ back) = p.bare ++ annotationsReplaced [] back := by
  have hsolid := hp.nested.solid hp.raw.1 (fun c hc => (hp.raw.2.1 c hc).1) (fun c hc => (hp.type c hc).2.1)
    (p.named ++ back)
  have htyped : ∀ c ∈ p.type ++ p.named, c ≠ '@' := by
    rw [Parameter.named]
    simp only [List.forall_mem_append]
    exact ⟨fun c hc => (hp.type c hc).1, not_at_of_blank hp.space.2, not_at_of_isWord hp.name.1.chars,
      not_at_of_blank hp.last⟩
  rw [Parameter.text, Parameter.bare]
  simp only [List.append_assoc]
  rw [annotationsReplaced_append [] (not_at_of_blank hp.lead), annotationsReplaced_modifiers hp.modifiers hsolid,
    ← List.append_assoc p.type, annotationsReplaced_append [] htyped, List.append_assoc]

theorem wordsOnly_named : WordsOnly p.named :=
  (WordsOnly.of_blank hp.space.2).append (.append (.of_word hp.name.1.chars) (.of_blank hp.last))

/-- without its type arguments the text of a parameter is plain -/
theorem nested_parameter : Nested p.bare p.plain :=
  (WordsOnly.of_blank hp.lead).nested.append ((wordsOnly_modifiers hp.modifiers).nested.append
    (hp.nested.append (wordsOnly_named hp).nested))

theorem comma_not_mem_plain : ∀ c ∈ p.plain, c ≠ ',' := by
  rw [Parameter.plain]
  simp only [List.forall_mem_append]
  exact ⟨(WordsOnly.of_blank hp.lead).ne ',' (by decide) (by decide),
    (wordsOnly_modifiers hp.modifiers).ne ',' (by decide) (by decide), fun c hc => (hp.raw.2.1 c hc).2,
    (wordsOnly_named hp).ne ',' (by decide) (by decide)⟩

theorem parentheses_parameter : ∀ c ∈ p.text, c ≠ '(' ∧ c ≠ ')' := by
  rw [Parameter.text]
  simp only [List.forall_mem_append]
  exact ⟨(WordsOnly.of_blank hp.lead).parentheses, parentheses_modifiers hp.modifiers, fun c hc => (hp.type c hc).2,
    (wordsOnly_named hp).parentheses⟩

theorem typeWords_plain : typeWords p.plain = [p.raw, p.name] := by
  have hspace : ∀ c ∈ p.named.head?, isBlank c = true := by
    obtain ⟨b, gap, hgap⟩ := List.exists_cons_of_ne_nil hp.space.1
    rw [Parameter.named, hgap]
    exact fun c hc => Option.some.inj hc ▸ hp.space.2 b (hgap ▸ List.mem_cons_self)
  have hlast : ∀ c ∈ p.last.head?, isBlank c = true := fun c hc => hp.last c (List.mem_of_head? hc)
  have hname : ∀ c ∈ p.name, isBlank c = false := fun c hc => isBlank_of_isWord (hp.name.1.chars c hc)
  have hblank : words p.last = [] := by
    rw [← List.append_nil p.last, words_gap hp.last]
    rfl
  rw [Parameter.plain, typeWords, words_gap hp.lead, ← typeWords, typeWords_modifiers hp.modifiers, typeWords,
    words_word hp.raw.1 (fun c hc => (hp.raw.2.1 c hc).1) hspace, Parameter.named, words_gap hp.space.2,
    words_word hp.name.1.nonempty hname hlast, hblank]
  refine List.filter_eq_self.2 (List.forall_mem_cons.2 ⟨bne_iff_ne.2 hp.raw.2.2, ?_⟩)
  exact List.forall_mem_singleton.2 (bne_iff_ne.2 hp.name.2)

/-- **Of a parameter the raw type and the name are read.** -/
theorem parameter?_plain : parameter? p.plain = some p.pair := by
  have hwords : ((words p.plain).filter (· != "final".toList)).reverse = [p.name, p.raw] := by
    rw [← typeWords, typeWords_plain hp]
    rfl
  rw [parameter?, hwords]
  rfl

end

/-! ## Lists of parameters -/

/-- the parameters of a list are read off the text without its annotations -/
theorem parameters_ofList (list : List Char) : parameters (String.ofList list) =
    (splitBy (· == ',') (dropTypeArguments (annotationsReplaced [] list).length
      (String.ofList (annotationsReplaced [] list))).toList).filterMap parameter? := by
  have hreplaced : annotationUse.replaceAll (fun _ => "") (String.ofList list) =
      String.ofList (annotationsReplaced [] list) := by
    simp only [Pattern.replaceAll_eq, String.toList_ofList]
    rfl
  rw [parameters, hreplaced, String.length_ofList]

namespace ParameterList

variable {list : List Char} {pairs : List (String × String)}

/-- **Without annotations a parameter list is nested**, and cutting what stands outside of the type arguments at the
commas gives its parameters. -/
theorem exists_plain (h : ParameterList list pairs) :
    ∃ plain, Nested (annotationsReplaced [] list) plain ∧
      (splitBy (· == ',') plain).filterMap parameter? = pairs := by
  induction h with
  | @empty gap hgap =>
    have hreplaced := annotationsReplaced_append [] (not_at_of_blank hgap) []
    rw [annotationsReplaced_nil, List.append_nil] at hreplaced
    have hwords : words gap = [] := by
      rw [← List.append_nil gap, words_gap hgap]
      rfl
    have hnone : parameter? gap = none := by rw [parameter?, hwords]; rfl
    refine ⟨gap, by rw [hreplaced]; exact (WordsOnly.of_blank hgap).nested, ?_⟩
    rw [splitBy_of_none, List.filterMap_cons_none hnone, List.filterMap_nil]
    exact fun c hc => beq_eq_false_iff_ne.2 ((WordsOnly.of_blank hgap).ne ',' (by decide) (by decide) c hc)
  | @last p hp =>
    have hreplaced := annotationsReplaced_parameter hp []
    rw [annotationsReplaced_nil, List.append_nil, List.append_nil] at hreplaced
    refine ⟨p.plain, hreplaced ▸ nested_parameter hp, ?_⟩
    rw [splitBy_of_none fun c hc => beq_eq_false_iff_ne.2 (comma_not_mem_plain hp c hc),
      List.filterMap_cons_some (parameter?_plain hp), List.filterMap_nil]
  | @cons p list pairs hp _ ih =>
    obtain ⟨plain, hnested, hpairs⟩ := ih
    have hcomma : splitBy (· == ',') (p.plain ++ ',' :: plain) =
        splitBy (· == ',') p.plain ++ splitBy (· == ',') plain := splitBy_append (by decide) _ _
    refine ⟨p.plain ++ ',' :: plain, ?_, ?_⟩
    · rw [annotationsReplaced_parameter hp, annotationsReplaced_other [] (by decide)]
      exact (nested_parameter hp).append (.char (by decide) hnested)
    · rw [hcomma, List.filterMap_append, hpairs,
        splitBy_of_none fun c hc => beq_eq_false_iff_ne.2 (comma_not_mem_plain hp c hc),
        List.filterMap_cons_some (parameter?_plain hp), List.filterMap_nil, List.singleton_append]

/-- no parenthesis stands in a parameter list -/
theorem parentheses (h : ParameterList list pairs) : ∀ c ∈ list, c ≠ '(' ∧ c ≠ ')' := by
  induction h with
  | empty hgap => exact (WordsOnly.of_blank hgap).parentheses
  | last hp => exact parentheses_parameter hp
  | cons hp _ ih =>
    exact List.forall_mem_append.2 ⟨parentheses_parameter hp, List.forall_mem_cons.2 ⟨by decide, ih⟩⟩

/-- **The parameters of a list are read**, each with its raw type. -/
theorem parameters_eq (h : ParameterList list pairs) : parameters (String.ofList list) = pairs := by
  obtain ⟨plain, hnested, hpairs⟩ := h.exists_plain
  rw [parameters_ofList, dropTypeArguments_nested hnested (Nat.le_refl _), String.toList_ofList, hpairs]

end ParameterList

end CodeSurvey.Injection
