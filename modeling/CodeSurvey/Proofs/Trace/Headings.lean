/-
Headings that list the interfaces of a class, and the names that are read off them.

A list of types is a tree, a name with a list of its own between brackets (`TypeList`). The tracer cuts the text of such
a list into tokens wherever a character stands that no token has, brackets among them. So it reads the names of all
types at any depth, those between brackets as well as the others (`mem_readNames_texts`, by induction on the tree), and
no words of the text before the list or behind the brace that ends it.

Main statement: a heading declares an interface exactly when its list names it at some depth, which is what the class
implements just when no type argument names an interface that the class does not implement
(`declaresImplements_iff`).
-/
import CodeSurvey.Proofs.Text.Cutting
import CodeSurvey.Proofs.Trace.Implements

namespace CodeSurvey.Tracer

open Text

/-! ## Reading names -/

/-- a character of a token -/
def isTokenPart (c : Char) : Bool := isAlphanumeric c || c == '_' || c == '.'

/-- the names that are read off a text: of each token what stands behind its last point -/
def readNames (cs : List Char) : List String :=
  (splitBy (fun c => !isTokenPart c) cs).map fun token => afterLast (String.ofList token) '.'

/-- characters between tokens -/
def Separates (cs : List Char) : Prop := ∀ c ∈ cs, isTokenPart c = false

theorem namesIn_iff {interface : String} {cs : List Char} (h : '\x7b' ∉ cs) :
    namesIn interface cs = true ↔ interface ∈ readNames cs := by
  have hall : cs.takeWhile (· != '\x7b') = cs := by
    apply List.takeWhile_eq_self_iff.2
    intro c hc
    simp only [bne_iff_ne]
    rintro rfl
    exact h hc
  rw [namesIn, hall, readNames, List.any_eq_true]
  simp [isTokenPart]

theorem readNames_append {c : Char} (h : isTokenPart c = false) (as bs : List Char) :
    readNames (as ++ c :: bs) = readNames as ++ readNames bs := by
  rw [readNames, splitBy_append (by simp [h]), List.map_append]
  rfl

theorem readNames_nil : readNames [] = [""] := by decide

/-- the words of wildcards are tokens of their own -/
def boundWords : List String := ["extends", "super"]

/-- a name that an interface may have: not empty, and no word of a wildcard -/
def IsInterfaceName (name : String) : Prop := name ≠ "" ∧ name ∉ boundWords

instance (name : String) : Decidable (IsInterfaceName name) := instDecidableAnd

variable {interface : String}

theorem not_mem_readNames_separators (hname : interface ≠ "") {cs : List Char} (h : Separates cs) :
    interface ∉ readNames cs := by
  induction cs with
  | nil => simpa [readNames_nil] using hname
  | cons c cs ih =>
    obtain ⟨hc, hcs⟩ := List.forall_mem_cons.1 h
    have hcut : readNames (c :: cs) = readNames [] ++ readNames cs := readNames_append hc [] cs
    rw [hcut, List.mem_append, readNames_nil]
    simp [hname, ih hcs]

theorem mem_readNames_behind (hname : interface ≠ "") {gap : List Char} (h : Separates gap) (cs : List Char) :
    interface ∈ readNames (gap ++ cs) ↔ interface ∈ readNames cs := by
  induction gap with
  | nil => rfl
  | cons c gap ih =>
    obtain ⟨hc, hgap⟩ := List.forall_mem_cons.1 h
    have hcut : readNames (c :: (gap ++ cs)) = readNames [] ++ readNames (gap ++ cs) := readNames_append hc [] _
    rw [List.cons_append, hcut, List.mem_append, readNames_nil, ih hgap]
    simp [hname]

theorem mem_readNames_before (hname : interface ≠ "") {gap : List Char} (h : Separates gap) (cs : List Char) :
    interface ∈ readNames (cs ++ gap) ↔ interface ∈ readNames cs := by
  cases gap with
  | nil => rw [List.append_nil]
  | cons c gap =>
    obtain ⟨hc, hgap⟩ := List.forall_mem_cons.1 h
    rw [readNames_append hc, List.mem_append]
    simp [not_mem_readNames_separators hname hgap]

/-- the items of a list are read one by one -/
theorem mem_readNames_items (hname : interface ≠ "") (items : List (List Char)) :
    interface ∈ readNames ([','].intercalate items) ↔ ∃ item ∈ items, interface ∈ readNames item := by
  induction items with
  | nil =>
    have hempty : [','].intercalate ([] : List (List Char)) = [] := rfl
    rw [hempty, readNames_nil]
    simp [hname]
  | cons item items ih =>
    cases items with
    | nil => simp [List.intercalate_singleton]
    | cons next items =>
      rw [List.intercalate_cons_cons, List.append_assoc, List.singleton_append, readNames_append (by decide),
        List.mem_append, ih]
      simp

/-! ## Lists of types -/

/-- a name with the names before it that qualify it -/
structure QualifiedName where
  qualifiers : List String
  simple : String

namespace QualifiedName

def parts (n : QualifiedName) : List String := n.qualifiers ++ [n.simple]

def text (n : QualifiedName) : List Char := (joined "." n.parts).toList

/-- a character that may stand in a part of a name: no blank, and no sign of a list of types -/
def isNamePart (c : Char) : Bool := !isBlank c && !".,<>?[]\x7b\x7d".toList.contains c

def WellFormed (n : QualifiedName) : Prop := ∀ part ∈ n.parts, part ≠ "" ∧ ∀ c ∈ part.toList, isNamePart c = true

/-- of letters, digits and underscores only -/
def Plain (n : QualifiedName) : Prop := ∀ part ∈ n.parts, ∀ c ∈ part.toList, (isAlphanumeric c || c == '_') = true

end QualifiedName

/-- what stands before a name in a list of types: nothing, or a wildcard that the name bounds, with its word -/
inductive Lead where
  | nothing
  | bounded (gap : List Char) (word : String)

def Lead.text : Lead → List Char
  | nothing => []
  | bounded gap word => '?' :: (gap ++ (word.toList ++ [' ']))

/-- a list between brackets, which are left out where there is none -/
def enclosed (items : List (List Char)) : List Char :=
  if items = [] then [] else '<' :: ([','].intercalate items ++ ['>'])

/-- Types, one after another. A name may have a list of its own, its type arguments, and what stands behind these; a
wildcard may stand for itself. -/
inductive TypeList where
  | nil
  | wildcard (before after : List Char) (more : TypeList)
  | named (before : List Char) (lead : Lead) (name : QualifiedName) (between : List Char) (arguments : TypeList)
    (after : List Char) (more : TypeList)

namespace TypeList

/-- the types as they are written -/
def texts : TypeList → List (List Char)
  | nil => []
  | wildcard before after more => (before ++ '?' :: after) :: more.texts
  | named before lead name between arguments after more =>
    (before ++ (lead.text ++ (name.text ++ (between ++ (enclosed arguments.texts ++ after))))) :: more.texts

def text (t : TypeList) : List Char := [','].intercalate t.texts

/-- the names of the types themselves -/
def heads : TypeList → List QualifiedName
  | nil => []
  | wildcard _ _ more => more.heads
  | named _ _ name _ _ _ more => name :: more.heads

/-- all names, those of type arguments at any depth included -/
def names : TypeList → List QualifiedName
  | nil => []
  | wildcard _ _ more => more.names
  | named _ _ name _ arguments _ more => name :: (arguments.names ++ more.names)

/-- the names of type arguments, at any depth -/
def inner : TypeList → List QualifiedName
  | nil => []
  | wildcard _ _ more => more.inner
  | named _ _ _ _ arguments _ more => arguments.names ++ more.inner

end TypeList

/-- spaces only, the blanks of a normalized text -/
def Spaces (gap : List Char) : Prop := ∀ c ∈ gap, c = ' '

instance (gap : List Char) : Decidable (Spaces gap) := inferInstanceAs (Decidable (∀ c ∈ gap, c = ' '))

/-- spaces, and the brackets of arrays -/
def ArrayMarks (marks : List Char) : Prop := ∀ c ∈ marks, c ∈ [' ', '[', ']']

instance (marks : List Char) : Decidable (ArrayMarks marks) :=
  inferInstanceAs (Decidable (∀ c ∈ marks, c ∈ [' ', '[', ']']))

def Lead.WellFormed : Lead → Prop
  | nothing => True
  | bounded gap word => Spaces gap ∧ word ∈ boundWords

def TypeList.WellFormed : TypeList → Prop
  | nil => True
  | wildcard before after more => Spaces before ∧ Spaces after ∧ more.WellFormed
  | named before lead name between arguments after more =>
    Spaces before ∧ lead.WellFormed ∧ name.WellFormed ∧ Spaces between ∧ arguments.WellFormed ∧ ArrayMarks after ∧
      more.WellFormed

theorem TypeList.mem_names_iff {t : TypeList} {n : QualifiedName} : n ∈ t.names ↔ n ∈ t.heads ∨ n ∈ t.inner := by
  induction t with
  | nil => simp [names, heads, inner]
  | wildcard before after more ih => exact ih
  | named before lead name between arguments after more _ ih =>
    simp only [names, heads, inner, List.mem_cons, List.mem_append, ih]
    tauto

/-! ## The names of a list -/

theorem Spaces.separates {gap : List Char} (h : Spaces gap) : Separates gap := by
  intro c hc
  rw [h c hc]
  decide

theorem ArrayMarks.separates {marks : List Char} (h : ArrayMarks marks) : Separates marks := by
  intro c hc
  have hmark : ∀ d ∈ [' ', '[', ']'], isTokenPart d = false := by decide
  exact hmark c (h c hc)

theorem readNames_boundWord : ∀ word ∈ boundWords, readNames word.toList = [word] := by
  decide

theorem mem_readNames_lead (hname : IsInterfaceName interface) {lead : Lead} (h : lead.WellFormed) (cs : List Char) :
    interface ∈ readNames (lead.text ++ cs) ↔ interface ∈ readNames cs := by
  cases lead with
  | nothing => rfl
  | bounded gap word =>
    obtain ⟨hgap, hword⟩ := h
    have hsplit : (Lead.bounded gap word).text ++ cs = ('?' :: gap) ++ (word.toList ++ ' ' :: cs) := by
      simp [Lead.text]
    have hfront : Separates ('?' :: gap) := List.forall_mem_cons.2 ⟨by decide, hgap.separates⟩
    have hother : interface ≠ word := by
      rintro rfl
      exact hname.2 hword
    rw [hsplit, mem_readNames_behind hname.1 hfront, readNames_append (by decide), readNames_boundWord word hword,
      List.mem_append, List.mem_singleton]
    simp [hother]

theorem mem_readNames_enclosed (hname : interface ≠ "") (items : List (List Char)) (front : List Char)
    {after : List Char} (h : Separates after) :
    interface ∈ readNames (front ++ (enclosed items ++ after)) ↔
      interface ∈ readNames front ∨ ∃ item ∈ items, interface ∈ readNames item := by
  by_cases hitems : items = []
  · rw [enclosed, if_pos hitems, List.nil_append, mem_readNames_before hname h]
    simp [hitems]
  · have hsplit : front ++ (enclosed items ++ after) = front ++ '<' :: ([','].intercalate items ++ '>' :: after) := by
      simp [enclosed, hitems]
    rw [hsplit, readNames_append (by decide), readNames_append (by decide), List.mem_append, List.mem_append,
      mem_readNames_items hname]
    simp [not_mem_readNames_separators hname h]

/-- **The names that are read off a list of types are those of all its types, at any depth.** -/
theorem mem_readNames_texts (hname : IsInterfaceName interface) {t : TypeList} (h : t.WellFormed) :
    (∃ item ∈ t.texts, interface ∈ readNames item) ↔ ∃ n ∈ t.names, interface ∈ readNames n.text := by
  induction t with
  | nil => simp [TypeList.texts, TypeList.names]
  | wildcard before after more ih =>
    obtain ⟨hbefore, hafter, hmore⟩ := h
    have hitem : interface ∉ readNames (before ++ '?' :: after) := by
      rw [mem_readNames_behind hname.1 hbefore.separates]
      exact not_mem_readNames_separators hname.1 (List.forall_mem_cons.2 ⟨by decide, hafter.separates⟩)
    simp [TypeList.texts, TypeList.names, hitem, ih hmore]
  | named before lead name between arguments after more iharguments ih =>
    obtain ⟨hbefore, hlead, -, hbetween, harguments, hafter, hmore⟩ := h
    have hitem : interface ∈ readNames
          (before ++ (lead.text ++ (name.text ++ (between ++ (enclosed arguments.texts ++ after))))) ↔
        interface ∈ readNames name.text ∨ ∃ n ∈ arguments.names, interface ∈ readNames n.text := by
      rw [mem_readNames_behind hname.1 hbefore.separates, mem_readNames_lead hname hlead, ← List.append_assoc,
        mem_readNames_enclosed hname.1 _ _ hafter.separates, mem_readNames_before hname.1 hbetween.separates,
        iharguments harguments]
    simp only [TypeList.texts, TypeList.names, List.exists_mem_cons_iff, List.mem_append, or_and_right, exists_or,
      hitem, ih hmore, or_assoc]

/-- A plain name is read as what stands behind its last point. -/
theorem readNames_plain {n : QualifiedName} (h : n.Plain) : readNames n.text = [n.simple] := by
  have hpoint : ∀ part ∈ n.parts, '.' ∉ part.toList := fun part hpart hmem => absurd (h part hpart '.' hmem) (by decide)
  have hpoint' : ".".toList = ['.'] := by decide
  have htoken : ∀ c ∈ n.text, (!isTokenPart c) = false := by
    intro c hc
    rw [QualifiedName.text, toList_joined hpoint'] at hc
    rcases mem_intercalate hc with hc | ⟨part, hpart, hc⟩
    · obtain rfl := List.mem_singleton.1 hc
      decide
    · obtain ⟨s, hs, rfl⟩ := List.mem_map.1 hpart
      simp [isTokenPart, h s hs c hc]
  have hparts : n.parts ≠ [] := List.append_ne_nil_of_right_ne_nil _ (List.cons_ne_nil _ _)
  rw [readNames, splitBy_of_none htoken, List.map_singleton, QualifiedName.text, String.ofList_toList, afterLast,
    split_joined hpoint' hparts hpoint, QualifiedName.parts, List.getLast?_concat, Option.getD_some]

/-! ## Where a list ends -/

theorem QualifiedName.WellFormed.brace {n : QualifiedName} (h : n.WellFormed) : '\x7b' ∉ n.text := by
  intro hmem
  rw [QualifiedName.text, toList_joined (show ".".toList = ['.'] by decide)] at hmem
  rcases mem_intercalate hmem with hmem | ⟨part, hpart, hmem⟩
  · exact absurd hmem (by decide)
  · obtain ⟨s, hs, rfl⟩ := List.mem_map.1 hpart
    exact absurd ((h s hs).2 _ hmem) (by decide)

theorem Spaces.brace {gap : List Char} (h : Spaces gap) : '\x7b' ∉ gap := fun hmem => absurd (h _ hmem) (by decide)

theorem Lead.WellFormed.brace {lead : Lead} (h : lead.WellFormed) : '\x7b' ∉ lead.text := by
  cases lead with
  | nothing => exact List.not_mem_nil
  | bounded gap word =>
    have hwords : ∀ word ∈ boundWords, '\x7b' ∉ word.toList := by decide
    simp [Lead.text, h.1.brace, hwords word h.2]

theorem brace_intercalate {items : List (List Char)} (h : ∀ item ∈ items, '\x7b' ∉ item) :
    '\x7b' ∉ [','].intercalate items := by
  intro hmem
  rcases mem_intercalate hmem with hmem | ⟨item, hitem, hmem⟩
  · exact absurd hmem (by decide)
  · exact h item hitem hmem

theorem TypeList.WellFormed.brace {t : TypeList} (h : t.WellFormed) : ∀ item ∈ t.texts, '\x7b' ∉ item := by
  induction t with
  | nil => exact fun _ hitem => absurd hitem List.not_mem_nil
  | wildcard before after more ih =>
    obtain ⟨hbefore, hafter, hmore⟩ := h
    refine List.forall_mem_cons.2 ⟨?_, ih hmore⟩
    simp [hbefore.brace, hafter.brace]
  | named before lead name between arguments after more iharguments ih =>
    obtain ⟨hbefore, hlead, hname, hbetween, harguments, hafter, hmore⟩ := h
    refine List.forall_mem_cons.2 ⟨?_, ih hmore⟩
    have hmarks : '\x7b' ∉ after := fun hmem => absurd (hafter _ hmem) (by decide)
    have hitems : '\x7b' ∉ enclosed arguments.texts := by
      unfold enclosed
      split
      · exact List.not_mem_nil
      · simp [brace_intercalate (iharguments harguments)]
    simp [hbefore.brace, hlead.brace, hname.brace, hbetween.brace, hitems, hmarks]

/-! ## Where a list begins -/

theorem split_of_absent {sep cs : List Char} (h : ∀ i < cs.length, ¬ sep <+: cs.drop i) :
    splitAtText sep 0 cs = [cs] := by
  induction cs with
  | nil => rfl
  | cons c cs ih =>
    have hothers : ∀ i < cs.length, ¬ sep <+: cs.drop i := by
      intro i hi
      exact h (i + 1) (Nat.succ_lt_succ hi)
    obtain ⟨first, others, hcs, hsplit⟩ := split_other (h 0 (Nat.succ_pos _))
    rw [ih hothers] at hcs
    obtain ⟨rfl, rfl⟩ := List.cons.inj hcs
    exact hsplit

/-- in the text of the two parts with the word between them the word stands nowhere else -/
def StandsOnce (word front back : List Char) : Prop :=
  ∀ i < (front ++ (word ++ back)).length, word <+: (front ++ (word ++ back)).drop i → i = front.length

instance (word front back : List Char) : Decidable (StandsOnce word front back) :=
  inferInstanceAs (Decidable (∀ i < _, _ → _))

theorem split_once {word front back : List Char} (hne : word ≠ []) (h : StandsOnce word front back) :
    splitAtText word 0 (front ++ (word ++ back)) = [front, back] := by
  induction front with
  | nil =>
    obtain ⟨c, cs, rfl⟩ := List.exists_cons_of_ne_nil hne
    have habsent : ∀ i < back.length, ¬ c :: cs <+: back.drop i := by
      intro i hi hprefix
      have hplace : ([] ++ ((c :: cs) ++ back)).drop ((c :: cs).length + i) = back.drop i := by
        rw [List.nil_append, ← List.drop_drop, List.drop_left]
      have hlength : (c :: cs).length + i < ([] ++ ((c :: cs) ++ back)).length := by
        rw [List.nil_append, List.length_append]
        omega
      have hzero := h _ hlength (by rw [hplace]; exact hprefix)
      rw [List.length_cons, List.length_nil] at hzero
      omega
    have hfirst : c :: cs <+: c :: (cs ++ back) := List.prefix_append (c :: cs) back
    show splitAtText (c :: cs) 0 (c :: (cs ++ back)) = [[], back]
    rw [split_word hfirst, List.length_cons, Nat.add_sub_cancel, split_skip, split_of_absent habsent]
  | cons c front ih =>
    have hother : ¬ word <+: c :: (front ++ (word ++ back)) := fun hprefix =>
      absurd (h 0 (Nat.succ_pos _) hprefix) (Nat.succ_ne_zero _).symm
    have honce : StandsOnce word front back := by
      intro i hi hprefix
      exact Nat.succ.inj (h (i + 1) (Nat.succ_lt_succ hi) hprefix)
    obtain ⟨first, others, hcs, hsplit⟩ := split_other hother
    rw [ih honce] at hcs
    obtain ⟨rfl, rfl⟩ := List.cons.inj hcs
    exact hsplit

/-! ## Headings -/

/-- a text with one list of implemented types: what stands before the word, the types, and what stands behind the brace
that ends them -/
structure Heading where
  front : List Char
  types : TypeList
  rest : List Char

namespace Heading

/-- what stands behind the word -/
def clause (h : Heading) : List Char := h.types.text ++ '\x7b' :: h.rest

def text (h : Heading) : String := String.ofList (h.front ++ ("implements".toList ++ h.clause))

/-- the types are written as types are, and the word stands nowhere else in the text -/
structure WellFormed (h : Heading) : Prop where
  types : h.types.WellFormed
  once : StandsOnce "implements".toList h.front h.clause

end Heading

theorem declaresImplements_heading {h : Heading} (hh : h.WellFormed) (hname : IsInterfaceName interface) :
    declaresImplements h.text interface = true ↔ ∃ n ∈ h.types.names, interface ∈ readNames n.text := by
  have hend : IsEnd ('\x7b' :: h.rest) := fun c hc => (Option.some.inj hc).symm
  have htext : h.text.toList = h.front ++ ("implements".toList ++ h.clause) := String.toList_ofList
  have hbrace : '\x7b' ∉ h.types.text := brace_intercalate hh.types.brace
  have hnames : declaresImplements h.text interface = namesIn interface h.types.text := by
    rw [declaresImplements_eq, declaredIn, htext, split_once (by decide) hh.once, List.drop_one, List.tail_cons,
      List.any_cons, List.any_nil, Bool.or_false, Heading.clause, namesIn_append _ hend]
  calc declaresImplements h.text interface = true ↔ interface ∈ readNames h.types.text := by
        rw [hnames, namesIn_iff hbrace]
    _ ↔ ∃ item ∈ h.types.texts, interface ∈ readNames item := mem_readNames_items hname.1 _
    _ ↔ ∃ n ∈ h.types.names, interface ∈ readNames n.text := mem_readNames_texts hname hh.types

/-- **What a heading declares.** It declares an interface exactly when a token of some name in its list of types is the
interface's name, at whatever depth the name stands; what stands before and behind the list counts for nothing. Where
all names are plain, these are the simple names of the types and of their type arguments. So a heading declares exactly
the simple names of its types just when no type argument has the interface's name unless one of the types has it. -/
theorem declaresImplements_iff {h : Heading} (hh : h.WellFormed) (hname : IsInterfaceName interface) :
    (declaresImplements h.text interface = true ↔ ∃ n ∈ h.types.names, interface ∈ readNames n.text) ∧
    ((∀ n ∈ h.types.names, n.Plain) →
      (declaresImplements h.text interface = true ↔
        (∃ n ∈ h.types.heads, n.simple = interface) ∨ ∃ n ∈ h.types.inner, n.simple = interface) ∧
      ((declaresImplements h.text interface = true ↔ ∃ n ∈ h.types.heads, n.simple = interface) ↔
        ((∃ n ∈ h.types.inner, n.simple = interface) → ∃ n ∈ h.types.heads, n.simple = interface))) := by
  have hread := declaresImplements_heading hh hname
  refine ⟨hread, ?_⟩
  intro hplain
  have hsimple : declaresImplements h.text interface = true ↔
      (∃ n ∈ h.types.heads, n.simple = interface) ∨ ∃ n ∈ h.types.inner, n.simple = interface := by
    have heach : ∀ n ∈ h.types.names, (interface ∈ readNames n.text ↔ n.simple = interface) := by
      intro n hn
      rw [readNames_plain (hplain n hn), List.mem_singleton, eq_comm]
    rw [hread, exists_congr fun n => and_congr_right (heach n)]
    simp only [TypeList.mem_names_iff, or_and_right, exists_or]
  refine ⟨hsimple, ?_⟩
  rw [hsimple]
  exact or_iff_left_iff_imp

/-! A class with a type argument, and one that it only extends. -/

instance (n : QualifiedName) : Decidable n.WellFormed := inferInstanceAs (Decidable (∀ part ∈ n.parts, _ ∧ _))

instance (n : QualifiedName) : Decidable n.Plain := inferInstanceAs (Decidable (∀ part ∈ n.parts, _))

instance (lead : Lead) : Decidable lead.WellFormed :=
  match lead with
  | .nothing => .isTrue trivial
  | .bounded _ _ => inferInstanceAs (Decidable (_ ∧ _))

instance TypeList.decidableWellFormed : (t : TypeList) → Decidable t.WellFormed
  | nil => .isTrue trivial
  | wildcard _ _ more =>
    have := more.decidableWellFormed
    inferInstanceAs (Decidable (_ ∧ _ ∧ _))
  | named _ _ _ _ arguments _ more =>
    have := arguments.decidableWellFormed
    have := more.decidableWellFormed
    inferInstanceAs (Decidable (_ ∧ _ ∧ _ ∧ _ ∧ _ ∧ _ ∧ _))

/-- `class Cart implements Comparable<Order> { }` -/
def sortedCart : Heading where
  front := "class Cart ".toList
  types := .named [' '] .nothing ⟨[], "Comparable"⟩ []
    (.named [] .nothing ⟨[], "Order"⟩ [] .nil [] .nil) [' '] .nil
  rest := " \x7d".toList

/-- `class Cart extends Order implements com.acme.Store<Map<String, ? extends Item[]>>, Serializable { }` -/
def storedCart : Heading where
  front := "class Cart extends Order ".toList
  types := .named [' '] .nothing ⟨["com", "acme"], "Store"⟩ []
    (.named [] .nothing ⟨[], "Map"⟩ []
      (.named [] .nothing ⟨[], "String"⟩ [] .nil []
        (.named [' '] (.bounded [' '] "extends") ⟨[], "Item"⟩ [] .nil "[]".toList .nil)) [] .nil) []
    (.named [' '] .nothing ⟨[], "Serializable"⟩ [] .nil [' '] .nil)
  rest := " \x7d".toList

/-- Both interfaces are declared, the class that is only extended is not, and nor is a part of a name. -/
theorem declaresImplements_storedCart :
    storedCart.text =
      "class Cart extends Order implements com.acme.Store<Map<String, ? extends Item[]>>, Serializable \x7b \x7d" ∧
    declaresImplements storedCart.text "Store" = true ∧ declaresImplements storedCart.text "Serializable" = true ∧
    declaresImplements storedCart.text "Order" = false ∧ declaresImplements storedCart.text "acme" = false := by
  have hformed : storedCart.WellFormed := ⟨by decide +kernel, by decide +kernel⟩
  have hplain : ∀ n ∈ storedCart.types.names, n.Plain := by decide +kernel
  have hdeclared : ∀ name, IsInterfaceName name → (declaresImplements storedCart.text name = true ↔
      (∃ n ∈ storedCart.types.heads, n.simple = name) ∨ ∃ n ∈ storedCart.types.inner, n.simple = name) :=
    fun name hname => ((declaresImplements_iff hformed hname).2 hplain).1
  refine ⟨by decide +kernel, ?_, ?_, ?_, ?_⟩
  · exact (hdeclared "Store" (by decide)).2 (by decide)
  · exact (hdeclared "Serializable" (by decide)).2 (by decide)
  · exact Bool.eq_false_iff.2 ((hdeclared "Order" (by decide)).not.2 (by decide))
  · exact Bool.eq_false_iff.2 ((hdeclared "acme" (by decide)).not.2 (by decide))

/-- **A type argument is taken for an interface of the class.** -/
theorem declaresImplements_sortedCart :
    sortedCart.WellFormed ∧ sortedCart.text = "class Cart implements Comparable<Order> \x7b \x7d" ∧
      IsInterfaceName "Order" ∧ declaresImplements sortedCart.text "Order" = true ∧
      ¬ ∃ n ∈ sortedCart.types.heads, n.simple = "Order" :=
  ⟨⟨by decide +kernel, by decide +kernel⟩, by decide +kernel, by decide, by decide +kernel, by decide⟩

end CodeSurvey.Tracer
