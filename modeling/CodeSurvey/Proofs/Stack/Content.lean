/-
Documents as trees.

`Content` is what stands between two tags: texts, elements with their own content, and what says nothing. `written` is
how it is written, `events` what a reader is to meet: the elements in their order, and of each text what is left without
the blanks around it, its entities replaced.

`events?_written`: the events of a well-formed document are those of its tree. `meets` reads the rest of a document
inside the open elements; `meets_written` is the induction over the tree, for any rest behind it that starts with a tag.
-/
import CodeSurvey.Xml
import Mathlib.Data.List.Infix

namespace CodeSurvey.Xml

/-! ## Trees -/

/-- the value of an attribute stands between quotes, the blanks in front of it and around its `=` -/
structure Attribute where
  before : List Char
  name : String
  beforeSign : List Char
  behindSign : List Char
  quote : Char
  value : List Char
  deriving DecidableEq

/-- the inside of a tag that opens an element, with the blanks at its end -/
structure Tag where
  name : String
  attributes : List Attribute
  blanks : List Char
  deriving DecidableEq

/-- what says nothing; an element that closes itself has no content -/
inductive Aside where
  | comment (s : List Char)
  | data (s : List Char)
  | instruction (s : List Char)
  | doctype (s : List Char)
  | closedTag (tag : Tag)
  deriving DecidableEq

/-- what stands between two tags; the end of an element may have blanks behind its name -/
inductive Content where
  | nil
  | text (raw : List Char) (rest : Content)
  | aside (a : Aside) (rest : Content)
  | element (tag : Tag) (inside : Content) (blanks : List Char) (rest : Content)
  deriving DecidableEq

/-! ## How trees are written -/

def Attribute.written (a : Attribute) : List Char :=
  a.before ++ a.name.toList ++ a.beforeSign ++ '=' :: a.behindSign ++ a.quote :: a.value ++ [a.quote]

def Tag.written (t : Tag) : List Char := t.name.toList ++ (t.attributes.flatMap Attribute.written ++ t.blanks)

def Aside.written : Aside → List Char
  | .comment s => ['<', '!', '-', '-'] ++ s ++ ['-', '-', '>']
  | .data s => ['<', '!', '[', 'C', 'D', 'A', 'T', 'A', '['] ++ s ++ [']', ']', '>']
  | .instruction s => ['<', '?'] ++ s ++ ['?', '>']
  | .doctype s => ['<', '!', 'D', 'O', 'C', 'T', 'Y', 'P', 'E'] ++ s ++ ['>']
  | .closedTag tag => '<' :: tag.written ++ ['/', '>']

def Content.written : Content → List Char
  | .nil => []
  | .text raw rest => raw ++ rest.written
  | .aside a rest => a.written ++ rest.written
  | .element tag inside blanks rest =>
    '<' :: tag.written ++ '>' :: inside.written ++ '<' :: '/' :: tag.name.toList ++ blanks ++ '>' :: rest.written

/-! ## What trees say -/

/-- a text without the blanks around it -/
def trimSpaces (raw : List Char) : List Char := dropSpaces (raw.dropWhile isSpace)

/-- what a reader meets of a text -/
def shown (raw : List Char) : List String :=
  if raw.all isSpace then [] else [String.ofList ((unescape? none (trimSpaces raw)).getD [])]

def Content.events : Content → List Event
  | .nil => []
  | .text raw rest => (shown raw).map .text ++ rest.events
  | .aside _ rest => rest.events
  | .element tag inside _ rest => .opened tag.name :: inside.events ++ .closed :: rest.events

/-! ## Well-formed trees -/

/-- characters that no name has -/
def markupChars : List Char := ['<', '>', '/', '!', '?', '=', '\x27', '"']

def IsTagName (name : String) : Prop := name ≠ "" ∧ ∀ c ∈ name.toList, isSpace c = false ∧ c ∉ markupChars

structure Attribute.WellFormed (a : Attribute) : Prop where
  before : a.before ≠ [] ∧ a.before.all isSpace = true
  name : IsTagName a.name
  blanks : a.beforeSign.all isSpace = true ∧ a.behindSign.all isSpace = true
  quote : a.quote = '\x27' ∨ a.quote = '"'
  value : a.quote ∉ a.value

structure Tag.WellFormed (t : Tag) : Prop where
  name : IsTagName t.name
  attributes : ∀ a ∈ t.attributes, a.WellFormed
  blanks : t.blanks.all isSpace = true

def Aside.WellFormed : Aside → Prop
  | .comment s => ¬ "--".toList <:+: s
  | .data s => ¬ "]]>".toList <:+: s
  | .instruction s => s ≠ [] ∧ '>' ∉ s
  | .doctype s => (∀ n < s.length, s[n]? = some '>' → (s.take n).count '<' ≠ (s.take n).count '>') ∧
      s.count '<' = s.count '>' ∧ s.all isSpace = false
  | .closedTag tag => tag.WellFormed

def Content.startsWithText : Content → Bool
  | .text _ _ => true
  | _ => false

/-- no text stands beside another or holds a tag, and all entities are known -/
def Content.WellFormed : Content → Prop
  | .nil => True
  | .text raw rest =>
    '<' ∉ raw ∧ (unescape? none (trimSpaces raw)).isSome = true ∧ rest.startsWithText = false ∧ rest.WellFormed
  | .aside a rest => a.WellFormed ∧ rest.WellFormed
  | .element tag inside blanks rest =>
    tag.WellFormed ∧ blanks.all isSpace = true ∧ inside.WellFormed ∧ rest.WellFormed

instance (name : String) : Decidable (IsTagName name) :=
  decidable_of_iff (name ≠ "" ∧ name.toList.all (fun c => !isSpace c && !markupChars.contains c) = true)
    (by simp [IsTagName])

instance (a : Attribute) : Decidable a.WellFormed :=
  decidable_of_iff ((a.before ≠ [] ∧ a.before.all isSpace = true) ∧ IsTagName a.name ∧
      (a.beforeSign.all isSpace = true ∧ a.behindSign.all isSpace = true) ∧ (a.quote = '\x27' ∨ a.quote = '"') ∧
      a.quote ∉ a.value)
    ⟨fun ⟨before, name, blanks, quote, value⟩ => ⟨before, name, blanks, quote, value⟩,
      fun ⟨before, name, blanks, quote, value⟩ => ⟨before, name, blanks, quote, value⟩⟩

instance (t : Tag) : Decidable t.WellFormed :=
  decidable_of_iff (IsTagName t.name ∧ (∀ a ∈ t.attributes, a.WellFormed) ∧ t.blanks.all isSpace = true)
    ⟨fun ⟨name, attributes, blanks⟩ => ⟨name, attributes, blanks⟩,
      fun ⟨name, attributes, blanks⟩ => ⟨name, attributes, blanks⟩⟩

instance : (a : Aside) → Decidable a.WellFormed
  | .comment _ => inferInstanceAs (Decidable (¬ _))
  | .data _ => inferInstanceAs (Decidable (¬ _))
  | .instruction _ => inferInstanceAs (Decidable (_ ∧ _))
  | .doctype _ => inferInstanceAs (Decidable (_ ∧ _ ∧ _))
  | .closedTag tag => inferInstanceAs (Decidable tag.WellFormed)

instance Content.decidableWellFormed : (c : Content) → Decidable c.WellFormed
  | .nil => .isTrue trivial
  | .text _ rest =>
    have := rest.decidableWellFormed
    inferInstanceAs (Decidable (_ ∧ _ ∧ _ ∧ rest.WellFormed))
  | .aside a rest =>
    have := rest.decidableWellFormed
    inferInstanceAs (Decidable (a.WellFormed ∧ rest.WellFormed))
  | .element tag inside _ rest =>
    have := inside.decidableWellFormed
    have := rest.decidableWellFormed
    inferInstanceAs (Decidable (tag.WellFormed ∧ _ ∧ inside.WellFormed ∧ rest.WellFormed))

/-- only blanks stand outside the elements -/
def Content.BlankOutside : Content → Prop
  | .nil => True
  | .text raw rest => raw.all isSpace = true ∧ rest.BlankOutside
  | .aside _ rest => rest.BlankOutside
  | .element _ _ _ rest => rest.BlankOutside

instance Content.decidableBlankOutside : (c : Content) → Decidable c.BlankOutside
  | .nil => .isTrue trivial
  | .text _ rest =>
    have := rest.decidableBlankOutside
    inferInstanceAs (Decidable (_ ∧ rest.BlankOutside))
  | .aside _ rest => rest.decidableBlankOutside
  | .element _ _ _ rest => rest.decidableBlankOutside

/-- a well-formed tree with only blanks outside its elements -/
structure Content.IsDocument (c : Content) : Prop where
  wellFormed : c.WellFormed
  blankOutside : c.BlankOutside

/-! ## Cutting what is written -/

theorem cutAt_append {stop : Char} {xs : List Char} (h : stop ∉ xs) (rest : List Char) :
    cutAt stop (xs ++ stop :: rest) = (xs, rest) := by
  induction xs with
  | nil => simp [cutAt]
  | cons c xs ih =>
    obtain ⟨hc, hxs⟩ := not_or.1 (mt List.mem_cons.2 h)
    rw [List.cons_append, cutAt, if_neg (Ne.symm hc), ih hxs]

theorem cutTag_plain {xs : List Char} (h : ∀ c ∈ xs, c ≠ '>' ∧ c ≠ '\x27' ∧ c ≠ '"') (cs : List Char) :
    cutTag none (xs ++ cs) = (xs ++ (cutTag none cs).1, (cutTag none cs).2) := by
  induction xs with
  | nil => rfl
  | cons c xs ih =>
    obtain ⟨hend, hsingle, hdouble⟩ := h c List.mem_cons_self
    have hrest := ih fun d hd => h d (List.mem_cons_of_mem c hd)
    simp [cutTag, hend, hsingle, hdouble, hrest]

theorem cutTag_quoted {quote : Char} {value : List Char} (h : quote ∉ value) (cs : List Char) :
    cutTag (some quote) (value ++ quote :: cs) = (value ++ quote :: (cutTag none cs).1, (cutTag none cs).2) := by
  induction value with
  | nil => simp [cutTag]
  | cons c value ih =>
    obtain ⟨hc, hvalue⟩ := not_or.1 (mt List.mem_cons.2 h)
    simp [cutTag, Ne.symm hc, ih hvalue]

/-- Where no `>` is an end, a cut goes on. -/
theorem cutWhere_append {ends : List Char → Bool} {before xs : List Char}
    (h : ∀ a b, xs = a ++ '>' :: b → ends (a.reverse ++ before) = false) (cs : List Char) :
    cutWhere ends before (xs ++ cs) = cutWhere ends (xs.reverse ++ before) cs := by
  induction xs generalizing before with
  | nil => rfl
  | cons c xs ih =>
    have hnot : ¬ (c = '>' ∧ ends before = true) := by
      rintro ⟨rfl, hends⟩
      exact Bool.false_ne_true ((h [] xs rfl).symm.trans hends)
    have hrest : ∀ a b, xs = a ++ '>' :: b → ends (a.reverse ++ c :: before) = false := fun a b hxs => by
      have hends := h (c :: a) b (by rw [hxs, List.cons_append])
      rwa [List.reverse_cons, List.append_assoc] at hends
    rw [List.cons_append, cutWhere, if_neg hnot, ih hrest, List.reverse_cons, List.append_assoc]
    rfl

theorem cutWhere_plain {ends : List Char → Bool} {before xs : List Char} (h : '>' ∉ xs) (cs : List Char) :
    cutWhere ends before (xs ++ cs) = cutWhere ends (xs.reverse ++ before) cs :=
  cutWhere_append (fun a b hxs => absurd (by simp [hxs]) h) cs

/-! ## Reading asides -/

theorem suffix_of_take {a xs : List Char} {x y : Char} (hlong : 2 ≤ a.length)
    (h : (a.reverse ++ xs).take 2 = [x, y]) : [y, x] <:+ a := by
  rw [List.take_append_of_le_length (by rwa [List.length_reverse])] at h
  have hcut := List.take_append_drop 2 a.reverse
  rw [h] at hcut
  exact ⟨(a.reverse.drop 2).reverse, by rw [← List.reverse_reverse a, ← hcut]; simp⟩

/-- A text between an opening and a closing is cut behind the closing, when none of its own `>` is an end. -/
theorem cutWhere_between {ends : List Char → Bool} {opening s closing : List Char} (hopening : '>' ∉ opening)
    (hpassed : ∀ a b, s = a ++ '>' :: b → ends (a.reverse ++ opening.reverse) = false) (hclosing : '>' ∉ closing)
    (hend : ends (closing.reverse ++ (s.reverse ++ opening.reverse)) = true) (rest : List Char) :
    cutWhere ends [] (opening ++ (s ++ (closing ++ '>' :: rest))) = some (opening ++ (s ++ closing), rest) := by
  rw [cutWhere_plain hopening, List.append_nil, cutWhere_append hpassed, cutWhere_plain hclosing, cutWhere,
    if_pos ⟨rfl, hend⟩]
  simp

theorem declaration?_comment {s : List Char} (h : ¬ "--".toList <:+: s) (rest : List Char) :
    declaration? ("--".toList ++ (s ++ ("--".toList ++ '>' :: rest))) = some rest := by
  have hpassed : ∀ a b, s = a ++ '>' :: b → endsComment (a.reverse ++ "--".toList.reverse) = false := by
    rintro a b rfl
    rw [Bool.eq_false_iff]
    intro hends
    obtain ⟨hlong, htake⟩ := Bool.and_eq_true_iff.1 hends
    have hlong : 2 ≤ a.length := by simpa using hlong
    obtain ⟨front, rfl⟩ := suffix_of_take hlong (eq_of_beq htake)
    exact h ⟨front, '>' :: b, rfl⟩
  have hend : endsComment ("--".toList.reverse ++ (s.reverse ++ "--".toList.reverse)) = true := by simp [endsComment]
  show ((cutWhere endsComment [] ("--".toList ++ (s ++ ("--".toList ++ '>' :: rest)))).filter _).map _ = some rest
  rw [cutWhere_between (by decide) hpassed (by decide) hend]
  rfl

theorem declaration?_data {s : List Char} (h : ¬ "]]>".toList <:+: s) (rest : List Char) :
    declaration? ("[CDATA[".toList ++ (s ++ ("]]".toList ++ '>' :: rest))) = some rest := by
  have hpassed : ∀ a b, s = a ++ '>' :: b → endsData (a.reverse ++ "[CDATA[".toList.reverse) = false := by
    rintro a b rfl
    rw [Bool.eq_false_iff]
    intro hends
    have htake := eq_of_beq hends
    have hlong : 2 ≤ a.length := by
      match a with
      | [] => exact absurd htake (by decide)
      | [x] => simp at htake
      | _ :: _ :: _ => simp
    obtain ⟨front, rfl⟩ := suffix_of_take hlong htake
    exact h ⟨front, b, by simp⟩
  have hend : endsData ("]]".toList.reverse ++ (s.reverse ++ "[CDATA[".toList.reverse)) = true := by simp [endsData]
  show ((cutWhere endsData [] ("[CDATA[".toList ++ (s ++ ("]]".toList ++ '>' :: rest)))).filter _).map _ = some rest
  rw [cutWhere_between (by decide) hpassed (by decide) hend]
  rfl

theorem declaration?_doctype {s : List Char}
    (hopen : ∀ n < s.length, s[n]? = some '>' → (s.take n).count '<' ≠ (s.take n).count '>')
    (hclosed : s.count '<' = s.count '>') (hsome : s.all isSpace = false) (rest : List Char) :
    declaration? ("DOCTYPE".toList ++ (s ++ '>' :: rest)) = some rest := by
  have hcount (a : List Char) : endsDoctype (a.reverse ++ "DOCTYPE".toList.reverse) = (a.count '<' == a.count '>') := by
    simp [endsDoctype, List.count_append]
  have hpassed : ∀ a b, s = a ++ '>' :: b → endsDoctype (a.reverse ++ "DOCTYPE".toList.reverse) = false := by
    rintro a b rfl
    have hne := hopen a.length (by simp) (by simp)
    rw [List.take_left] at hne
    exact (hcount a).trans (beq_eq_false_iff_ne.2 hne)
  have hend : endsDoctype (s.reverse ++ "DOCTYPE".toList.reverse) = true := (hcount s).trans (beq_iff_eq.2 hclosed)
  have hcut := cutWhere_between (by decide) hpassed List.not_mem_nil hend rest
  have hlike : startsLike "DOCTYPE" ("DOCTYPE".toList ++ (s ++ [])) = true := rfl
  have hblank : (("DOCTYPE".toList ++ (s ++ [])).drop 7).all isSpace = false := by
    rw [List.append_nil]
    exact hsome
  show ((cutWhere endsDoctype [] ("DOCTYPE".toList ++ (s ++ ([] ++ '>' :: rest)))).filter _).map _ = some rest
  rw [hcut, Option.filter_some, hlike, hblank]
  rfl

/-! ## Reading tags -/

/-- the text stands inside a tag and leaves no quotation open -/
def InTag (xs : List Char) : Prop := ∀ cs, cutTag none (xs ++ cs) = (xs ++ (cutTag none cs).1, (cutTag none cs).2)

theorem InTag.append {xs ys : List Char} (hxs : InTag xs) (hys : InTag ys) : InTag (xs ++ ys) := fun cs => by
  rw [List.append_assoc, hxs, hys, List.append_assoc]

theorem inTag_flatMap {α : Type} {f : α → List Char} {as : List α} (h : ∀ a ∈ as, InTag (f a)) :
    InTag (as.flatMap f) := by
  induction as with
  | nil => exact fun _ => rfl
  | cons a as ih =>
    rw [List.flatMap_cons]
    exact (h a List.mem_cons_self).append (ih fun b hb => h b (List.mem_cons_of_mem a hb))

theorem inTag_blanks {xs : List Char} (h : xs.all isSpace = true) : InTag xs := cutTag_plain fun c hc => by
  have hspace := List.all_eq_true.1 h c hc
  refine ⟨?_, ?_, ?_⟩ <;> rintro rfl <;> exact absurd hspace (by decide)

theorem inTag_name {name : String} (h : IsTagName name) : InTag name.toList := cutTag_plain fun c hc => by
  have hmarkup := (h.2 c hc).2
  refine ⟨?_, ?_, ?_⟩ <;> rintro rfl <;> exact hmarkup (by decide)

theorem inTag_quoted {quote : Char} {value : List Char} (hquote : quote = '\x27' ∨ quote = '"') (h : quote ∉ value) :
    InTag (quote :: value ++ [quote]) := fun cs => by
  have hcs : quote :: value ++ [quote] ++ cs = quote :: (value ++ quote :: cs) := by simp
  rw [hcs]
  rcases hquote with rfl | rfl <;> simp [cutTag, cutTag_quoted h]

theorem Attribute.WellFormed.inTag {a : Attribute} (h : a.WellFormed) : InTag a.written := by
  have hsign : InTag ['='] := cutTag_plain (by simp)
  have hparts : a.written = a.before ++ (a.name.toList ++ (a.beforeSign ++
      (['='] ++ (a.behindSign ++ (a.quote :: a.value ++ [a.quote]))))) := by simp [written]
  rw [hparts]
  exact (inTag_blanks h.before.2).append <| (inTag_name h.name).append <| (inTag_blanks h.blanks.1).append <|
    hsign.append <| (inTag_blanks h.blanks.2).append <| inTag_quoted h.quote h.value

theorem Tag.WellFormed.inTag {t : Tag} (h : t.WellFormed) : InTag t.written :=
  (inTag_name h.name).append <| (inTag_flatMap fun a ha => (h.attributes a ha).inTag).append (inTag_blanks h.blanks)

theorem Tag.WellFormed.exists_cons {t : Tag} (h : t.WellFormed) :
    ∃ c cs, t.written = c :: cs ∧ c ≠ '!' ∧ c ≠ '/' ∧ c ≠ '?' := by
  obtain ⟨c, cs, hname⟩ := List.exists_cons_of_ne_nil (mt String.toList_eq_nil_iff.1 h.name.1)
  have hmarkup := (h.name.2 c (by simp [hname])).2
  refine ⟨c, cs ++ (t.attributes.flatMap Attribute.written ++ t.blanks), by rw [written, hname, List.cons_append], ?_⟩
  refine ⟨?_, ?_, ?_⟩ <;> rintro rfl <;> exact hmarkup (by decide)

theorem markup?_of_ne {c : Char} (h : c ≠ '!' ∧ c ≠ '/' ∧ c ≠ '?') (cs : List Char) :
    markup? (c :: cs) = some (tag (cutTag none (c :: cs)).1, (cutTag none (c :: cs)).2) := by
  obtain ⟨hmark, hslash, hquestion⟩ := h
  unfold markup?
  split <;> simp_all

/-- Behind the inside of a tag, its end decides what it is. -/
theorem Tag.WellFormed.markup?_eq {t : Tag} (h : t.WellFormed) (cs : List Char) :
    markup? (t.written ++ cs) = some (tag (t.written ++ (cutTag none cs).1), (cutTag none cs).2) := by
  have hcut := h.inTag cs
  obtain ⟨c, front, hwritten, hne⟩ := h.exists_cons
  rw [hwritten] at hcut ⊢
  rw [List.cons_append, markup?_of_ne hne, ← List.cons_append, hcut]

theorem piece?_of_declaration {cs rest : List Char} (h : declaration? cs = some rest) :
    piece? ('<' :: '!' :: cs) = some (.silent, rest) := by
  show (declaration? cs).map _ = _
  rw [h]
  rfl

/-- **What says nothing is one silent piece.** -/
theorem Aside.WellFormed.piece?_eq {a : Aside} (h : a.WellFormed) (rest : List Char) :
    piece? (a.written ++ rest) = some (.silent, rest) := by
  cases a with
  | comment s =>
    have hparts : (Aside.comment s).written ++ rest =
        '<' :: '!' :: ("--".toList ++ (s ++ ("--".toList ++ '>' :: rest))) := by simp [written]
    rw [hparts]
    exact piece?_of_declaration (declaration?_comment h rest)
  | data s =>
    have hparts : (Aside.data s).written ++ rest =
        '<' :: '!' :: ("[CDATA[".toList ++ (s ++ ("]]".toList ++ '>' :: rest))) := by simp [written]
    rw [hparts]
    exact piece?_of_declaration (declaration?_data h rest)
  | instruction s =>
    obtain ⟨hsome, hplain⟩ := h
    have hparts : (Aside.instruction s).written ++ rest = '<' :: '?' :: ((s ++ ['?']) ++ '>' :: rest) := by
      simp [written]
    have hlong : 2 ≤ (s ++ ['?']).length := by
      rw [List.length_append]
      exact Nat.succ_le_succ (List.length_pos_iff.2 hsome)
    have hcut : cutAt '>' ((s ++ ['?']) ++ '>' :: rest) = (s ++ ['?'], rest) :=
      cutAt_append (by simpa using hplain) rest
    rw [hparts]
    show markup? ('?' :: ((s ++ ['?']) ++ '>' :: rest)) = _
    rw [markup?, hcut]
    exact if_pos ⟨hlong, List.getLast?_concat⟩
  | doctype s =>
    have hparts : (Aside.doctype s).written ++ rest = '<' :: '!' :: ("DOCTYPE".toList ++ (s ++ '>' :: rest)) := by
      simp [written]
    rw [hparts]
    exact piece?_of_declaration (declaration?_doctype h.1 h.2.1 h.2.2 rest)
  | closedTag tag =>
    have hparts : (Aside.closedTag tag).written ++ rest = '<' :: (tag.written ++ '/' :: '>' :: rest) := by
      simp [written]
    have hend : cutTag none ('/' :: '>' :: rest) = (['/'], rest) := by simp [cutTag]
    have hsilent : Xml.tag (tag.written ++ ['/']) = .silent := by simp [Xml.tag]
    rw [hparts, piece?, if_neg (by decide), if_pos rfl, Tag.WellFormed.markup?_eq h, hend, hsilent]

/-- the text does not end in a slash -/
def EndsOpen (xs : List Char) : Prop := xs.getLast? ≠ some '/'

theorem EndsOpen.append {xs ys : List Char} (hxs : EndsOpen xs) (hys : EndsOpen ys) : EndsOpen (xs ++ ys) := by
  unfold EndsOpen at *
  rw [List.getLast?_append]
  cases hlast : ys.getLast? with
  | none => simpa using hxs
  | some c => simpa [hlast] using hys

theorem endsOpen_of_not_mem {xs : List Char} (h : '/' ∉ xs) : EndsOpen xs :=
  fun hlast => h (List.mem_of_getLast? hlast)

theorem Attribute.WellFormed.endsOpen {a : Attribute} (h : a.WellFormed) : EndsOpen a.written := by
  have hlast : a.written.getLast? = some a.quote := List.getLast?_concat
  rw [EndsOpen, hlast]
  rcases h.quote with hquote | hquote <;> rw [hquote] <;> decide

theorem Tag.WellFormed.endsOpen {t : Tag} (h : t.WellFormed) : EndsOpen t.written := by
  have hname : '/' ∉ t.name.toList := fun hmem => (h.name.2 _ hmem).2 (by decide)
  have hblanks : '/' ∉ t.blanks := fun hmem => absurd (List.all_eq_true.1 h.blanks _ hmem) (by decide)
  have hattributes : ∀ as : List Attribute, (∀ a ∈ as, a.WellFormed) → EndsOpen (as.flatMap Attribute.written) := by
    intro as has
    induction as with
    | nil => exact endsOpen_of_not_mem List.not_mem_nil
    | cons a as ih =>
      rw [List.flatMap_cons]
      exact (has a List.mem_cons_self).endsOpen.append (ih fun b hb => has b (List.mem_cons_of_mem a hb))
  exact (endsOpen_of_not_mem hname).append ((hattributes _ h.attributes).append (endsOpen_of_not_mem hblanks))

/-- the text is nothing, or starts with a blank -/
def StartsApart (xs : List Char) : Prop := ∀ c, xs.head? = some c → isSpace c = true

theorem Tag.WellFormed.startsApart {t : Tag} (h : t.WellFormed) :
    StartsApart (t.attributes.flatMap Attribute.written ++ t.blanks) := by
  intro c hc
  cases hattributes : t.attributes with
  | nil =>
    rw [hattributes, List.flatMap_nil, List.nil_append] at hc
    exact List.all_eq_true.1 h.blanks c (List.mem_of_head? hc)
  | cons a as =>
    obtain ⟨hne, hspaces⟩ := (h.attributes a (by simp [hattributes])).before
    obtain ⟨d, ds, hbefore⟩ := List.exists_cons_of_ne_nil hne
    obtain rfl : d = c := by simpa [hattributes, Attribute.written, hbefore] using hc
    exact List.all_eq_true.1 hspaces d (by simp [hbefore])

theorem takeWhile_name {name : String} (h : IsTagName name) {xs : List Char} (hxs : StartsApart xs) :
    (name.toList ++ xs).takeWhile (!isSpace ·) = name.toList := by
  have hname : ∀ c ∈ name.toList, (!isSpace c) = true := fun c hc => by rw [(h.2 c hc).1, Bool.not_false]
  rw [List.takeWhile_append_of_pos hname]
  cases xs with
  | nil => simp
  | cons c xs => simp [hxs c rfl]

/-- **The start of an element is one piece.** -/
theorem Tag.WellFormed.piece?_start {t : Tag} (h : t.WellFormed) (rest : List Char) :
    piece? ('<' :: (t.written ++ '>' :: rest)) = some (.startTag t.name.toList, rest) := by
  have hend : cutTag none ('>' :: rest) = ([], rest) := by simp [cutTag]
  have htag : tag t.written = .startTag t.name.toList := by
    rw [tag, if_neg h.endsOpen, written, takeWhile_name h.name h.startsApart]
  rw [piece?, if_neg (by decide), if_pos rfl, h.markup?_eq, hend, List.append_nil, htag]

theorem dropSpaces_name {name : String} (h : IsTagName name) {blanks : List Char}
    (hblanks : blanks.all isSpace = true) : dropSpaces (name.toList ++ blanks) = name.toList := by
  have hspaces : ∀ c ∈ blanks.reverse, isSpace c = true := fun c hc =>
    List.all_eq_true.1 hblanks c (List.mem_reverse.1 hc)
  obtain ⟨c, cs, hname⟩ := List.exists_cons_of_ne_nil (mt List.reverse_eq_nil_iff.1 (mt String.toList_eq_nil_iff.1 h.1))
  have hc : isSpace c = false := (h.2 c (List.mem_reverse.1 (by simp [hname]))).1
  rw [dropSpaces, List.reverse_append, List.dropWhile_append_of_pos hspaces, hname,
    List.dropWhile_cons_of_neg (by simp [hc]), ← hname, List.reverse_reverse]

/-- **The end of an element is one piece.** -/
theorem piece?_end {name : String} (h : IsTagName name) {blanks : List Char} (hblanks : blanks.all isSpace = true)
    (rest : List Char) :
    piece? ('<' :: '/' :: (name.toList ++ blanks ++ '>' :: rest)) = some (.endTag name.toList, rest) := by
  have hplain : '>' ∉ name.toList ++ blanks := by
    rw [List.mem_append, not_or]
    exact ⟨fun hmem => (h.2 _ hmem).2 (by decide), fun hmem => absurd (List.all_eq_true.1 hblanks _ hmem) (by decide)⟩
  have hname : (name.toList ++ blanks).all isSpace = false := by
    obtain ⟨c, cs, hcons⟩ := List.exists_cons_of_ne_nil (mt String.toList_eq_nil_iff.1 h.1)
    have hc : isSpace c = false := (h.2 c (by simp [hcons])).1
    rw [hcons, List.cons_append, List.all_cons, hc, Bool.false_and]
  show markup? ('/' :: (name.toList ++ blanks ++ '>' :: rest)) = _
  rw [markup?, cutAt_append hplain]
  simp only [hname, Bool.false_eq_true, if_false, dropSpaces_name h hblanks]

/-! ## Reading texts -/

/-- nothing, or a tag -/
def StartsTag (xs : List Char) : Prop := ∀ c, xs.head? = some c → c = '<'

theorem startsTag_written {c : Content} (h : c.startsWithText = false) {tail : List Char} (htail : StartsTag tail) :
    StartsTag (c.written ++ tail) := by
  cases c with
  | nil => exact htail
  | text raw rest => exact nomatch h
  | aside a rest =>
    rintro c hc
    cases a <;> simpa [Content.written, Aside.written] using hc.symm
  | element tag inside blanks rest =>
    rintro c hc
    simpa [Content.written] using hc.symm

/-- **A text goes on to the next tag.** -/
theorem piece?_text {c : Char} {cs : List Char} (hspace : isSpace c = false) (hplain : '<' ∉ c :: cs) {rest : List Char}
    (hrest : StartsTag rest) : piece? (c :: cs ++ rest) = some (.text (dropSpaces (c :: cs)), rest) := by
  have hne : ∀ d ∈ c :: cs, (d != '<') = true := fun d hd => bne_iff_ne.2 fun heq => hplain (heq ▸ hd)
  have htake : rest.takeWhile (· != '<') = [] := by
    cases rest with
    | nil => rfl
    | cons d rest => simp [hrest d rfl]
  have hdrop : rest.dropWhile (· != '<') = rest := by
    cases rest with
    | nil => rfl
    | cons d rest => simp [hrest d rfl]
  have hc : c ≠ '<' := bne_iff_ne.1 (hne c List.mem_cons_self)
  rw [List.cons_append, piece?, if_neg (by simp [hspace]), if_neg hc, ← List.cons_append,
    List.takeWhile_append_of_pos hne, htake, List.append_nil,
    List.dropWhile_append_of_pos fun d hd => hne d (List.mem_cons_of_mem c hd), hdrop]

/-! ## Reading trees -/

/-- the events of the rest of a document, inside the open elements -/
def meets (openNames : List (List Char)) (cs : List Char) : Option (List Event) :=
  (pieces? cs).bind (eventsOf? openNames)

theorem meets_of_piece {cs rest : List Char} {piece : Piece} (h : piece? cs = some (piece, rest))
    (openNames : List (List Char)) :
    meets openNames cs = (pieces? rest).bind fun pieces => eventsOf? openNames (piece :: pieces) := by
  have hne : cs ≠ [] := by
    rintro rfl
    simp [piece?] at h
  rw [meets, pieces?, if_neg hne]
  split
  · rename_i hnone
    simp [h] at hnone
  · rename_i found
    obtain ⟨rfl, rfl⟩ := Prod.mk.inj (Option.some.inj (found.symm.trans h))
    rw [Option.bind_map]
    rfl

theorem meets_silent {cs rest : List Char} (h : piece? cs = some (.silent, rest)) (openNames : List (List Char)) :
    meets openNames cs = meets openNames rest :=
  meets_of_piece h openNames

theorem meets_startTag {cs rest name : List Char} (h : piece? cs = some (.startTag name, rest))
    (openNames : List (List Char)) :
    meets openNames cs = (meets (name :: openNames) rest).map (.opened (String.ofList name) :: ·) := by
  rw [meets_of_piece h, meets, Option.map_bind]
  rfl

theorem meets_endTag {cs rest name : List Char} (h : piece? cs = some (.endTag name, rest))
    (openNames : List (List Char)) : meets (name :: openNames) cs = (meets openNames rest).map (.closed :: ·) := by
  rw [meets_of_piece h, meets, Option.map_bind]
  simp only [eventsOf?, if_true]
  rfl

theorem meets_text {cs rest raw image : List Char} (h : piece? cs = some (.text raw, rest))
    (himage : unescape? none raw = some image) (openNames : List (List Char)) :
    meets openNames cs = (meets openNames rest).map (.text (String.ofList image) :: ·) := by
  rw [meets_of_piece h, meets, Option.map_bind]
  simp only [eventsOf?, himage]
  rfl

theorem meets_blanks {blanks : List Char} (h : blanks.all isSpace = true) (openNames : List (List Char))
    (rest : List Char) : meets openNames (blanks ++ rest) = meets openNames rest := by
  induction blanks with
  | nil => rfl
  | cons c blanks ih =>
    obtain ⟨hc, hblanks⟩ := Bool.and_eq_true_iff.1 (List.all_cons.symm.trans h)
    have hpiece : piece? (c :: (blanks ++ rest)) = some (.silent, blanks ++ rest) := if_pos hc
    rw [List.cons_append, meets_silent hpiece, ih hblanks]

/-- A text is met without the blanks around it, and not at all where it is blank. -/
theorem meets_shown {raw : List Char} (hplain : '<' ∉ raw) (hknown : (unescape? none (trimSpaces raw)).isSome = true)
    (openNames : List (List Char)) {rest : List Char} (hrest : StartsTag rest) :
    meets openNames (raw ++ rest) = (meets openNames rest).map ((shown raw).map Event.text ++ ·) := by
  by_cases hblank : raw.all isSpace = true
  · rw [meets_blanks hblank, shown, if_pos hblank]
    simp
  · obtain ⟨image, himage⟩ := Option.isSome_iff_exists.1 hknown
    -- the blanks in front are pieces of their own, those at the end belong to the text's piece
    have hcut := List.takeWhile_append_dropWhile (p := isSpace) (l := raw)
    have hfront : (raw.takeWhile isSpace).all isSpace = true := List.all_takeWhile
    cases hcore : raw.dropWhile isSpace with
    | nil =>
      rw [hcore, List.append_nil] at hcut
      exact absurd (hcut ▸ hfront) hblank
    | cons c cs =>
      have hspace : isSpace c = false := by
        have hfirst := List.head?_dropWhile_not isSpace raw
        rwa [hcore] at hfirst
      have hshown : shown raw = [String.ofList image] := by rw [shown, if_neg hblank, himage, Option.getD_some]
      have hcorePlain : '<' ∉ c :: cs := fun hmem => hplain ((List.dropWhile_suffix isSpace).subset (hcore ▸ hmem))
      rw [trimSpaces, hcore] at himage
      rw [hshown, ← hcut, hcore, List.append_assoc, meets_blanks hfront,
        meets_text (piece?_text hspace hcorePlain hrest) himage]
      rfl

/-- **The events of what is written are those of the tree.** -/
theorem meets_written {c : Content} (h : c.WellFormed) (openNames : List (List Char)) {tail : List Char}
    (htail : StartsTag tail) : meets openNames (c.written ++ tail) = (meets openNames tail).map (c.events ++ ·) := by
  induction c generalizing openNames tail with
  | nil => simp [Content.written, Content.events]
  | text raw rest ih =>
    obtain ⟨hplain, hknown, hapart, hrest⟩ := h
    rw [Content.written, List.append_assoc, meets_shown hplain hknown openNames (startsTag_written hapart htail),
      ih hrest openNames htail, Option.map_map]
    simp only [Content.events, List.append_assoc]
    rfl
  | aside a rest ih =>
    obtain ⟨haside, hrest⟩ := h
    rw [Content.written, List.append_assoc, meets_silent (haside.piece?_eq _), ih hrest openNames htail]
    rfl
  | element tag inside blanks rest ihInside ihRest =>
    obtain ⟨htag, hblanks, hinside, hrest⟩ := h
    have hparts : (Content.element tag inside blanks rest).written ++ tail = '<' :: (tag.written ++ '>' ::
        (inside.written ++ '<' :: '/' :: (tag.name.toList ++ blanks ++ '>' :: (rest.written ++ tail)))) := by
      simp [Content.written]
    -- what stands inside is followed by the end tag, so a text at its end goes no further
    have hend : StartsTag ('<' :: '/' :: (tag.name.toList ++ blanks ++ '>' :: (rest.written ++ tail))) := by
      rintro c ⟨⟩
      rfl
    rw [hparts, meets_startTag (htag.piece?_start _), ihInside hinside _ hend,
      meets_endTag (piece?_end htag.name hblanks _), ihRest hrest openNames htail]
    simp only [Option.map_map, String.ofList_toList, Content.events, List.cons_append, List.append_assoc]
    rfl

/-! ## Documents -/

theorem head_written {c : Content} (h : c.BlankOutside) {d : Char} (hd : c.written.head? = some d) :
    d = '<' ∨ isSpace d = true := by
  induction c with
  | nil => exact nomatch hd
  | text raw rest ih =>
    obtain ⟨hblank, hrest⟩ := h
    cases raw with
    | nil => exact ih hrest hd
    | cons e raw =>
      obtain rfl : e = d := by simpa [Content.written] using hd
      exact .inr (List.all_eq_true.1 hblank _ List.mem_cons_self)
  | aside a rest _ => cases a <;> exact .inl (by simpa [Content.written, Aside.written] using hd.symm)
  | element tag inside blanks rest _ _ => exact .inl (by simpa [Content.written] using hd.symm)

/-- **The events of a document are those of its tree.** -/
theorem events?_written {c : Content} (h : c.IsDocument) : events? (String.ofList c.written) = some c.events := by
  have hmark : Text.stripStart (String.ofList c.written) "\uFEFF" = none := by
    rw [Text.stripStart, String.toList_ofList]
    cases hwritten : c.written with
    | nil => rfl
    | cons d cs =>
      have hd : d ≠ '\uFEFF' := by
        rintro rfl
        exact absurd (head_written h.blankOutside (congrArg List.head? hwritten)) (by decide)
      simp [Text.afterStart, Ne.symm hd]
  have hmeets := meets_written h.wellFormed [] (fun _ hc => nomatch hc : StartsTag [])
  rw [List.append_nil] at hmeets
  rw [events?, hmark, Option.getD_none, String.toList_ofList]
  refine hmeets.trans ?_
  simp [meets, pieces?, eventsOf?]

end CodeSurvey.Xml
