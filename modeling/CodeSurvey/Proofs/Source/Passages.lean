/-
What the scan for declarations reads in two versions of a text.

A `Passage` is a lexeme of both versions, or a literal with a content of its own in each. What the scan looks for are
code characters, so the parts of a declaration can be told from the passages without reading a content: its name, the
header before it, the closing parenthesis and the end. For each of them there is a definition on passages that follows
the one on bytes, and a lemma that says what the latter finds in the masked copy of a version (`nameAtEnd_back`,
`headerLength_back`, `closing_shown`, `ending_shown`).

What stands before a parenthesis is read backwards, so there the passages are given last first, and `back` shows them.
-/
import CodeSurvey.Proofs.Pattern.Versions
import CodeSurvey.Proofs.Source.ClassMethods

namespace CodeSurvey.Source

open Text

/-! ## Passages -/

/-- a lexeme of both versions, or a literal with a content of its own in each -/
inductive Passage where
  | kept (l : Lexeme)
  | reworded (k : Literal) (content : Version → List (Inner k))

namespace Passage

def lexeme (v : Version) : Passage → Lexeme
  | kept l => l
  | reworded k content => .literal k (content v)

/-- the passage is a code character of the class -/
def Is (x : Passage) (q : Char → Bool) : Bool :=
  match x with
  | kept l => l.Is q
  | reworded _ _ => false

def isKept : Passage → Bool
  | kept _ => true
  | reworded _ _ => false

/-- what the passages write -/
def text (v : Version) (xs : List Passage) : String := textOf (xs.map (lexeme v))

def bytes (v : Version) (xs : List Passage) : Bytes := bytesOf (xs.map (lexeme v))

/-- the passages in the masked copy -/
def shown (v : Version) (xs : List Passage) : Bytes := shownOf (xs.map (lexeme v))

/-- passages, last first, in the masked copy, last byte first -/
def back (v : Version) (xs : List Passage) : Bytes := (shown v xs.reverse).reverse

variable (v : Version)

@[simp]
theorem is_lexeme (x : Passage) (q : Char → Bool) : (x.lexeme v).Is q = x.Is q := by
  cases x <;> rfl

@[simp]
theorem shown_cons (x : Passage) (xs : List Passage) : shown v (x :: xs) = (x.lexeme v).shown ++ shown v xs := by
  rw [shown, List.map_cons, shownOf_cons, shown]

@[simp]
theorem shown_append (xs ys : List Passage) : shown v (xs ++ ys) = shown v xs ++ shown v ys := by
  rw [shown, List.map_append, shownOf_append, shown, shown]

theorem back_cons (x : Passage) (xs : List Passage) : back v (x :: xs) = (x.lexeme v).shown.reverse ++ back v xs := by
  simp [back, shown]

theorem back_append (xs ys : List Passage) : back v (xs ++ ys) = back v xs ++ back v ys := by
  simp [back]

theorem reverse_back (xs : List Passage) : (back v xs).reverse = shown v xs.reverse := List.reverse_reverse _

theorem length_back (xs : List Passage) : (back v xs).length = (shown v xs.reverse).length := List.length_reverse

/-- the length of what is read backwards, up to a place in it -/
theorem length_back_append (xs ys : List Passage) :
    (back v (xs ++ ys)).length = (back v ys).length + (shown v xs.reverse).length := by
  rw [back_append, List.length_append, length_back, Nat.add_comm]

theorem is_or (x : Passage) (q r : Char → Bool) : x.Is (fun c => q c || r c) = (x.Is q || x.Is r) := by
  cases x with
  | kept l => cases l <;> rfl
  | reworded k content => rfl

theorem isKept_of_is {x : Passage} {q : Char → Bool} (h : x.Is q = true) : x.isKept = true := by
  cases x with
  | kept l => rfl
  | reworded k content => exact h

/-- kept passages are the same in both versions -/
theorem map_lexeme_of_kept {xs : List Passage} (h : ∀ x ∈ xs, x.isKept = true) (v w : Version) :
    xs.map (lexeme v) = xs.map (lexeme w) := by
  refine List.map_congr_left fun x hx => ?_
  cases x with
  | kept l => rfl
  | reworded k content => exact absurd (h _ hx) Bool.false_ne_true

end Passage

open Passage (shown back)

/-! ## Bytes of a passage -/

/-- the byte is in the classes that the passage is in -/
def Tells (b : UInt8) (x : Passage) : Prop :=
  ∀ {p : UInt8 → Bool} {q : Char → Bool}, Agrees p q → (∀ k : Literal, p k.quote = false) → p b = x.Is q

theorem first_shown (v : Version) (x : Passage) : ∃ b bs, (x.lexeme v).shown = b :: bs ∧ Tells b x := by
  unfold Tells
  simp only [← x.is_lexeme v]
  cases x.lexeme v with
  | code c hc =>
    obtain ⟨b, bs, hform, -⟩ := utf8EncodeChar_cons c
    exact ⟨b, bs, hform, fun h _ => h c b (hform ▸ List.mem_cons_self)⟩
  | literal k content => exact ⟨k.quote, _, rfl, fun _ hquote => hquote k⟩

theorem last_shown (v : Version) (x : Passage) : ∃ b bs, (x.lexeme v).shown.reverse = b :: bs ∧ Tells b x := by
  unfold Tells
  simp only [← x.is_lexeme v]
  cases x.lexeme v with
  | code c hc =>
    cases hrev : (Lexeme.code c hc).shown.reverse with
    | nil => exact absurd (List.reverse_eq_nil_iff.1 hrev) (shown_ne_nil _)
    | cons b bs => exact ⟨b, bs, rfl, fun h _ => h c b (List.mem_reverse.1 (hrev ▸ List.mem_cons_self))⟩
  | literal k content =>
    have hrev : (Lexeme.literal k content).shown.reverse =
        k.quote :: (k.quote :: List.replicate (encodeChars (content.flatMap Inner.chars)).length space).reverse := by
      rw [Lexeme.shown, List.reverse_append]
      rfl
    exact ⟨_, _, hrev, fun _ hquote => hquote k⟩

theorem splitWhile_back {p : UInt8 → Bool} {q : Char → Bool} (h : Agrees p q)
    (hquote : ∀ k : Literal, p k.quote = false) (v : Version) (xs : List Passage) :
    (back v xs).takeWhile p = back v (xs.takeWhile (Passage.Is · q)) ∧
      (back v xs).dropWhile p = back v (xs.dropWhile (Passage.Is · q)) := by
  induction xs with
  | nil => exact ⟨rfl, rfl⟩
  | cons x xs ih =>
    rw [Passage.back_cons]
    by_cases hx : x.Is q = true
    · have hall : ∀ b ∈ (x.lexeme v).shown.reverse, p b = true := fun b hb =>
        h.mem_shown (by rw [x.is_lexeme, hx]) (List.mem_reverse.1 hb)
      rw [List.takeWhile_append_of_pos hall, List.dropWhile_append_of_pos hall, ih.1, ih.2, List.takeWhile_cons,
        List.dropWhile_cons, if_pos hx, if_pos hx, Passage.back_cons]
      exact ⟨rfl, rfl⟩
    · obtain ⟨b, bs, hshown, hb⟩ := last_shown v x
      have hb : ¬ p b = true := by rwa [hb h hquote]
      rw [hshown, List.cons_append, List.takeWhile_cons_of_neg hb, List.dropWhile_cons_of_neg hb, List.takeWhile_cons,
        List.dropWhile_cons, if_neg hx, if_neg hx, Passage.back_cons, hshown]
      exact ⟨rfl, rfl⟩

/-- a blank as the scan knows it -/
def isBlankChar (c : Char) : Bool := [' ', '\t', '\n', '\x0c', '\r'].contains c

theorem agrees_blank : Agrees isBlankByte isBlankChar := by
  refine agrees_of false (by decide +kernel) (by decide +kernel) fun c hc => ?_
  rw [Bool.eq_false_iff]
  intro hblank
  rw [isBlankChar, List.contains_iff_mem] at hblank
  simp only [List.mem_cons, List.not_mem_nil, or_false] at hblank
  rcases hblank with rfl | rfl | rfl | rfl | rfl <;> exact absurd hc (by decide)

theorem blank_quote (k : Literal) : isBlankByte k.quote = false := by cases k <;> rfl

theorem shows_stop : Shows isStopByte isStop := ⟨agrees_stop, rfl, fun k => by cases k <;> rfl⟩

theorem shows_at : Shows (· == atSign) (· == '@') :=
  shows_delimiter (d := '@') (by decide) (by decide) fun k => by cases k <;> decide

/-- a delimiter is shown as its byte -/
theorem shown_delimiter {x : Passage} {d : Char} {b : UInt8} (h : x.Is (· == d) = true)
    (hd : String.utf8EncodeChar d = [b]) (v : Version) : (x.lexeme v).shown = [b] :=
  shown_of_is (by rw [x.is_lexeme, h]) hd

/-! ## Headers and names -/

/-- the passages before a name, last first, that belong to its header -/
def headerPart (depth : Nat) : List Passage → List Passage
  | [] => []
  | x :: before =>
    if x.Is (· == ')') then x :: headerPart (depth + 1) before
    else if x.Is (· == '(') then x :: headerPart (depth - 1) before
    else if x.Is isStop && depth = 0 then []
    else x :: headerPart depth before

theorem headerPart_isFront (depth : Nat) (xs : List Passage) : headerPart depth xs <+: xs := by
  induction xs generalizing depth with
  | nil => exact List.prefix_rfl
  | cons x xs ih =>
    rw [headerPart]
    split
    · exact (List.prefix_cons_inj x).2 (ih _)
    · split
      · exact (List.prefix_cons_inj x).2 (ih _)
      · split
        · exact List.nil_prefix
        · exact (List.prefix_cons_inj x).2 (ih _)

theorem headerLength_back (v : Version) (depth : Nat) (xs : List Passage) :
    headerLength depth (back v xs) = (back v (headerPart depth xs)).length := by
  induction xs generalizing depth with
  | nil => rfl
  | cons x xs ih =>
    have hlength : (back v (x :: headerPart depth xs)).length =
        (back v (headerPart depth xs)).length + (x.lexeme v).shown.reverse.length := by
      rw [Passage.back_cons, List.length_append, Nat.add_comm]
    rw [headerPart, Passage.back_cons]
    by_cases hclose : x.Is (· == ')') = true
    · rw [if_pos hclose, Passage.back_cons, shown_delimiter hclose parens.closer_form]
      show headerLength (depth + 1) (back v xs) + 1 = _
      rw [ih]
      simp [Nat.add_comm]
    by_cases hopen : x.Is (· == '(') = true
    · rw [if_neg hclose, if_pos hopen, Passage.back_cons, shown_delimiter hopen parens.opening_form]
      show headerLength (depth - 1) (back v xs) + 1 = _
      rw [ih]
      simp [Nat.add_comm]
    rw [if_neg hclose, if_neg hopen]
    have hparen : ∀ b ∈ (x.lexeme v).shown.reverse, isParenByte b = false := by
      intro b hb
      have hboth : x.Is isParen = (x.Is (· == '(') || x.Is (· == ')')) := x.is_or _ _
      rw [shows_paren.mem_shown (List.mem_reverse.1 hb), x.is_lexeme, hboth, Bool.or_eq_false_iff]
      exact ⟨Bool.eq_false_iff.2 hopen, Bool.eq_false_iff.2 hclose⟩
    by_cases hstop : x.Is isStop = true
    · cases depth with
      | zero =>
        obtain ⟨b, bs, hshown, hb⟩ := last_shown v x
        have hb : isStopByte b = true := (hb agrees_stop shows_stop.quote).trans hstop
        rw [if_pos (by simp [hstop]), headerLength_atStop ⟨b, by rw [hshown]; rfl, hb⟩]
        rfl
      | succ depth => rw [if_neg (by simp), headerLength_inside hparen, hlength, ih]
    · have hpass : ∀ b ∈ (x.lexeme v).shown.reverse, isParenByte b = false ∧ isStopByte b = false := by
        intro b hb
        refine ⟨hparen b hb, ?_⟩
        rw [shows_stop.mem_shown (List.mem_reverse.1 hb), x.is_lexeme]
        exact Bool.eq_false_iff.2 hstop
      rw [if_neg (by simp [hstop]), headerLength_pass hpass, hlength, ih]

/-- the identifier that the passages, last first, end with -/
def lastName? (before : List Passage) : Option (List Passage) :=
  let name := (before.takeWhile (Passage.Is · isIdentChar)).reverse
  match name.head? with
  | none => none
  | some first =>
    if first.Is isAsciiDigit ||
        ((before.dropWhile (Passage.Is · isIdentChar)).head?.any (Passage.Is · (· == '@'))) then none
    else some name

theorem of_lastName {before name : List Passage} (h : lastName? before = some name) :
    name = (before.takeWhile (Passage.Is · isIdentChar)).reverse := by
  unfold lastName? at h
  dsimp only at h
  split at h
  · exact absurd h (Option.some_ne_none name).symm
  · split at h
    · exact absurd h (Option.some_ne_none name).symm
    · exact (Option.some.inj h).symm

/-- a name is made of identifier characters -/
theorem is_of_lastName {before name : List Passage} (h : lastName? before = some name) :
    ∀ x ∈ name, x.Is isIdentChar = true := by
  intro x hx
  rw [of_lastName h, List.mem_reverse] at hx
  exact List.mem_takeWhile_imp (p := (Passage.Is · isIdentChar)) hx

/-- a look at the last passage is a look at the last byte -/
theorem head?_back {p : UInt8 → Bool} {q : Char → Bool} (h : Agrees p q) (hquote : ∀ k : Literal, p k.quote = false)
    (v : Version) (xs : List Passage) : (back v xs).head?.any p = xs.head?.any (Passage.Is · q) := by
  cases xs with
  | nil => rfl
  | cons x xs =>
    obtain ⟨b, bs, hshown, hb⟩ := last_shown v x
    rw [Passage.back_cons, hshown]
    exact hb h hquote

theorem nameAtEnd_back (v : Version) (xs : List Passage) : nameAtEnd (back v xs) = (lastName? xs).map (shown v) := by
  obtain ⟨htake, hdrop⟩ := splitWhile_back agrees_ident shows_ident.quote v xs
  have hmark : (decide ((back v (xs.dropWhile (Passage.Is · isIdentChar))).head? = some atSign)) =
      (xs.dropWhile (Passage.Is · isIdentChar)).head?.any (Passage.Is · (· == '@')) := by
    rw [← head?_back shows_at.agrees shows_at.quote v]
    cases (back v (xs.dropWhile (Passage.Is · isIdentChar))).head? <;> simp [beq_eq_decide]
  unfold nameAtEnd lastName?
  simp only [htake, hdrop, Passage.reverse_back]
  cases hname : (xs.takeWhile (Passage.Is · isIdentChar)).reverse with
  | nil => rfl
  | cons x name =>
    obtain ⟨b, bs, hshown, hb⟩ := first_shown v x
    have hhead : (shown v (x :: name)).head? = some b := by rw [Passage.shown_cons, hshown]; rfl
    simp only [hhead, List.head?_cons, hb agrees_digit shows_digit.quote, ← hmark, Bool.or_eq_true, decide_eq_true_eq]
    split <;> rfl

/-- the text of passages that are the same in both versions -/
def word (xs : List Passage) : String := Passage.text .old xs

/-- code of a class is shown as it is -/
theorem shown_eq_encode {xs : List Passage} {q : Char → Bool} (h : ∀ x ∈ xs, x.Is q = true) (v : Version) :
    shown v xs = encode (word xs) := by
  have hkept := Passage.map_lexeme_of_kept (fun x hx => Passage.isKept_of_is (h x hx)) v .old
  rw [word, Passage.text, encode_textOf, shown, hkept]
  refine shownOf_eq_bytesOf (q := q) fun l hl => ?_
  obtain ⟨x, hx, rfl⟩ := List.mem_map.1 hl
  rw [x.is_lexeme, h x hx]

theorem contains_shown {name : List Passage} (h : ∀ x ∈ name, x.Is isIdentChar = true) (v : Version)
    (words : List String) : (words.map encode).contains (shown v name) = words.contains (word name) := by
  rw [shown_eq_encode h v, Bool.eq_iff_iff, List.contains_iff_mem, List.contains_iff_mem, List.mem_map]
  exact ⟨fun ⟨s, hs, heq⟩ => encode_injective heq ▸ hs, fun h => ⟨_, h, rfl⟩⟩

/-- what stands before a method's name, last first: a type, and not the word that creates an object -/
def isAfterType (before : List Passage) : Bool :=
  let before := before.dropWhile (Passage.Is · isBlankChar)
  match before.head? with
  | none => false
  | some x => x.Is isTypeEnd && word (before.takeWhile (Passage.Is · isIdentChar)).reverse != "new"

theorem followsType_back (v : Version) (xs : List Passage) : followsType (back v xs) = isAfterType xs := by
  have hdrop := (splitWhile_back agrees_blank blank_quote v xs).2
  unfold followsType isAfterType
  simp only [hdrop]
  generalize xs.dropWhile (Passage.Is · isBlankChar) = ys
  have htake := (splitWhile_back agrees_ident shows_ident.quote v ys).1
  have hword : ((back v ys).takeWhile isIdentByte).reverse =
      encode (word (ys.takeWhile (Passage.Is · isIdentChar)).reverse) := by
    rw [htake, Passage.reverse_back]
    refine shown_eq_encode (q := isIdentChar) (fun x hx => ?_) v
    exact List.mem_takeWhile_imp (p := (Passage.Is · isIdentChar)) (List.mem_reverse.1 hx)
  have hnew : ∀ s t : String, (encode s != encode t) = (s != t) := by
    intro s t
    rw [Bool.eq_iff_iff, bne_iff_ne, bne_iff_ne]
    exact not_congr ⟨encode_injective, congrArg encode⟩
  rw [hword, hnew]
  cases ys with
  | nil => rfl
  | cons x ys =>
    obtain ⟨b, bs, hshown, hb⟩ := last_shown v x
    have hhead : (back v (x :: ys)).head? = some b := by rw [Passage.back_cons, hshown]; rfl
    simp only [hhead, hb agrees_typeEnd shows_typeEnd.quote, List.head?_cons]

/-! ## Delimiters and ends -/

/-- passages up to a closing delimiter, the delimiter, and the passages behind it -/
structure Cut where
  inside : List Passage
  close : Passage
  after : List Passage

/-- the passage stands before what is cut -/
def Cut.behind (x : Passage) (c : Cut) : Cut := { c with inside := x :: c.inside }

/-- cuts at the delimiter that closes what is open, `depth` other delimiters being open within it -/
def cut? (opening closer : Char) (depth : Nat) : List Passage → Option Cut
  | [] => none
  | x :: rest =>
    if x.Is (· == opening) then (cut? opening closer (depth + 1) rest).map (.behind x)
    else if x.Is (· == closer) then
      if depth = 0 then some ⟨[], x, rest⟩ else (cut? opening closer (depth - 1) rest).map (.behind x)
    else (cut? opening closer depth rest).map (.behind x)

theorem of_cut {opening closer : Char} {depth : Nat} {rest : List Passage} {c : Cut}
    (h : cut? opening closer depth rest = some c) :
    rest = c.inside ++ c.close :: c.after ∧ c.close.Is (· == closer) = true := by
  have hbehind : ∀ {d x xs} {c : Cut}, (cut? opening closer d xs).map (.behind x) = some c →
      (∀ c', cut? opening closer d xs = some c' →
        xs = c'.inside ++ c'.close :: c'.after ∧ c'.close.Is (· == closer) = true) →
      x :: xs = c.inside ++ c.close :: c.after ∧ c.close.Is (· == closer) = true := by
    intro d x xs c hmap ih
    obtain ⟨c', hc', rfl⟩ := Option.map_eq_some_iff.1 hmap
    obtain ⟨hxs, hclose⟩ := ih c' hc'
    exact ⟨by rw [hxs]; rfl, hclose⟩
  induction rest generalizing depth c with
  | nil => exact absurd h (Option.some_ne_none c).symm
  | cons x rest ih =>
    rw [cut?] at h
    split at h
    · exact hbehind h fun c' => ih
    · split at h
      · rename_i hclose
        split at h
        · obtain rfl := Option.some.inj h
          exact ⟨rfl, hclose⟩
        · exact hbehind h fun c' => ih
      · exact hbehind h fun c' => ih

theorem closing_shown {opening closer : Char} {o c : UInt8} (hd : Delimiters opening closer o c) (v : Version)
    (depth : Nat) (rest : List Passage) :
    closing o c (depth + 1) (shown v rest) =
      (cut? opening closer depth rest).map fun cut => (shown v cut.inside).length := by
  have hbehind : ∀ (x : Passage) (r : Option Cut),
      (r.map (Cut.behind x)).map (fun cut => (shown v cut.inside).length) =
      (r.map fun cut => (shown v cut.inside).length).map (· + (x.lexeme v).shown.length) := by
    intro x r
    cases r with
    | none => rfl
    | some cut => simp [Cut.behind, Nat.add_comm]
  induction rest generalizing depth with
  | nil => rfl
  | cons x rest ih =>
    rw [Passage.shown_cons, cut?]
    by_cases hopen : x.Is (· == opening) = true
    · rw [if_pos hopen, hbehind, ← ih, shown_delimiter hopen hd.opening_form, List.singleton_append, closing_open]
      rfl
    rw [if_neg hopen]
    by_cases hclose : x.Is (· == closer) = true
    · rw [if_pos hclose, shown_delimiter hclose hd.closer_form, List.singleton_append]
      cases depth with
      | zero =>
        rw [closing_last hd.ne]
        rfl
      | succ d =>
        rw [closing_close hd.ne, ih, if_neg (Nat.succ_ne_zero d), hbehind, shown_delimiter hclose hd.closer_form]
        rfl
    · have hpass : ∀ b ∈ (x.lexeme v).shown, b ≠ o ∧ b ≠ c := by
        intro b hb
        have ho := (hd.opens.mem_shown hb).trans (x.is_lexeme v _)
        have hc := (hd.closes.mem_shown hb).trans (x.is_lexeme v _)
        rw [Bool.eq_false_iff.2 hopen] at ho
        rw [Bool.eq_false_iff.2 hclose] at hc
        exact ⟨beq_eq_false_iff_ne.1 ho, beq_eq_false_iff_ne.1 hc⟩
      rw [if_neg hclose, hbehind, ← ih, closing_pass hpass]

/-- behind the closing delimiter the bytes are those of the passages there -/
theorem drop_closing {opening closer : Char} {o b : UInt8} (hd : Delimiters opening closer o b) {rest : List Passage}
    {c : Cut} (h : cut? opening closer 0 rest = some c) (v : Version) :
    (shown v rest).drop ((shown v c.inside).length + 1) = shown v c.after := by
  obtain ⟨hrest, hclose⟩ := of_cut h
  rw [hrest, Passage.shown_append, Passage.shown_cons, shown_delimiter hclose hd.closer_form, ← List.drop_drop,
    List.drop_left]
  rfl

/-- what ends a declaration: a throws clause, and a body or a semicolon -/
structure Ending where
  clause : List Passage
  last : List Passage
  isBlock : Bool

def ending? : List Passage → Option Ending
  | [] => none
  | x :: rest =>
    if x.Is (· == '{') then (cut? '{' '}' 0 rest).map fun c => ⟨[], x :: c.inside ++ [c.close], true⟩
    else if x.Is (· == ';') then some ⟨[], [x], false⟩
    else if x.Is isClauseChar then (ending? rest).map fun e => { e with clause := x :: e.clause }
    else none

theorem of_ending {rest : List Passage} {e : Ending} (h : ending? rest = some e) :
    (∃ after, rest = e.clause ++ e.last ++ after) ∧ e.last ≠ [] ∧
      (e.isBlock = false → ∃ x, e.last = [x] ∧ x.Is (· == ';') = true) := by
  induction rest generalizing e with
  | nil => exact absurd h (Option.some_ne_none e).symm
  | cons x rest ih =>
    rw [ending?] at h
    split at h
    · obtain ⟨c, hc, rfl⟩ := Option.map_eq_some_iff.1 h
      exact ⟨⟨c.after, by rw [(of_cut hc).1]; simp⟩, List.cons_ne_nil _ _, fun hblock => Bool.noConfusion hblock⟩
    · split at h
      · rename_i hsemicolon
        obtain rfl := Option.some.inj h
        exact ⟨⟨rest, rfl⟩, List.cons_ne_nil _ _, fun _ => ⟨x, rfl, hsemicolon⟩⟩
      · split at h
        · obtain ⟨e', he', rfl⟩ := Option.map_eq_some_iff.1 h
          obtain ⟨⟨after, hafter⟩, hlast⟩ := ih he'
          exact ⟨⟨after, by rw [hafter]; rfl⟩, hlast⟩
        · exact absurd h (Option.some_ne_none e).symm

theorem shows_semicolon : Shows (· == semicolon) (· == ';') :=
  shows_delimiter (d := ';') (by decide) (by decide) fun k => by cases k <;> decide

theorem clause_quote (k : Literal) : fitsThrows k.quote = false := by cases k <;> rfl

theorem ending_shown (v : Version) (rest : List Passage) :
    ending (shown v rest) = (ending? rest).map fun e =>
      ((shown v e.clause).length, if e.isBlock then some (shown v e.last).length else none) := by
  induction rest with
  | nil => rfl
  | cons x rest ih =>
    rw [Passage.shown_cons, ending?]
    by_cases hopen : x.Is (· == '{') = true
    · have hshown := shown_delimiter hopen braces.opening_form v
      rw [if_pos hopen, hshown, List.singleton_append, ending, if_pos rfl, closing_open, closing_shown braces]
      cases hcut : cut? '{' '}' 0 rest with
      | none => rfl
      | some c =>
        have hclose := shown_delimiter (of_cut hcut).2 braces.closer_form v
        simp [hshown, hclose, shown, Nat.add_comm]
    by_cases hstop : x.Is (· == ';') = true
    · have hshown := shown_delimiter hstop (b := semicolon) (by decide) v
      rw [if_neg hopen, if_pos hstop, hshown, List.singleton_append, ending, if_neg (by decide), if_pos rfl]
      rfl
    rw [if_neg hopen, if_neg hstop]
    by_cases hclause : x.Is isClauseChar = true
    · have hfits : ∀ b ∈ (x.lexeme v).shown, fitsThrows b = true := fun b hb =>
        agrees_clause.mem_shown (by rw [x.is_lexeme, hclause]) hb
      rw [if_pos hclause, ending_clause hfits, ih]
      cases ending? rest with
      | none => rfl
      | some e => simp [Nat.add_comm]
    · obtain ⟨b, bs, hshown, hb⟩ := first_shown v x
      have hbrace : ¬ b = braceOpen := fun h => hopen (by rw [← hb braces.opens.agrees braces.opens.quote, h]; rfl)
      have hsemicolon : ¬ b = semicolon := fun h =>
        hstop (by rw [← hb shows_semicolon.agrees shows_semicolon.quote, h]; rfl)
      have hfits : ¬ fitsThrows b = true := fun h => hclause (by rw [← hb agrees_clause clause_quote, h])
      rw [if_neg hclause, hshown, List.cons_append, ending, if_neg hbrace, if_neg hsemicolon, if_neg hfits]
      rfl

end CodeSurvey.Source
