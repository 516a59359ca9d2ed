/-
Where declarations lie in any text.

Nothing is asked of the text: it may be unbalanced, or no source at all. `Parts` are the parts of a declaration in
masked bytes, in the order in which they stand; `declarationAt_eq_some` is all that the scan knows of them when it finds
a declaration at a parenthesis. The scan goes on behind a declaration (`declarationsFrom_pairwise`, by induction over
the bytes), and the last byte of a declaration is a semicolon or a closing brace, so no later name can reach back to it,
and a later header only past a closing parenthesis without its opening one (`FoundAt.precedes`).

`declarations_apart`: the declarations of a text lie apart and in order, from their names to their last bytes, each with
the shortest parameters and the shortest body that balance.
-/
import Mathlib.Data.List.Pairwise
import CodeSurvey.Proofs.Source.Nesting

namespace CodeSurvey.Source

open Text

/-! ## Spans -/

theorem Span.of_append (front part back : Bytes) {s : Span} (hstart : s.start = front.length)
    (hstop : s.stop = front.length + part.length) : s.of (front ++ part ++ back) = part := by
  rw [Span.of, hstart, hstop, Nat.add_sub_cancel_left, List.append_assoc, List.drop_left, List.take_left]

theorem length_maskFrom (m : MaskMode) (bs : Bytes) : (maskFrom m bs).length = bs.length := by
  induction bs generalizing m with
  | nil => rfl
  | cons b bs ih => rw [maskFrom, List.length_cons, List.length_cons, ih]

theorem length_mask (bs : Bytes) : (mask bs).length = bs.length := length_maskFrom .code bs

/-- what the masked copy shows other than a space stands in the text -/
theorem of_getElem?_maskFrom {m : MaskMode} {bs : Bytes} {i : Nat} {b : UInt8} (h : (maskFrom m bs)[i]? = some b)
    (hb : b ≠ space) : bs[i]? = some b := by
  induction bs generalizing m i with
  | nil => exact h
  | cons x bs ih =>
    cases i with
    | succ i => exact ih h
    | zero =>
      have hshown : m.shown x = b := Option.some.inj h
      cases m with
      | code => exact congrArg some hshown
      | inside k =>
        rw [MaskMode.shown] at hshown
        split at hshown
        · exact congrArg some hshown
        · exact absurd hshown.symm hb
      | escaped k => exact absurd hshown.symm hb

theorem Span.getElem?_of_mask {bs : Bytes} {s : Span} {i : Nat} {b : UInt8} (h : (s.of (mask bs))[i]? = some b)
    (hb : b ≠ space) : (s.of bs)[i]? = some b := by
  rw [Span.of, List.getElem?_take] at h ⊢
  split at h
  · rename_i hi
    rw [List.getElem?_drop] at h
    rw [if_pos hi, List.getElem?_drop]
    exact of_getElem?_maskFrom h hb
  · exact absurd h (Option.some_ne_none b).symm

theorem Span.length_of_mask (bs : Bytes) (s : Span) : (s.of (mask bs)).length = (s.of bs).length := by
  rw [Span.of, Span.of, List.length_take, List.length_take, List.length_drop, List.length_drop, length_mask]

/-- the ends of a span in the text, where the masked copy shows them other than as spaces -/
theorem Span.ends_of_mask {bs : Bytes} {s : Span} {b : UInt8} (hb : b ≠ space) :
    ((s.of (mask bs)).head? = some b → (s.of bs).head? = some b) ∧
      ((s.of (mask bs)).getLast? = some b → (s.of bs).getLast? = some b) := by
  refine ⟨fun h => ?_, fun h => ?_⟩
  · rw [List.head?_eq_getElem?] at h ⊢
    exact Span.getElem?_of_mask h hb
  · rw [List.getLast?_eq_getElem?, Span.length_of_mask] at h
    rw [List.getLast?_eq_getElem?]
    exact Span.getElem?_of_mask h hb

/-! ## The parts of a declaration -/

/-- a declaration in masked bytes: what stands before it, its parts in order, and what stands behind it -/
structure Parts where
  lead : Bytes
  header : Bytes
  name : Bytes
  gap : Bytes
  params : Bytes
  clause : Bytes
  last : Bytes
  isBlock : Bool
  after : Bytes

namespace Parts

/-- the bytes up to the parenthesis -/
def front (p : Parts) : Bytes := p.lead ++ p.header ++ (p.name ++ p.gap)

/-- the bytes behind the parenthesis -/
def back (p : Parts) : Bytes := p.params ++ parenClose :: (p.clause ++ p.last ++ p.after)

def declaration (p : Parts) : Declaration :=
  let name := p.lead.length + p.header.length
  let paren := name + p.name.length + p.gap.length
  let close := paren + 1 + p.params.length
  let last := close + 1 + p.clause.length
  { name := ⟨name, name + p.name.length⟩
    header := ⟨p.lead.length, name⟩
    params := ⟨paren + 1, close⟩
    body := if p.isBlock then some ⟨last, last + p.last.length⟩ else none
    last := last + p.last.length - 1 }

/-- what the scan makes sure of -/
structure Sound (p : Parts) : Prop where
  name_ne : p.name ≠ []
  name_ident : ∀ b ∈ p.name, isIdentByte b = true
  gap_blank : ∀ b ∈ p.gap, isBlankByte b = true
  header_length : p.header.length = headerLength 0 (p.lead ++ p.header).reverse
  params_closed : Encloses parenOpen parenClose (parenOpen :: p.params ++ [parenClose])
  last_closed : p.isBlock = false ∧ p.last = [semicolon] ∨ p.isBlock = true ∧ Encloses braceOpen braceClose p.last

end Parts

theorem headerLength_le (depth : Nat) (before : Bytes) : headerLength depth before ≤ before.length := by
  induction before generalizing depth with
  | nil => exact Nat.le_refl 0
  | cons b before ih =>
    rw [headerLength, List.length_cons]
    split
    · exact Nat.succ_le_succ (ih _)
    · split
      · exact Nat.succ_le_succ (ih _)
      · split
        · exact Nat.zero_le _
        · exact Nat.succ_le_succ (ih _)

/-- the bytes before a name, cut where its header starts -/
theorem exists_header (before : Bytes) :
    ∃ lead header, before.reverse = lead ++ header ∧ header.length = headerLength 0 before := by
  refine ⟨_, _, (List.take_append_drop (before.length - headerLength 0 before) before.reverse).symm, ?_⟩
  have hle := headerLength_le 0 before
  rw [List.length_drop, List.length_reverse]
  omega

theorem of_nameAtEnd {before name : Bytes} (h : nameAtEnd before = some name) :
    name = (before.takeWhile isIdentByte).reverse ∧ name ≠ [] := by
  unfold nameAtEnd at h
  dsimp only at h
  split at h
  · exact absurd h (Option.some_ne_none name).symm
  · rename_i first hfirst
    split at h
    · exact absurd h (Option.some_ne_none name).symm
    · obtain rfl := Option.some.inj h
      refine ⟨rfl, fun hnil => ?_⟩
      rw [hnil] at hfirst
      exact absurd hfirst (Option.some_ne_none first).symm

theorem length_word (before : Bytes) :
    before.length = (before.dropWhile isIdentByte).length + (before.takeWhile isIdentByte).length := by
  have hlength := congrArg List.length (List.takeWhile_append_dropWhile (p := isIdentByte) (l := before))
  rw [List.length_append] at hlength
  omega

/-- the bytes before a parenthesis, cut before the name and before the gap behind it -/
theorem reverse_eq_name (before : Bytes) :
    before.reverse = ((before.dropWhile isBlankByte).dropWhile isIdentByte).reverse ++
      (((before.dropWhile isBlankByte).takeWhile isIdentByte).reverse ++ (before.takeWhile isBlankByte).reverse) := by
  rw [← List.append_assoc, ← List.reverse_append, List.takeWhile_append_dropWhile, ← List.reverse_append,
    List.takeWhile_append_dropWhile]

/-- **What the scan knows of a declaration that it finds.** -/
theorem declarationAt_eq_some {before rest : Bytes} {d : Declaration} (h : declarationAt before rest = some d) :
    ∃ p : Parts, p.Sound ∧ p.front = before.reverse ∧ p.back = rest ∧ p.declaration = d := by
  unfold declarationAt at h
  dsimp only at h
  have hbefore := reverse_eq_name before
  have hblank : ∀ b ∈ (before.takeWhile isBlankByte).reverse, isBlankByte b = true := fun b hb =>
    List.mem_takeWhile_imp (p := isBlankByte) (List.mem_reverse.1 hb)
  generalize (before.takeWhile isBlankByte).reverse = gap at hbefore hblank
  generalize before.dropWhile isBlankByte = upToName at h hbefore
  obtain ⟨name, hname, h⟩ := Option.bind_eq_some_iff.1 h
  obtain ⟨hname, hne⟩ := of_nameAtEnd hname
  have hident : ∀ b ∈ name, isIdentByte b = true := fun b hb =>
    List.mem_takeWhile_imp (p := isIdentByte) (List.mem_reverse.1 (hname ▸ hb))
  have hupToName : upToName.length = (upToName.dropWhile isIdentByte).length + name.length := by
    rw [hname, List.length_reverse]
    exact length_word upToName
  rw [← hname] at hbefore
  generalize upToName.dropWhile isIdentByte = beforeName at h hbefore hupToName
  split at h
  · exact absurd h (Option.some_ne_none d).symm
  obtain ⟨n, hclosing, h⟩ := Option.bind_eq_some_iff.1 h
  obtain ⟨params, tail, rfl, rfl, hparams⟩ := closing_encloses (by decide) hclosing
  rw [← List.drop_drop, List.drop_left, List.drop_one, List.tail_cons] at h
  obtain ⟨⟨gapLength, body⟩, hending, rfl⟩ := Option.map_eq_some_iff.1 h
  obtain ⟨clause, last, after, rfl, rfl, hlast⟩ := ending_parts hending
  obtain ⟨lead, header, hlead, hheader⟩ := exists_header beforeName
  have hleadLength : beforeName.length = lead.length + header.length := by
    rw [← List.length_reverse, hlead, List.length_append]
  have hbeforeLength : before.length = beforeName.length + (name.length + gap.length) := by
    rw [← List.length_reverse, hbefore, List.length_append, List.length_reverse, List.length_append]
  refine ⟨⟨lead, header, name, gap, params, clause, last, body.isSome, after⟩,
    ⟨hne, hident, hblank, ?_, hparams, ?_⟩, ?_, rfl, ?_⟩
  case refine_1 => rw [← hlead, List.reverse_reverse, hheader]
  case refine_2 =>
    rcases hlast with ⟨rfl, hlast⟩ | ⟨rfl, hlast⟩
    · exact .inl ⟨rfl, hlast⟩
    · exact .inr ⟨rfl, hlast⟩
  case refine_3 => rw [Parts.front, ← hlead, hbefore]
  case refine_4 =>
    simp only [Parts.declaration, Declaration.mk.injEq, Span.mk.injEq]
    rcases hlast with ⟨rfl, hlast⟩ | ⟨rfl, hlast⟩
    · simp only [Option.isSome_none, Bool.false_eq_true, if_false, Option.map_none, hlast, List.length_singleton,
        true_and]
      omega
    · simp only [Option.isSome_some, if_true, Option.map_some, Option.some.injEq, Span.mk.injEq]
      omega

/-! ## The run -/

/-- the scan finds the declaration at the parenthesis at the place -/
def FoundAt (masked : Bytes) (paren : Nat) (d : Declaration) : Prop :=
  ∃ p : Parts, p.Sound ∧ masked = p.front ++ parenOpen :: p.back ∧ paren = p.front.length ∧ p.declaration = d

theorem foundAt_of_declarationAt {before rest : Bytes} {d : Declaration} (h : declarationAt before rest = some d) :
    FoundAt (before.reverse ++ parenOpen :: rest) before.length d := by
  obtain ⟨p, hp, hfront, hback, hd⟩ := declarationAt_eq_some h
  exact ⟨p, hp, by rw [hfront, hback], by rw [hfront, List.length_reverse], hd⟩

/-- what is found with one byte more passed is found in the same bytes -/
theorem foundAt_passed {b : UInt8} {before rest : Bytes} {paren : Nat} {d : Declaration} :
    FoundAt ((b :: before).reverse ++ rest) paren d ↔ FoundAt (before.reverse ++ b :: rest) paren d := by
  rw [List.reverse_cons, List.append_assoc, List.singleton_append]

theorem declarationsFrom_found {before rest : Bytes} {n : Nat} {d : Declaration}
    (h : d ∈ declarationsFrom before n rest) :
    ∃ paren, before.length + n ≤ paren ∧ FoundAt (before.reverse ++ rest) paren d := by
  -- what is found behind the next byte lies behind it, and behind what is skipped
  have hlater : ∀ {b : UInt8} {before rest : Bytes} {m n : Nat}, n ≤ m + 1 →
      (∃ paren, (b :: before).length + m ≤ paren ∧ FoundAt ((b :: before).reverse ++ rest) paren d) →
      ∃ paren, before.length + n ≤ paren ∧ FoundAt (before.reverse ++ b :: rest) paren d := by
    intro b before rest m n hn ⟨paren, hle, hfound⟩
    rw [List.length_cons] at hle
    exact ⟨paren, by omega, foundAt_passed.1 hfound⟩
  fun_induction declarationsFrom before n rest with
  | case1 => exact absurd h List.not_mem_nil
  | case2 before b rest n ih => exact hlater (Nat.le_refl _) (ih h)
  | case3 before rest e hat ih =>
    rcases List.mem_cons.1 h with rfl | hmem
    · exact ⟨before.length, Nat.le_refl _, foundAt_of_declarationAt hat⟩
    · exact hlater (Nat.zero_le _) (ih hmem)
  | case4 before rest hat ih => exact hlater (Nat.zero_le _) (ih h)
  | case5 before b rest hb ih => exact hlater (Nat.zero_le _) (ih h)

/-- the second declaration is found at a parenthesis behind the last byte of the first one -/
def FoundBehind (masked : Bytes) (d d' : Declaration) : Prop :=
  ∃ paren paren', FoundAt masked paren d ∧ FoundAt masked paren' d' ∧ d.last < paren'

/-- **The scan goes on behind the last byte of a declaration.** -/
theorem declarationsFrom_pairwise (before : Bytes) (n : Nat) (rest : Bytes) :
    (declarationsFrom before n rest).Pairwise (FoundBehind (before.reverse ++ rest)) := by
  have hlater : ∀ {b : UInt8} {before rest : Bytes} {ds : List Declaration},
      ds.Pairwise (FoundBehind ((b :: before).reverse ++ rest)) →
      ds.Pairwise (FoundBehind (before.reverse ++ b :: rest)) := by
    intro b before rest ds h
    rwa [List.reverse_cons, List.append_assoc] at h
  fun_induction declarationsFrom before n rest with
  | case1 => exact List.Pairwise.nil
  | case2 before b rest n ih => exact hlater ih
  | case3 before rest d hat ih =>
    refine List.Pairwise.cons (fun d' hmem => ?_) (hlater ih)
    obtain ⟨paren', hle, hfound⟩ := declarationsFrom_found hmem
    rw [List.length_cons] at hle
    exact ⟨before.length, paren', foundAt_of_declarationAt hat, foundAt_passed.1 hfound, by omega⟩
  | case4 before rest hat ih => exact hlater ih
  | case5 before b rest hb ih => exact hlater ih

/-! ## Declarations apart -/

/-- the places of a declaration of a text: in order, and with the shortest parameters and body that balance in the
masked copy -/
structure Declaration.Formed (bs : Bytes) (d : Declaration) : Prop where
  header_name : d.header.start ≤ d.name.start ∧ d.header.stop = d.name.start ∧ d.name.start < d.name.stop
  name_params : d.name.stop < d.params.start ∧ d.params.start ≤ d.params.stop
  params_last : d.params.stop < d.last ∧ d.last < bs.length
  params : Encloses parenOpen parenClose ((⟨d.params.start - 1, d.params.stop + 1⟩ : Span).of (mask bs))
  body : ∀ s ∈ d.body, d.params.stop < s.start ∧ s.stop = d.last + 1 ∧
    Encloses braceOpen braceClose (s.of (mask bs)) ∧
    (s.of bs).head? = some braceOpen ∧ (s.of bs).getLast? = some braceClose

/-- the second declaration lies behind the first one, with its header too unless a closing parenthesis in between has no
opening one -/
structure Declaration.Precedes (masked : Bytes) (d d' : Declaration) : Prop where
  apart : d.last < d'.name.start
  header : d'.header.start ≤ d.last → HasLooseCloser ((⟨d.last + 1, d'.name.start⟩ : Span).of masked)

/-- the same declaration, or one of the two behind the other -/
def Declaration.Apart (d d' : Declaration) : Prop := d = d' ∨ d.last < d'.name.start ∨ d'.last < d.name.start

instance : Std.Symm Declaration.Apart where
  symm d d' h := by
    rcases h with rfl | hlt | hlt
    · exact .inl rfl
    · exact .inr (.inr hlt)
    · exact .inr (.inl hlt)

theorem Parts.Sound.exists_stop {p : Parts} (h : p.Sound) :
    ∃ front stop, p.last = front ++ [stop] ∧ isStopByte stop = true := by
  rcases h.last_closed with ⟨-, hlast⟩ | ⟨-, hlast⟩
  · exact ⟨[], semicolon, hlast, rfl⟩
  · obtain ⟨front, hfront⟩ := List.getLast?_eq_some_iff.1 hlast.closes
    exact ⟨front, braceClose, hfront, rfl⟩

theorem Parts.Sound.last_pos {p : Parts} (h : p.Sound) : 0 < p.last.length := by
  obtain ⟨front, stop, hlast, -⟩ := h.exists_stop
  rw [hlast, List.length_append]
  exact Nat.succ_pos _

/-- the parameters of a declaration with their parentheses -/
theorem Parts.of_params (p : Parts) :
    (⟨p.declaration.params.start - 1, p.declaration.params.stop + 1⟩ : Span).of (p.front ++ parenOpen :: p.back) =
      parenOpen :: p.params ++ [parenClose] := by
  have hfront : p.front.length = p.lead.length + p.header.length + p.name.length + p.gap.length := by
    simp only [Parts.front, List.length_append]
    omega
  have hsplit : p.front ++ parenOpen :: p.back =
      p.front ++ (parenOpen :: p.params ++ [parenClose]) ++ (p.clause ++ p.last ++ p.after) := by
    simp only [Parts.back, List.append_assoc, List.cons_append, List.nil_append]
  rw [hsplit]
  refine Span.of_append _ _ _ ?_ ?_ <;>
  · simp only [Parts.declaration, List.length_append, List.length_cons, List.length_nil]
    omega

/-- the body of a declaration, if it has one, is its last part -/
theorem Parts.of_body {p : Parts} (hlast : 0 < p.last.length) {s : Span} (hs : s ∈ p.declaration.body) :
    p.isBlock = true ∧ s.of (p.front ++ parenOpen :: p.back) = p.last ∧ p.declaration.params.stop < s.start ∧
      s.stop = p.declaration.last + 1 := by
  cases hblock : p.isBlock with
  | false => simp [Parts.declaration, hblock] at hs
  | true =>
    simp only [Parts.declaration, hblock, if_true, Option.mem_some_iff] at hs
    subst hs
    have hsplit : p.front ++ parenOpen :: p.back =
        p.front ++ parenOpen :: (p.params ++ parenClose :: p.clause) ++ p.last ++ p.after := by
      simp only [Parts.back, List.append_assoc, List.cons_append]
    refine ⟨rfl, ?_, ?_, ?_⟩
    · rw [hsplit]
      refine Span.of_append _ _ _ ?_ ?_ <;>
      · simp only [Parts.front, List.length_append, List.length_cons]
        omega
    all_goals
      simp only [Parts.declaration]
      omega

theorem FoundAt.formed {bs : Bytes} {paren : Nat} {d : Declaration} (h : FoundAt (mask bs) paren d) : d.Formed bs := by
  obtain ⟨p, hp, hmasked, -, rfl⟩ := h
  have hname := List.length_pos_iff.2 hp.name_ne
  have hlast := hp.last_pos
  have hlength := congrArg List.length hmasked
  simp only [length_mask, Parts.front, Parts.back, List.length_append, List.length_cons] at hlength
  constructor
  case header_name => exact ⟨Nat.le_add_right _ _, rfl, Nat.lt_add_of_pos_right hname⟩
  case name_params => exact ⟨by simp only [Parts.declaration]; omega, Nat.le_add_right _ _⟩
  case params_last =>
    simp only [Parts.declaration]
    omega
  case params =>
    rw [hmasked, p.of_params]
    exact hp.params_closed
  case body =>
    intro s hs
    obtain ⟨hblock, hof, hstart, hstop⟩ := Parts.of_body hlast hs
    rw [← hmasked] at hof
    rcases hp.last_closed with ⟨hnone, -⟩ | ⟨-, hclosed⟩
    · exact absurd (hnone.symm.trans hblock) Bool.false_ne_true
    · exact ⟨hstart, hstop, hof ▸ hclosed, (Span.ends_of_mask (by decide)).1 (hof ▸ hclosed.opens),
        (Span.ends_of_mask (by decide)).2 (hof ▸ hclosed.closes)⟩

/-- neither a name nor the blanks behind it hold a stop -/
theorem Parts.Sound.not_mem_name {p : Parts} (h : p.Sound) {stop : UInt8} (hstop : isStopByte stop = true) :
    stop ∉ p.name ++ p.gap := by
  have hclasses : isIdentByte stop = false ∧ isBlankByte stop = false := by
    simp only [isStopByte, Bool.or_eq_true, beq_iff_eq] at hstop
    rcases hstop with (rfl | rfl) | rfl <;> decide
  intro hmem
  rcases List.mem_append.1 hmem with hname | hgap
  · exact absurd (h.name_ident _ hname) (by simp [hclasses.1])
  · exact absurd (h.gap_blank _ hgap) (by simp [hclasses.2])

/-- what stands at a place before the parenthesis stands before the name, if it is a stop -/
theorem Parts.Sound.exists_between {p : Parts} (h : p.Sound) {front after back : Bytes} {stop : UInt8}
    (hstop : isStopByte stop = true) (hsplit : front ++ stop :: after = p.front ++ back)
    (hlt : front.length < p.front.length) : ∃ between, p.lead ++ p.header = front ++ stop :: between := by
  have hpassed : ∃ between, p.front = front ++ stop :: between := by
    rcases List.append_eq_append_iff.1 hsplit with ⟨as, hfront, hcons⟩ | ⟨bs, hfront, -⟩
    · cases as with
      | nil => exact absurd hlt (by simp [hfront])
      | cons b between =>
        obtain ⟨rfl, -⟩ := List.cons.inj hcons
        exact ⟨between, hfront⟩
    · exact absurd hlt (by simp [hfront])
  obtain ⟨between, hbetween⟩ := hpassed
  have hnot := h.not_mem_name hstop
  rcases List.append_eq_append_iff.1 hbetween with ⟨as, -, hname⟩ | ⟨bs, hlead, hcons⟩
  · exact absurd (hname ▸ List.mem_append_right as List.mem_cons_self) hnot
  · cases bs with
    | nil => exact absurd (by rw [← List.nil_append (p.name ++ p.gap), ← hcons]; exact List.mem_cons_self) hnot
    | cons b bs =>
      obtain ⟨rfl, -⟩ := List.cons.inj hcons
      exact ⟨bs, hlead⟩

/-- **A declaration found behind another one lies behind it.** -/
theorem FoundBehind.precedes {masked : Bytes} {d d' : Declaration} (h : FoundBehind masked d d') :
    d.Precedes masked d' := by
  obtain ⟨paren, paren', ⟨p, hp, hmasked, -, rfl⟩, ⟨p', hp', hmasked', rfl, rfl⟩, hlt⟩ := h
  obtain ⟨lastFront, stop, hlast, hstop⟩ := hp.exists_stop
  -- up to the last byte of the first declaration, which is a stop
  generalize hfront : p.front ++ parenOpen :: (p.params ++ parenClose :: (p.clause ++ lastFront)) = front
  have hsplit : masked = front ++ stop :: p.after := by
    rw [hmasked, Parts.back, hlast, ← hfront]
    simp only [List.append_assoc, List.cons_append, List.nil_append]
  have hlength : p.declaration.last = front.length := by
    rw [← hfront]
    simp only [Parts.declaration, hlast, Parts.front, List.length_append, List.length_cons, List.length_nil]
    omega
  rw [hlength] at hlt
  obtain ⟨between, hbetween⟩ := hp'.exists_between hstop (hsplit.symm.trans hmasked') hlt
  have hname : p'.declaration.name.start = front.length + 1 + between.length := by
    have hparts := congrArg List.length hbetween
    simp only [List.length_append, List.length_cons] at hparts
    simp only [Parts.declaration]
    omega
  constructor
  case apart =>
    rw [hlength, hname]
    omega
  case header =>
    intro hreach
    have hof : (⟨p.declaration.last + 1, p'.declaration.name.start⟩ : Span).of masked = between := by
      rw [hmasked', Parts.front, hbetween]
      simpa using Span.of_append (front ++ [stop]) between (p'.name ++ p'.gap ++ parenOpen :: p'.back)
        (s := ⟨p.declaration.last + 1, p'.declaration.name.start⟩) (by simp [hlength]) (by simp [hname])
    rw [hof]
    have hheader := hp'.header_length
    rw [hbetween, List.reverse_append, List.reverse_cons, List.append_assoc, List.singleton_append] at hheader
    have hbehind : between.length < headerLength 0 (between.reverse ++ stop :: front.reverse) := by
      have hstart : p'.declaration.header.start = p'.lead.length := rfl
      have hnameStart : p'.declaration.name.start = p'.lead.length + p'.header.length := rfl
      rw [← hheader]
      omega
    exact hasLooseCloser_of_headerLength hstop hbehind

/-- **The declarations of any text lie apart and in order**, each with the shortest parameters and body that balance; no
declaration starts in the body of another one. -/
theorem declarations_apart (text : String) :
    methods text = (declarations (encode text)).map (Declaration.method (encode text)) ∧
      (∀ d ∈ declarations (encode text), d.Formed (encode text)) ∧
      (declarations (encode text)).Pairwise (Declaration.Precedes (mask (encode text))) ∧
      ∀ d ∈ declarations (encode text), ∀ d' ∈ declarations (encode text), ∀ s ∈ d'.body,
        d.name.start < s.start ∨ s.stop ≤ d.name.start := by
  have hformed : ∀ d ∈ declarations (encode text), d.Formed (encode text) := by
    intro d hd
    obtain ⟨paren, -, hfound⟩ := declarationsFrom_found hd
    exact hfound.formed
  have hordered : (declarations (encode text)).Pairwise (Declaration.Precedes (mask (encode text))) :=
    (declarationsFrom_pairwise [] 0 (mask (encode text))).imp FoundBehind.precedes
  refine ⟨rfl, hformed, hordered, fun d hd d' hd' s hs => ?_⟩
  have happart : d.Apart d' := by
    have hothers : (declarations (encode text)).Pairwise Declaration.Apart := hordered.imp fun h => .inr (.inl h.apart)
    exact hothers.forall_of_forall (fun e _ => .inl rfl) hd hd'
  have hd := hformed d hd
  have hd' := hformed d' hd'
  obtain ⟨hstart, hstop, -⟩ := hd'.body s hs
  have hname := hd'.header_name
  have hparams := hd'.name_params
  have hinside := hd.params_last
  have hinside' := hd'.params_last
  have hname' := hd.header_name
  have hparams' := hd.name_params
  rcases happart with rfl | hlt | hlt <;> omega

end CodeSurvey.Source
