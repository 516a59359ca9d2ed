/-
Whole characters.

The reader goes byte by byte, over characters of several bytes, and what it keeps is read as a text at the end. It keeps
or drops each character as a whole, so that nothing is replaced there.

A turn takes characters from the front of the text, and it looks ahead only for characters that must not follow. So it
is made in the same way before any front of what follows (`Takes.before_front`), and the reading of a text up to a place
is a reading of the text before that place. What is kept therefore stands in the text, but for the spaces that comments
leave and the quotes of text blocks (`Reads.standsBehind`). Main statement: the bytes that are kept are UTF-8, and a
replacement character among them is one of the text (`stripComments_whole`).
-/
import CodeSurvey.Proofs.Source.Lines

namespace CodeSurvey.Source

open Text

/-! ## Turns before less text -/

theorem head?_of_front {α : Type} {d : α} {front rest : List α} (h : front <+: rest) (hd : front.head? = some d) :
    rest.head? = some d := by
  obtain ⟨tail, rfl⟩ := List.head?_eq_some_iff.1 hd
  obtain ⟨more, rfl⟩ := h
  rfl

/-- **A turn takes characters from the front, and it is made before any front of what follows.** -/
theorem Takes.before_front {mode next : Mode} {text rest : List Char} {kept : List (Char × Origin)}
    (h : Takes mode text kept next rest) :
    ∃ taken, text = taken ++ rest ∧ ∀ front, front <+: rest → Takes mode (taken ++ front) kept next front := by
  cases h with
  | lineStart => exact ⟨['/', '/'], rfl, fun front _ => .lineStart front⟩
  | blockStart => exact ⟨['/', '*'], rfl, fun front _ => .blockStart front⟩
  | textBlockStart => exact ⟨tripleQuote, rfl, fun front _ => .textBlockStart front⟩
  | literalStart k _ h =>
    exact ⟨[k.mark], rfl, fun front hfront => .literalStart k front fun hk hquotes => h hk (hquotes.trans hfront)⟩
  | code c _ h hs =>
    refine ⟨[c], rfl, fun front hfront => .code c front h fun hc => ?_⟩
    exact ⟨fun hd => (hs hc).1 (head?_of_front hfront hd), fun hd => (hs hc).2 (head?_of_front hfront hd)⟩
  | escape _ h c => exact ⟨['\\', c], rfl, fun front _ => .escape mode h c front⟩
  | loneBackslash _ h =>
    refine ⟨['\\'], rfl, fun front hfront => ?_⟩
    rw [List.prefix_nil.1 hfront]
    exact .loneBackslash mode h
  | textBlockEnd => exact ⟨tripleQuote, rfl, fun front _ => .textBlockEnd front⟩
  | inTextBlock c _ h hq =>
    exact ⟨[c], rfl, fun front hfront => .inTextBlock c front h fun hc hquotes => hq hc (hquotes.trans hfront)⟩
  | literalEnd k => exact ⟨[k.mark], rfl, fun front _ => .literalEnd k front⟩
  | cutOff k => exact ⟨['\n'], rfl, fun front _ => .cutOff k front⟩
  | inLiteral k c _ h => exact ⟨[c], rfl, fun front _ => .inLiteral k c front h⟩
  | lineEnd => exact ⟨['\n'], rfl, fun front _ => .lineEnd front⟩
  | inLineComment c _ h => exact ⟨[c], rfl, fun front _ => .inLineComment c front h⟩
  | blockEnd => exact ⟨['*', '/'], rfl, fun front _ => .blockEnd front⟩
  | inBlockComment c _ h =>
    exact ⟨[c], rfl, fun front hfront => .inBlockComment c front fun hc hd => h hc (head?_of_front hfront hd)⟩

/-! ## Where a kept character stands -/

/-- the character stands in the text, behind a part of which the reader keeps just the front -/
def StandsBehind (mode : Mode) (text front : List Char) (c : Char) : Prop :=
  ∃ before after kept last, text = before ++ c :: after ∧ Reads mode before kept last [] ∧ kept.map Prod.fst = front

theorem standsBehind_nil (mode : Mode) (c : Char) (after : List Char) : StandsBehind mode (c :: after) [] c :=
  ⟨[], after, [], mode, rfl, .refl mode [], rfl⟩

/-- a turn that keeps one character keeps one of the text -/
theorem standsBehind_of_singleton {mode : Mode} {x c : Char} {front back after : List Char}
    (h : [x] = front ++ c :: back) : StandsBehind mode (x :: after) front c := by
  obtain ⟨rfl, hx⟩ | ⟨rfl, hnil⟩ := List.singleton_eq_append_iff.1 h
  · obtain ⟨rfl, -⟩ := List.cons.inj hx
    exact standsBehind_nil mode c after
  · exact absurd hnil (List.cons_ne_nil c back)

/-- What one turn keeps stands in the text, but for the space of a comment; the quotes around a text block aside. -/
theorem Takes.standsBehind {mode next : Mode} {text rest : List Char} {kept : List (Char × Origin)}
    (h : Takes mode text kept next rest) {c : Char} (hc : c ≠ ' ' ∧ c ≠ '"') {front back : List Char}
    (hkept : kept.map Prod.fst = front ++ c :: back) : StandsBehind mode text front c := by
  have hmem : c ∈ kept.map Prod.fst := by
    rw [hkept]
    exact List.mem_append_right front List.mem_cons_self
  cases h with
  | lineStart | blockStart => exact absurd (List.mem_singleton.1 hmem) hc.1
  | textBlockStart | textBlockEnd =>
    rw [map_fst_marked] at hmem
    exact absurd (show c = '"' by simpa [tripleQuote] using hmem) hc.2
  | inLineComment | blockEnd | inBlockComment => exact nomatch hmem
  | escape _ h d =>
    -- the backslash, or what it escapes; up to there it escapes nothing
    rcases List.cons_eq_append_iff.1 hkept with ⟨rfl, hfirst⟩ | ⟨front', rfl, hsecond⟩
    · obtain ⟨rfl, -⟩ := List.cons.inj hfirst
      exact standsBehind_nil mode '\\' _
    · obtain ⟨rfl, hd⟩ | ⟨-, hnil⟩ := List.singleton_eq_append_iff.1 hsecond
      · obtain ⟨rfl, -⟩ := List.cons.inj hd
        exact ⟨['\\'], rest, _, mode, rfl, (Takes.loneBackslash mode h).reads, rfl⟩
      · exact absurd hnil (List.cons_ne_nil c back)
  | literalStart | code | loneBackslash | inTextBlock | literalEnd | cutOff | inLiteral | lineEnd =>
    exact standsBehind_of_singleton hkept

theorem StandsBehind.behind {mode next : Mode} {text rest front : List Char} {kept : List (Char × Origin)} {c : Char}
    (first : Takes mode text kept next rest) (h : StandsBehind next rest front c) :
    StandsBehind mode text (kept.map Prod.fst ++ front) c := by
  obtain ⟨before, after, kept', last, rfl, hreads, rfl⟩ := h
  obtain ⟨taken, rfl, hfront⟩ := first.before_front
  refine ⟨taken ++ before, after, kept ++ kept', last, (List.append_assoc ..).symm, ?_, List.map_append⟩
  exact .step (hfront before (List.prefix_append before _)) hreads

/-- a place in two lists, one behind the other, lies in the first one or in the second one -/
theorem mem_first_or_second {α : Type} {as bs front back : List α} {c : α} (h : as ++ bs = front ++ c :: back) :
    (∃ back', as = front ++ c :: back') ∨ ∃ front', front = as ++ front' ∧ bs = front' ++ c :: back := by
  rcases List.append_eq_append_iff.1 h with ⟨front', hfront, hbs⟩ | ⟨part, has, hrest⟩
  · exact .inr ⟨front', hfront, hbs⟩
  · cases part with
    | nil => exact .inr ⟨[], by rw [has, List.append_nil, List.append_nil], hrest.symm⟩
    | cons d part =>
      obtain ⟨rfl, -⟩ := List.cons.inj hrest
      exact .inl ⟨part, has⟩

/-- **What is kept stands in the text**, behind a part of which just what comes before it is kept. -/
theorem Reads.standsBehind {mode last : Mode} {text tail : List Char} {kept : List (Char × Origin)}
    (h : Reads mode text kept last tail) {c : Char} (hc : c ≠ ' ' ∧ c ≠ '"') {front back : List Char}
    (hkept : kept.map Prod.fst = front ++ c :: back) : StandsBehind mode text front c := by
  induction h generalizing front with
  | refl => exact absurd hkept (by simp)
  | step first others ih =>
    rw [List.map_append] at hkept
    rcases mem_first_or_second hkept with ⟨back', hfirst⟩ | ⟨front', rfl, hsecond⟩
    · exact first.standsBehind hc hfirst
    · exact (ih hsecond).behind first

/-! ## The text that is left -/

/-- **What is kept of a text is a text.** The bytes are its UTF-8 form, so reading them replaces nothing; and a
replacement character in it is one of the text, behind a part that leaves what stands before it. -/
theorem stripComments_whole (text : String) :
    stripBytes (encode text) = encode (stripComments text) ∧
      decode? (stripBytes (encode text)) = some (stripComments text) ∧
      ∀ front back, (stripComments text).toList = front ++ replacement :: back →
        ∃ before after, text.toList = before ++ replacement :: after ∧
          (stripComments (String.ofList before)).toList = front := by
  have hbytes : stripBytes (encode text) = encode (stripComments text) := (encode_stripComments text).symm
  refine ⟨hbytes, ?_, fun front back hsplit => ?_⟩
  · rw [hbytes, decode_encode]
  · obtain ⟨kept, last, hread, hstrip⟩ := exists_reads_text text
    rw [hstrip, String.toList_ofList] at hsplit
    obtain ⟨before, after, kept', last', htext, hbefore, rfl⟩ := hread.standsBehind (by decide) hsplit
    exact ⟨before, after, htext, by rw [stripComments_of_reads hbefore, String.toList_ofList]⟩

/-- an escape, a comment and an open literal, each beside a character of several bytes -/
example : stripComments "\"\\é\"/*ü*/'€�" = "\"\\é\" '€�" := by decide +kernel

end CodeSurvey.Source
