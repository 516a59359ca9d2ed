/-
The masked copy against the reader of comments.

Both tell literals from code, each with modes of its own: the reader has one for text blocks, the mask has not. It takes
the three quotes that open or close a text block for an empty literal and one more quote, so it is within a literal
where the reader is, until a quote stands in the text block that is not escaped. `mask_normalize`: on a text whose
literals are closed the masked copy of the normalized text blanks what comes from within literals and nothing else, if
and only if no text block has such a quote.

`Agree` says of marked characters that the mask, from a mode on, blanks those from within literals. A step lemma for
each rule of the reader (`agree_of_takes`) and one for a loose quote (`not_agree_of_loose`) give it for a whole run
(`agree_of_reads`), and collapsing the blanks does not change it (`agree_collapseMarked`).
-/
import CodeSurvey.Proofs.Source.Provenance

namespace CodeSurvey.Source

open Text

/-! ## The mask in characters -/

/-- the mode blanks the character out -/
def MaskMode.blanks : MaskMode → Char → Bool
  | .code, _ => false
  | .inside l, c => c != l.mark
  | .escaped _, _ => true

/-- the mode after a character -/
def MaskMode.nextChar : MaskMode → Char → MaskMode
  | .code, c => if c = '"' then .inside .string else if c = '\'' then .inside .char else .code
  | .inside l, c => if c = '\\' then .escaped l else if c = l.mark then .code else .inside l
  | .escaped l, _ => .inside l

/-- the mode after characters -/
def MaskMode.after (m : MaskMode) (cs : List (Char × Origin)) : MaskMode :=
  cs.foldl (fun m c => m.nextChar c.1) m

/-- a character, or as many spaces as it has bytes -/
def shownChar (blank : Bool) (c : Char) : Bytes :=
  if blank then List.replicate (String.utf8EncodeChar c).length space else String.utf8EncodeChar c

/-- The masked copy of a character does not depend on what follows. -/
theorem maskFrom_char (m : MaskMode) (c : Char) (rest : Bytes) :
    maskFrom m (String.utf8EncodeChar c ++ rest) = shownChar (m.blanks c) c ++ maskFrom (m.nextChar c) rest := by
  cases m with
  | code =>
    by_cases hquote : c = '"'
    · subst hquote
      rfl
    by_cases hapostrophe : c = '\''
    · subst hapostrophe
      rfl
    have hclosed : ∀ k : Literal, k.quote ∉ String.utf8EncodeChar c := by
      intro k hk
      cases k with
      | string => exact hquote (quote_mem_utf8EncodeChar.1 hk)
      | char => exact hapostrophe (quote_mem_utf8EncodeChar.1 hk)
    rw [maskFrom_code hclosed, MaskMode.nextChar, if_neg hquote, if_neg hapostrophe]
    rfl
  | inside k =>
    by_cases hback : c = '\\'
    · subst hback
      cases k <;> rfl
    by_cases hmark : c = k.mark
    · subst hmark
      cases k <;> rfl
    rw [maskFrom_inside (mt quote_mem_utf8EncodeChar.1 hmark) (mt backslash_mem_utf8EncodeChar.1 hback),
      MaskMode.nextChar, if_neg hback, if_neg hmark, MaskMode.blanks, bne_iff_ne.2 hmark]
    rfl
  | escaped k =>
    obtain ⟨b, bs, hform, hbs⟩ := utf8EncodeChar_cons c
    have hclosed : k.quote ∉ bs := fun h => absurd (hbs _ h) (by cases k <;> decide)
    have hplain : backslash ∉ bs := fun h => absurd (hbs _ h) (by decide)
    rw [hform, List.cons_append, maskFrom, MaskMode.next, maskFrom_inside hclosed hplain, shownChar, hform]
    rfl

/-! ## Agreement -/

/-- the byte as the masked copy is to show it: blank within a literal -/
def shownByte (m : UInt8 × Origin) : UInt8 := if m.2 = .inside then space else m.1

/-- from the mode on, what the mask blanks is what comes from within literals; a blank looks the same either way -/
def Agree : MaskMode → List (Char × Origin) → Prop
  | _, [] => True
  | m, (c, o) :: cs => (isBlank c = true ∨ m.blanks c = decide (o = .inside)) ∧ Agree (m.nextChar c) cs

instance : (m : MaskMode) → (cs : List (Char × Origin)) → Decidable (Agree m cs)
  | _, [] => inferInstanceAs (Decidable True)
  | m, (c, o) :: cs =>
    have := instDecidableAgree (m.nextChar c) cs
    inferInstanceAs (Decidable ((isBlank c = true ∨ m.blanks c = decide (o = .inside)) ∧ Agree (m.nextChar c) cs))

theorem agree_append {m : MaskMode} {cs ds : List (Char × Origin)} :
    Agree m (cs ++ ds) ↔ Agree m cs ∧ Agree (m.after cs) ds := by
  induction cs generalizing m with
  | nil => simp [Agree, MaskMode.after]
  | cons c cs ih => simp [Agree, MaskMode.after, ih, and_assoc]

theorem map_shownByte (c : Char) (o : Origin) :
    ((String.utf8EncodeChar c).map fun b => (b, o)).map shownByte = shownChar (o = .inside) c := by
  rw [List.map_map]
  by_cases h : o = .inside
  · simp only [shownChar, h, decide_true, if_true]
    exact List.map_const' ..
  · simp [shownChar, shownByte, h, Function.comp_def]

theorem eq_space_of_blanked {c : Char} {n : Nat} (h : String.utf8EncodeChar c = List.replicate n space) : c = ' ' := by
  obtain ⟨b, bs, hform, -⟩ := utf8EncodeChar_cons c
  have hmem : b ∈ String.utf8EncodeChar c := hform ▸ List.mem_cons_self
  obtain rfl : b = space := List.eq_of_mem_replicate (h ▸ hmem)
  exact (mem_utf8EncodeChar_iff (d := ' ') (by decide)).1 hmem

theorem shownChar_eq_iff {c : Char} (hc : isBlank c = true → c = ' ') {p q : Bool} :
    shownChar p c = shownChar q c ↔ isBlank c = true ∨ p = q := by
  by_cases hblank : isBlank c = true
  · have hsame : ∀ b, shownChar b ' ' = [space] := by decide
    rw [hc hblank, hsame, hsame]
    exact iff_of_true rfl (.inl (by decide))
  · have hne : ∀ n, String.utf8EncodeChar c ≠ List.replicate n space := by
      intro n h
      rw [eq_space_of_blanked h] at hblank
      exact hblank (by decide)
    cases p <;> cases q <;> simp [shownChar, hblank, hne, (hne _).symm]

/-- The masked copy shows what it is to show if and only if the two agree. -/
theorem maskFrom_eq_iff {m : MaskMode} {cs : List (Char × Origin)} (h : ∀ c ∈ cs, isBlank c.1 = true → c.1 = ' ') :
    maskFrom m (encodeChars (cs.map Prod.fst)) = (encodeMarked cs).map shownByte ↔ Agree m cs := by
  induction cs generalizing m with
  | nil => simp [encodeChars, maskFrom, Agree]
  | cons c cs ih =>
    obtain ⟨c, o⟩ := c
    have hlength : (shownChar (m.blanks c) c).length = (shownChar (o = .inside) c).length := by
      simp only [shownChar]
      split <;> split <;> simp
    have hrest := ih (m := m.nextChar c) fun c' hc' => h c' (List.mem_cons_of_mem _ hc')
    rw [List.map_cons, encodeChars_cons, maskFrom_char, encodeMarked_cons, List.map_append, map_shownByte, Agree,
      ← hrest, ← shownChar_eq_iff (h (c, o) List.mem_cons_self)]
    constructor
    · exact fun heq => List.append_inj heq hlength
    · rintro ⟨hfirst, hothers⟩
      rw [hfirst, hothers]

/-! ## Blanks -/

theorem nextChar_blank {c : Char} (h : isBlank c = true) (m : MaskMode) : m.nextChar c = m.nextChar ' ' := by
  have hne : ∀ d : Char, isBlank d = false → c ≠ d := by
    rintro d hd rfl
    exact absurd h (by simp [hd])
  cases m with
  | code => rw [MaskMode.nextChar, if_neg (hne _ (by decide)), if_neg (hne _ (by decide))]; rfl
  | inside k =>
    rw [MaskMode.nextChar, if_neg (hne _ (by decide)), if_neg (hne _ (by cases k <;> decide))]
    cases k <;> rfl
  | escaped k => rfl

theorem nextChar_blank_twice {c : Char} (h : isBlank c = true) (m : MaskMode) :
    (m.nextChar ' ').nextChar c = m.nextChar ' ' := by
  rw [nextChar_blank h]
  cases m with
  | code => rfl
  | inside k => cases k <;> rfl
  | escaped k => cases k <;> rfl

/-- a run of blanks does to the mode what one space does -/
theorem agree_collapseFrom (cs : List (Char × Origin)) :
    (∀ m, Agree m (collapseFrom none cs) ↔ Agree m cs) ∧
      ∀ m g, Agree m (collapseFrom (some g) cs) ↔ Agree (m.nextChar ' ') cs := by
  induction cs with
  | nil => exact ⟨fun _ => Iff.rfl, fun _ _ => Iff.rfl⟩
  | cons c cs ih =>
    obtain ⟨c, o⟩ := c
    obtain ⟨hword, hgap⟩ := ih
    by_cases h : isBlank c = true
    · refine ⟨fun m => ?_, fun m g => ?_⟩
      · rw [collapseFrom, if_pos h, hgap, Agree, nextChar_blank h]
        simp [h]
      · rw [collapseFrom, if_pos h, hgap, Agree, nextChar_blank_twice h]
        simp [h]
    · refine ⟨fun m => ?_, fun m g => ?_⟩
      · rw [collapseFrom, if_neg h]
        simp [Agree, hword]
      · rw [collapseFrom, if_neg h]
        have hspace : isBlank ' ' = true := by decide
        simp [Agree, hword, hspace]

theorem agree_collapseMarked (cs : List (Char × Origin)) : Agree .code (collapseMarked cs) ↔ Agree .code cs := by
  induction cs with
  | nil => exact Iff.rfl
  | cons c cs ih =>
    by_cases h : isBlank c.1 = true
    · have hstart : collapseMarked (c :: cs) = collapseMarked cs := by
        rw [collapseMarked, List.dropWhile_cons, if_pos h, collapseMarked]
      rw [hstart, ih, Agree, nextChar_blank h]
      exact ⟨fun hrest => ⟨.inl h, hrest⟩, fun hrest => hrest.2⟩
    · rw [collapseMarked, List.dropWhile_cons, if_neg h, (agree_collapseFrom _).1]

/-- the only blanks left are spaces -/
theorem blank_of_mem_collapseFrom {gap : Option Origin} {cs : List (Char × Origin)} :
    ∀ c ∈ collapseFrom gap cs, isBlank c.1 = true → c.1 = ' ' := by
  induction cs generalizing gap with
  | nil => exact fun c hc => nomatch hc
  | cons c cs ih =>
    obtain ⟨c, o⟩ := c
    by_cases h : isBlank c = true
    · rw [collapseFrom, if_pos h]
      exact ih
    · rw [collapseFrom, if_neg h]
      intro c' hc' hblank
      rcases List.mem_append.1 hc' with hspace | hword
      · obtain ⟨g, -, rfl⟩ := Option.map_eq_some_iff.1 (Option.mem_toList.1 hspace)
        rfl
      · rcases List.mem_cons.1 hword with rfl | hrest
        · exact absurd hblank h
        · exact ih c' hrest hblank

/-! ## Turns -/

/-- the mode of the mask where the reader is in the mode -/
def Mode.mask : Mode → MaskMode
  | .code | .lineComment | .blockComment => .code
  | .inString | .textBlock => .inside .string
  | .inChar => .inside .char

/-- literals are closed: none is open at the end, and none ends at a line feed -/
def Closed (text : String) : Prop :=
  (lastMode .code text.toList).isLiteral = false ∧ (newline, .delimiter) ∉ markedBytes text

instance (text : String) : Decidable (Closed text) :=
  inferInstanceAs (Decidable
    ((lastMode .code text.toList).isLiteral = false ∧ (newline, .delimiter) ∉ markedBytes text))

instance (t : Turn) : Decidable t.LooseQuote :=
  inferInstanceAs (Decidable (t.mode = .textBlock ∧ t.byte = quote ∧ t.next = .textBlock))

/-- some text block has a quote of its own that is not escaped -/
def HasLooseQuote (text : String) : Prop := ∃ t ∈ turns .code text.toList, t.LooseQuote

instance (text : String) : Decidable (HasLooseQuote text) :=
  inferInstanceAs (Decidable (∃ t ∈ turns .code text.toList, t.LooseQuote))

theorem mask_literal {mode : Mode} (h : mode.isLiteral = true) : ∃ k, mode.mask = .inside k := by
  obtain rfl | ⟨k, rfl⟩ := literal_cases h
  · exact ⟨.string, rfl⟩
  · exact ⟨k, by cases k <;> rfl⟩

/-- within a literal all but its quote and the backslash is blanked, and the mask stays there -/
theorem agree_inside {k : Literal} {c : Char} (hmark : c ≠ k.mark) (hback : c ≠ '\\') :
    Agree (.inside k) [(c, .inside)] ∧ (MaskMode.inside k).after [(c, .inside)] = .inside k := by
  refine ⟨⟨.inr (bne_iff_ne.2 hmark), trivial⟩, ?_⟩
  simp [MaskMode.after, MaskMode.nextChar, hmark, hback]

/-- **A turn keeps the two in step**, but for a loose quote. -/
theorem agree_of_takes {mode next : Mode} {text rest : List Char} {kept : List (Char × Origin)}
    (h : Takes mode text kept next rest) (hcut : ('\n', .delimiter) ∉ kept)
    (hopen : rest = [] → next.isLiteral = false)
    (hloose : ¬ (mode = .textBlock ∧ next = .textBlock ∧ text.head? = some '"')) :
    Agree mode.mask kept ∧ mode.mask.after kept = next.mask := by
  cases h with
  | lineStart => decide
  | blockStart => decide
  | textBlockStart => decide
  | textBlockEnd => decide
  | literalStart k => cases k <;> decide
  | literalEnd k => cases k <;> decide
  | cutOff k => exact absurd List.mem_cons_self hcut
  | lineEnd => decide
  | inLineComment => decide
  | blockEnd => decide
  | inBlockComment => decide
  | code c _ h =>
    refine ⟨⟨.inr rfl, trivial⟩, ?_⟩
    simp [MaskMode.after, MaskMode.nextChar, Mode.mask, h]
  | escape _ h c =>
    obtain ⟨k, hk⟩ := mask_literal h
    rw [hk]
    exact ⟨⟨.inr (by cases k <;> rfl), .inr rfl, trivial⟩, rfl⟩
  | loneBackslash _ h => exact absurd h (by simp [hopen rfl])
  | inTextBlock c _ hback => exact agree_inside (fun hc => hloose ⟨rfl, rfl, by rw [hc]; rfl⟩) hback
  | inLiteral k c _ h =>
    have hk : k.mode.mask = .inside k := by cases k <;> rfl
    rw [hk]
    exact agree_inside h.1 h.2.1

/-- the mask ends its literal at a loose quote, which the reader is still within -/
theorem not_agree_of_loose {mode next : Mode} {text rest : List Char} {kept : List (Char × Origin)}
    (h : Takes mode text kept next rest)
    (hloose : mode = .textBlock ∧ next = .textBlock ∧ text.head? = some '"') : ¬ Agree mode.mask kept := by
  obtain ⟨hmode, hnext, hquote⟩ := hloose
  cases h with
  | inTextBlock c =>
    obtain rfl : c = '"' := Option.some.inj hquote
    decide
  | escape => exact absurd (Option.some.inj hquote) (by decide)
  | loneBackslash => exact absurd (Option.some.inj hquote) (by decide)
  | inLiteral k => cases k <;> exact nomatch hmode
  | _ => first | exact absurd hmode (by decide) | exact absurd hnext (by decide)

theorem Reads.end_eq {mode last : Mode} {tail : List Char} {kept : List (Char × Origin)}
    (h : Reads mode [] kept last tail) : last = mode := by
  cases h with
  | refl => rfl
  | step first => exact nomatch first

/-- **A run keeps the two in step if and only if it meets no loose quote.** -/
theorem agree_of_reads {mode last : Mode} {text : List Char} {kept : List (Char × Origin)}
    (h : Reads mode text kept last []) (hlast : last.isLiteral = false) (hcut : ('\n', .delimiter) ∉ kept) :
    Agree mode.mask kept ↔ ¬ ∃ t ∈ turns mode text, t.LooseQuote := by
  -- turn by turn: while no quote is loose the mask is, after each turn, in the mode that the next one needs
  generalize htail : ([] : List Char) = tail at h
  induction h with
  | refl =>
    subst htail
    exact iff_of_true trivial fun ⟨t, ht, _⟩ => nomatch ht
  | step first others ih =>
    rename_i mode text kept next rest kept' last tail
    obtain ⟨ts, ⟨hturns, -⟩, hamounts⟩ := goes_of_takes first
    have hsplit : (∃ t ∈ turns mode text, t.LooseQuote) ↔
        (mode = .textBlock ∧ next = .textBlock ∧ text.head? = some '"') ∨ ∃ t ∈ turns next rest, t.LooseQuote := by
      rw [← hamounts.loose, hturns]
      simp only [List.mem_append, or_and_right, exists_or]
    have hopen : rest = [] → next.isLiteral = false := by
      rintro rfl
      rw [← others.end_eq]
      exact hlast
    simp only [List.mem_append, not_or] at hcut
    rw [hsplit, agree_append, not_or]
    by_cases hloose : mode = .textBlock ∧ next = .textBlock ∧ text.head? = some '"'
    · exact iff_of_false (fun hagree => not_agree_of_loose first hloose hagree.1) fun h => h.1 hloose
    · obtain ⟨hfirst, hafter⟩ := agree_of_takes first hcut.1 hopen hloose
      rw [hafter, ih hlast hcut.2 htail]
      exact and_congr_left fun _ => iff_of_true hfirst hloose

/-- **The masked copy of a normalized text blanks what comes from within literals, and only that**, if and only if no
text block has a loose quote. -/
theorem mask_normalize {text : String} (h : Closed text) :
    (normalizedMarks text).map Prod.fst = encode (normalize text) ∧
      (mask (encode (normalize text)) = (normalizedMarks text).map shownByte ↔ ¬ HasLooseQuote text) := by
  refine ⟨map_fst_normalizedMarks text, ?_⟩
  obtain ⟨kept, last, hread⟩ := exists_reads .code text.toList
  obtain ⟨hmarks, hlast⟩ := hread.turns_eq
  have hdecoded : decodeMarked (markedBytes text) = kept := by
    rw [markedBytes, hmarks, decodeMarked_encodeMarked]
  have hcut : ('\n', Origin.delimiter) ∉ kept := by
    intro hmem
    refine h.2 ?_
    rw [markedBytes, hmarks]
    exact List.mem_flatMap.2 ⟨_, hmem, by decide⟩
  have hclosed : last.isLiteral = false := hlast ▸ h.1
  have hmasked : mask (encode (normalize text)) = (normalizedMarks text).map shownByte ↔
      Agree .code (collapseMarked kept) := by
    rw [← map_fst_normalizedMarks, normalizedMarks, hdecoded, map_fst_encodeMarked, mask]
    exact maskFrom_eq_iff blank_of_mem_collapseFrom
  rw [hmasked, agree_collapseMarked]
  exact agree_of_reads hread hclosed hcut

/-- a text block with an escaped quote and a brace, before a method -/
def escapedQuote : String :=
  "class A \x7b String q = \"\"\"\n it\\\"s \x7d\n\"\"\"; // \x7b\n void run() \x7b \x7d \x7d"

theorem mask_escapedQuote :
    Closed escapedQuote ∧ ¬ HasLooseQuote escapedQuote ∧
      mask (encode (normalize escapedQuote)) = (normalizedMarks escapedQuote).map shownByte := by
  have hclosed : Closed escapedQuote := by decide +kernel
  have hloose : ¬ HasLooseQuote escapedQuote := by decide +kernel
  exact ⟨hclosed, hloose, (mask_normalize hclosed).2.2 hloose⟩

/-- the same without the backslash -/
def looseQuote : String :=
  "class A \x7b String q = \"\"\"\n it\"s \x7d\n\"\"\"; // \x7b\n void run() \x7b \x7d \x7d"

/-- After a loose quote the mask takes code for a literal, and the method is not found. -/
theorem mask_looseQuote :
    Closed looseQuote ∧
      mask (encode (normalize looseQuote)) ≠ (normalizedMarks looseQuote).map shownByte ∧
      (methods (normalize escapedQuote)).map Method.name = ["run"] ∧ methods (normalize looseQuote) = [] := by
  decide +kernel

end CodeSurvey.Source
