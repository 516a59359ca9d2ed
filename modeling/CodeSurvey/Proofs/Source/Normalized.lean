/-
What normalized text looks like, and that it is not changed again.

Blanks are collapsed after the comments are out, within literals too. `spaced_begun` and `filter_collapsed` say what the
collapse leaves: single spaces between other characters, and these in their order.

The modes of the reader do not depend on how many blanks stand in a row, nor on which, as long as no literal ends at a
line feed. So the collapsed text is read in step with the one before it (`Takes.collapses`, `Reads.collapses`), and
nothing in it is a comment. Where the gap behind a backslash is at the end of the text, trimming leaves the backslash
alone, which is kept as well. Main statement: `normalize_normal`.
-/
import CodeSurvey.Proofs.Source.Revision
import CodeSurvey.Proofs.Source.Stripped

namespace CodeSurvey.Source

open Text

/-! ## Collapsed text -/

/-- the collapsed text -/
def begun (cs : List Char) : List Char := collapsed false (cs.dropWhile isBlank)

theorem begun_blank {c : Char} (h : isBlank c = true) (cs : List Char) : begun (c :: cs) = begun cs := by
  rw [begun, List.dropWhile_cons_of_pos h, begun]

theorem begun_word {c : Char} (h : isBlank c = false) (cs : List Char) :
    begun (c :: cs) = c :: collapsed false cs := by
  rw [begun, List.dropWhile_cons_of_neg (by simp [h]), collapsed_word h]
  rfl

theorem collapsed_false_word {c : Char} (h : isBlank c = false) (cs : List Char) :
    collapsed false (c :: cs) = c :: collapsed false cs :=
  collapsed_word h false cs

/-- a gap is one space before the text behind it, or nothing at the end -/
theorem collapsed_true (cs : List Char) :
    collapsed true cs = ' ' :: begun cs ∨ collapsed true cs = [] ∧ begun cs = [] := by
  induction cs with
  | nil => exact .inr ⟨rfl, rfl⟩
  | cons c cs ih =>
    by_cases h : isBlank c = true
    · rwa [collapsed_blank h, begun_blank h]
    · rw [Bool.not_eq_true] at h
      rw [collapsed_word h, begun_word h]
      exact .inl rfl

theorem collapse_ofList (cs : List Char) : collapse (String.ofList cs) = String.ofList (begun cs) :=
  collapse_eq cs

theorem collapsed_collapsed (gap : Bool) (cs : List Char) : collapsed false (collapsed gap cs) = collapsed gap cs := by
  induction cs generalizing gap with
  | nil => rfl
  | cons c cs ih =>
    by_cases h : isBlank c = true
    · rw [collapsed_blank h, ih]
    · rw [Bool.not_eq_true] at h
      have hrest : collapsed false (c :: collapsed false cs) = c :: collapsed false cs := by
        rw [collapsed_false_word h, ih]
      cases gap with
      | false => rwa [collapsed_false_word h]
      | true =>
        rw [collapsed_word h, if_pos rfl, List.singleton_append, collapsed_blank (by decide), collapsed_word h, ih]
        rfl

/-- Collapsing twice is collapsing once. -/
theorem begun_begun (cs : List Char) : begun (begun cs) = begun cs := by
  rw [begun.eq_1 cs]
  cases h : cs.dropWhile isBlank with
  | nil => rfl
  | cons c rest =>
    have hword : isBlank c = false := by
      have hfirst := List.head?_dropWhile_not isBlank cs
      rw [h] at hfirst
      simpa using hfirst
    rw [collapsed_false_word hword, begun_word hword, collapsed_collapsed]

/-- what is no blank stays, in order -/
theorem filter_collapsed (gap : Bool) (cs : List Char) :
    (collapsed gap cs).filter (!isBlank ·) = cs.filter (!isBlank ·) := by
  induction cs generalizing gap with
  | nil => rfl
  | cons c cs ih =>
    by_cases h : isBlank c = true
    · rw [collapsed_blank h, ih, List.filter_cons_of_neg (by simp [h])]
    · rw [Bool.not_eq_true] at h
      rw [collapsed_word h, List.filter_append, List.filter_cons_of_pos (by simp [h]), ih,
        List.filter_cons_of_pos (by simp [h])]
      cases gap <;> rfl

theorem filter_begun (cs : List Char) : (begun cs).filter (!isBlank ·) = cs.filter (!isBlank ·) := by
  induction cs with
  | nil => rfl
  | cons c cs ih =>
    by_cases h : isBlank c = true
    · rw [begun_blank h, ih, List.filter_cons_of_neg (by simp [h])]
    · rw [Bool.not_eq_true] at h
      rw [begun_word h, List.filter_cons_of_pos (by simp [h]), filter_collapsed, List.filter_cons_of_pos (by simp [h])]

/-! ## Single spaces -/

/-- every blank of the text is a space between two characters that are no blanks -/
def Spaced (cs : List Char) : Prop :=
  ∀ front c back, cs = front ++ c :: back → isBlank c = true →
    c = ' ' ∧ (∃ init x, front = init ++ [x] ∧ isBlank x = false) ∧ ∃ y tail, back = y :: tail ∧ isBlank y = false

theorem spaced_nil : Spaced [] := fun front c back h => absurd h (by simp)

theorem Spaced.cons_word {x : Char} {cs : List Char} (h : Spaced cs) (hx : isBlank x = false) : Spaced (x :: cs) := by
  intro front c back hsplit hc
  cases front with
  | nil =>
    obtain ⟨rfl, -⟩ := List.cons.inj hsplit
    exact absurd hc (by simp [hx])
  | cons x' front =>
    obtain ⟨rfl, hrest⟩ := List.cons.inj hsplit
    obtain ⟨hspace, ⟨init, y, rfl, hy⟩, hback⟩ := h front c back hrest hc
    exact ⟨hspace, ⟨x :: init, y, rfl, hy⟩, hback⟩

/-- no blank stands first -/
theorem Spaced.head {y : Char} {cs : List Char} (h : Spaced (y :: cs)) : isBlank y = false := by
  rw [← Bool.not_eq_true]
  intro hy
  obtain ⟨-, ⟨init, x, hfront, -⟩, -⟩ := h [] y cs rfl hy
  exact absurd hfront (by simp)

theorem Spaced.cons_space {x y : Char} {cs : List Char} (h : Spaced (y :: cs)) (hx : isBlank x = false) :
    Spaced (x :: ' ' :: y :: cs) := by
  intro front c back hsplit hc
  match front, hsplit with
  | [], hsplit =>
    obtain ⟨rfl, -⟩ := List.cons.inj hsplit
    exact absurd hc (by simp [hx])
  | [x'], hsplit =>
    obtain ⟨rfl, hrest⟩ := List.cons.inj hsplit
    obtain ⟨rfl, rfl⟩ := List.cons.inj hrest
    exact ⟨rfl, ⟨[], x, rfl, hx⟩, y, cs, rfl, h.head⟩
  | x' :: s :: front, hsplit =>
    obtain ⟨rfl, hrest⟩ := List.cons.inj hsplit
    obtain ⟨rfl, hlast⟩ := List.cons.inj hrest
    obtain ⟨hspace, ⟨init, z, rfl, hz⟩, hback⟩ := h front c back hlast hc
    exact ⟨hspace, ⟨x :: ' ' :: init, z, rfl, hz⟩, hback⟩

theorem spaced_collapsed {x : Char} (hx : isBlank x = false) (gap : Bool) (cs : List Char) :
    Spaced (x :: collapsed gap cs) := by
  induction cs generalizing x gap with
  | nil => exact spaced_nil.cons_word hx
  | cons c cs ih =>
    by_cases h : isBlank c = true
    · rw [collapsed_blank h]
      exact ih hx true
    · rw [Bool.not_eq_true] at h
      rw [collapsed_word h]
      cases gap with
      | false => exact (ih h false).cons_word hx
      | true => exact (ih h false).cons_space hx

theorem spaced_begun (cs : List Char) : Spaced (begun cs) := by
  induction cs with
  | nil => exact spaced_nil
  | cons c cs ih =>
    by_cases h : isBlank c = true
    · rwa [begun_blank h]
    · rw [Bool.not_eq_true] at h
      rw [begun_word h]
      exact spaced_collapsed h false cs

/-! ## Text that is kept as it is -/

/-- from the mode on, the reader keeps the whole text -/
def Intact (mode : Mode) (cs : List Char) : Prop :=
  ∃ kept last, Reads mode cs kept last [] ∧ kept.map Prod.fst = cs

theorem intact_nil (mode : Mode) : Intact mode [] := ⟨[], mode, .refl mode [], rfl⟩

theorem Takes.intact {mode next : Mode} {text rest : List Char} {kept : List (Char × Origin)}
    (h : Takes mode text kept next rest) (htext : kept.map Prod.fst ++ rest = text) (hrest : Intact next rest) :
    Intact mode text := by
  obtain ⟨kept', last, hread, rfl⟩ := hrest
  exact ⟨kept ++ kept', last, .step h hread, by rw [List.map_append, htext]⟩

theorem Intact.stripComments {cs : List Char} (h : Intact .code cs) :
    stripComments (String.ofList cs) = String.ofList cs := by
  obtain ⟨kept, last, hread, hkept⟩ := h
  rw [stripComments_of_reads hread, hkept]

/-- outside comments a space changes nothing -/
theorem Intact.cons_space {mode : Mode} (hmode : mode.plain = mode) {cs : List Char} (h : Intact mode cs) :
    Intact mode (' ' :: cs) := by
  cases mode with
  | code => exact (takes_blank (by decide) cs).intact rfl h
  | inString => exact (Takes.inLiteral .string ' ' cs (by decide)).intact rfl h
  | inChar => exact (Takes.inLiteral .char ' ' cs (by decide)).intact rfl h
  | textBlock => exact (Takes.inTextBlock ' ' cs (by decide) fun hc => absurd hc (by decide)).intact rfl h
  | lineComment | blockComment => exact nomatch hmode

/-! ## Collapsed text is read in step -/

/-- a collapsed text shows the reader no more than the text does -/
theorem ahead_collapsed (cs : List Char) : Ahead cs (collapsed false cs) := by
  cases cs with
  | nil => exact ⟨fun _ => rfl, fun d _ h => h, fun h => h⟩
  | cons c cs =>
    by_cases h : isBlank c = true
    · -- then it starts with a space, or is empty
      rw [collapsed_blank h]
      rcases collapsed_true cs with hspace | ⟨hempty, -⟩
      · rw [hspace]
        refine ⟨nofun, fun d hd hhead => ?_, fun hquotes => ?_⟩
        · exact absurd (Option.some.inj hhead) (ne_of_isBlank (by decide) hd)
        · exact absurd (List.cons_prefix_cons.1 hquotes).1 (by decide)
      · rw [hempty]
        exact ⟨nofun, nofun, fun hquotes => absurd hquotes (by decide)⟩
    · rw [Bool.not_eq_true] at h
      rw [collapsed_false_word h]
      refine ⟨nofun, fun d _ hhead => hhead, fun hquotes => quotes_cons (fun hsecond => ?_) hquotes⟩
      cases cs with
      | nil => exact hsecond
      | cons c' cs =>
        by_cases h' : isBlank c' = true
        · rw [collapsed_blank h'] at hsecond
          rcases collapsed_true cs with hspace | ⟨hempty, -⟩
          · rw [hspace] at hsecond
            exact absurd (Option.some.inj hsecond) (by decide)
          · rw [hempty] at hsecond
            exact nomatch hsecond
        · rw [Bool.not_eq_true] at h'
          rwa [collapsed_false_word h'] at hsecond

theorem collapsed_words {ws : List Char} (h : ∀ c ∈ ws, isBlank c = false) (cs : List Char) :
    collapsed false (ws ++ cs) = ws ++ collapsed false cs := by
  induction ws with
  | nil => rfl
  | cons w ws ih =>
    obtain ⟨hw, hws⟩ := List.forall_mem_cons.1 h
    rw [List.cons_append, collapsed_false_word hw, ih hws, List.cons_append]

theorem begun_words {ws : List Char} (h : ∀ c ∈ ws, isBlank c = false) (hne : ws ≠ []) (cs : List Char) :
    begun (ws ++ cs) = ws ++ collapsed false cs := by
  obtain ⟨w, ws, rfl⟩ := List.exists_cons_of_ne_nil hne
  obtain ⟨hw, hws⟩ := List.forall_mem_cons.1 h
  rw [List.cons_append, begun_word hw, collapsed_words hws, List.cons_append]

/-- collapsed, the text is kept as it is: where a word has been read before it, and where a gap has -/
structure Collapses (mode : Mode) (cs : List Char) : Prop where
  within : Intact mode (collapsed false cs)
  start : Intact mode (begun cs)

/-- a blank before the text leaves the mode alone -/
theorem Collapses.blank {mode : Mode} {cs : List Char} (h : Collapses mode cs) (hmode : mode.plain = mode) {c : Char}
    (hc : isBlank c = true) : Collapses mode (c :: cs) where
  within := by
    rw [collapsed_blank hc]
    rcases collapsed_true cs with hspace | ⟨hempty, -⟩
    · rw [hspace]
      exact h.start.cons_space hmode
    · rw [hempty]
      exact intact_nil mode
  start := by
    rw [begun_blank hc]
    exact h.start

/-- a turn over words is made before the collapsed text too -/
theorem Collapses.words {mode next : Mode} {cs : List Char} {kept : List (Char × Origin)} (h : Collapses next cs)
    (hturn : Takes mode (kept.map Prod.fst ++ collapsed false cs) kept next (collapsed false cs))
    (hwords : ∀ c ∈ kept.map Prod.fst, isBlank c = false) (hne : kept.map Prod.fst ≠ []) :
    Collapses mode (kept.map Prod.fst ++ cs) where
  within := by
    rw [collapsed_words hwords]
    exact hturn.intact rfl h.within
  start := by
    rw [begun_words hwords hne]
    exact hturn.intact rfl h.within

/-- a backslash takes the space that is left of a gap, or stands last where trimming took the gap -/
theorem Collapses.escape {mode : Mode} (hmode : mode.isLiteral = true) {cs : List Char} (h : Collapses mode cs)
    {c : Char} (hc : isBlank c = true) : Collapses mode ('\\' :: c :: cs) := by
  have hback : isBlank '\\' = false := by decide
  have hintact : Intact mode ('\\' :: collapsed true cs) := by
    rcases collapsed_true cs with hspace | ⟨hempty, -⟩
    · rw [hspace]
      exact (Takes.escape mode hmode ' ' _).intact rfl h.start
    · rw [hempty]
      exact (Takes.loneBackslash mode hmode).intact rfl (intact_nil mode)
  constructor
  · rwa [collapsed_false_word hback, collapsed_blank hc]
  · rwa [begun_word hback, collapsed_blank hc]

/-- outside comments a turn keeps something -/
theorem Takes.kept_ne_nil {mode next : Mode} {text rest : List Char} {kept : List (Char × Origin)}
    (h : Takes mode text kept next rest) (hmode : mode.plain = mode) : kept ≠ [] := by
  cases h with
  | lineEnd | inLineComment | blockEnd | inBlockComment => exact nomatch hmode
  | _ => exact List.cons_ne_nil _ _

theorem isBlank_mark (k : Literal) : isBlank k.mark = false := by
  cases k <;> decide

theorem isBlank_tripleQuote : ∀ c ∈ (marked .delimiter tripleQuote).map Prod.fst, isBlank c = false := by
  have hquote : isBlank '"' = false := by decide
  rw [map_fst_marked]
  simp [tripleQuote, hquote]

/-- **One turn in the collapsed text**: it is made there too, unless a line feed cuts off a literal. -/
theorem Takes.collapses {mode next last : Mode} {text rest : List Char} {kept kept' : List (Char × Origin)}
    (first : Takes mode text kept next rest) (others : Reads next rest kept' last [])
    (hcut : ('\n', .delimiter) ∉ kept) (h : Collapses next.plain (kept'.map Prod.fst)) :
    Collapses mode.plain (kept.map Prod.fst ++ kept'.map Prod.fst) := by
  rcases first.plain_or with ⟨hmode, hnext⟩ | ⟨hmode, hnext, hleft⟩
  · have hahead := (others.ahead hnext).trans (ahead_collapsed _)
    have hturn := first.over hmode hnext hahead
    rw [hnext] at h
    rw [hmode]
    by_cases hwords : ∀ c ∈ kept.map Prod.fst, isBlank c = false
    · exact h.words hturn hwords (mt List.map_eq_nil_iff.1 (first.kept_ne_nil hmode))
    · cases first with
      | code c | inTextBlock c | inLiteral _ c => exact h.blank hmode (by simpa using hwords)
      | escape _ hliteral c =>
        have hblank : isBlank c = true := by simpa [show isBlank '\\' = false by decide] using hwords
        exact h.escape hliteral hblank
      | cutOff => exact absurd List.mem_cons_self hcut
      | literalStart k | literalEnd k => exact (hwords (List.forall_mem_singleton.2 (isBlank_mark k))).elim
      | textBlockStart | textBlockEnd => exact (hwords isBlank_tripleQuote).elim
      | loneBackslash => exact (hwords (List.forall_mem_singleton.2 (by decide))).elim
      | lineStart | blockStart => exact nomatch hnext
      | lineEnd | inLineComment | blockEnd | inBlockComment => exact nomatch hmode
  · -- a comment is read, and leaves a blank of code or nothing
    rw [hnext] at h
    rw [hmode]
    rcases hleft with rfl | rfl | rfl
    · exact h
    · exact h.blank rfl (by decide)
    · exact h.blank rfl (by decide)

/-- **The collapsed text is read in step** with the one that blanks are kept in. -/
theorem Reads.collapses {mode last : Mode} {text : List Char} {kept : List (Char × Origin)}
    (h : Reads mode text kept last []) (hcut : ('\n', .delimiter) ∉ kept) :
    Collapses mode.plain (kept.map Prod.fst) := by
  generalize htail : ([] : List Char) = tail at h
  induction h with
  | refl => exact ⟨intact_nil _, intact_nil _⟩
  | step first others ih =>
    subst htail
    simp only [List.mem_append, not_or] at hcut
    rw [List.map_append]
    exact first.collapses others hcut.1 (ih hcut.2 rfl)

/-! ## Normalized text -/

/-- no string or character literal is ended by a line feed -/
def Uncut (text : String) : Prop := (newline, .delimiter) ∉ markedBytes text

instance (text : String) : Decidable (Uncut text) :=
  inferInstanceAs (Decidable ((newline, .delimiter) ∉ markedBytes text))

theorem Uncut.kept {text : String} (h : Uncut text) {last : Mode} {kept : List (Char × Origin)}
    (hread : Reads .code text.toList kept last []) : ('\n', .delimiter) ∉ kept := by
  intro hmem
  refine h ?_
  rw [markedBytes, hread.turns_eq.1]
  exact List.mem_flatMap.2 ⟨_, hmem, by decide⟩

/-- **What normalizing leaves**: single spaces between what the text has other than blanks and comments. Normalizing
twice is normalizing once, unless a line feed ends a literal. -/
theorem normalize_normal (text : String) :
    Spaced (normalize text).toList ∧
      (normalize text).toList.filter (!isBlank ·) = (stripComments text).toList.filter (!isBlank ·) ∧
      (Uncut text → normalize (normalize text) = normalize text) := by
  obtain ⟨kept, last, hread, hstrip⟩ := exists_reads_text text
  have hnormal : normalize text = String.ofList (begun (kept.map Prod.fst)) := by
    rw [normalize, hstrip, collapse_ofList]
  refine ⟨?_, ?_, fun huncut => ?_⟩
  · rw [hnormal, String.toList_ofList]
    exact spaced_begun _
  · rw [hnormal, hstrip, String.toList_ofList, String.toList_ofList]
    exact filter_begun _
  · have hintact : Intact .code (begun (kept.map Prod.fst)) := (hread.collapses (huncut.kept hread)).start
    rw [hnormal, normalize, hintact.stripComments, collapse_ofList, begun_begun]

/-- two literals that hold the start of a comment, and a string that the text ends in, behind a backslash -/
def lastBackslash : String := "a  // b\n \"\"\"\n \\\"\"\" c \"\"\"\t'/*' /* ' */ \"\\ \u3000\\\"  // \\ "

theorem normalize_lastBackslash :
    Uncut lastBackslash ∧ normalize (normalize lastBackslash) = normalize lastBackslash := by
  have huncut : Uncut lastBackslash := by decide +kernel
  exact ⟨huncut, (normalize_normal lastBackslash).2.2 huncut⟩

/-- where a line feed ends a literal, the next quote changes sides -/
example : normalize "\"\n\" // \"" = "\" \" // \"" ∧ normalize "\" \" // \"" = "\" \"" := by decide +kernel

end CodeSurvey.Source
