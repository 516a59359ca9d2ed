/-
Strings of a settings document.

`readText_quoted`: a written string is read back as it was, whatever form it takes. Escaping acts on each character
apart (`escapedChar`), and so does reading: one step of a reader undoes one character, in one of two forms
(`escapedChar_cases`). What is left is where a string of lines ends. A run of quotes is its end when it has three, and
up to two before them are of the string; `Sparse` says that no run has more than two, which both writing with escapes
and the choice of a form without escapes make sure of.
-/
import Mathlib.Tactic.SplitIfs
import CodeSurvey.Toml.Reader
import CodeSurvey.Toml.Writer

namespace CodeSurvey.Toml

open Text

/-! ## Escapes -/

/-- a character between double quotes, other than a quote -/
def escapedChar (lineEnds : Bool) (c : Char) : List Char :=
  if c == '\x08' then ['\\', 'b']
  else if c == '\t' then ['\\', 't']
  else if c == '\n' then (if lineEnds then ['\n'] else ['\\', 'n'])
  else if c == '\x0c' then ['\\', 'f']
  else if c == '\r' then ['\\', 'r']
  else if c == '\\' then ['\\', '\\']
  else if c.toNat < 32 || c.toNat == 127 then codeEscape c
  else [c]

theorem escapeFrom_cons {lineEnds : Bool} {most quotes : Nat} {c : Char} (hc : c ≠ '"') (cs : List Char) :
    escapeFrom lineEnds most quotes (c :: cs) = escapedChar lineEnds c ++ escapeFrom lineEnds most 0 cs := by
  rw [escapeFrom]
  · rfl
  · exact hc

theorem hexValue_upperHexDigit : ∀ n < 16, hexValue? (upperHexDigit n) = some n := by decide

/-- digits whose value is the code of a character are read as this character -/
theorem readCode_of_value {width : Nat} {cs : List Char} {c : Char} (hlength : width ≤ cs.length)
    (hvalue : (cs.take width).foldlM (fun n d => (hexValue? d).map (n * 16 + ·)) 0 = some c.toNat) :
    readCode width cs = some (c, cs.drop width) := by
  have hvalid : c.toNat.isValidChar := c.valid
  have hself : Char.ofNatAux c.toNat hvalid = c := by
    have hchar := Char.ofNat_toNat c
    rwa [Char.ofNat, dif_pos hvalid] at hchar
  rw [readCode, if_neg (Nat.not_lt.2 hlength), hvalue]
  exact (dif_pos hvalid).trans (by rw [hself])

/-- the code of a character is read back -/
theorem readEscape_code {c : Char} (hc : c.toNat < 128) (rest : List Char) :
    readEscape ('u' :: '0' :: '0' :: upperHexDigit (c.toNat / 16) :: upperHexDigit (c.toNat % 16) :: rest) =
      some (c, rest) := by
  have hhigh := hexValue_upperHexDigit (c.toNat / 16) (by omega)
  have hlow := hexValue_upperHexDigit (c.toNat % 16) (by omega)
  have hzero : hexValue? '0' = some 0 := by decide
  have hcode : c.toNat / 16 * 16 + c.toNat % 16 = c.toNat := by omega
  show readCode 4 ('0' :: '0' :: upperHexDigit (c.toNat / 16) :: upperHexDigit (c.toNat % 16) :: rest) = some (c, rest)
  refine readCode_of_value (Nat.le_add_left 4 rest.length) ?_
  simp [hhigh, hlow, hzero, hcode]

/-- what stands for an escaped character: a backslash and what undoes it, or the character -/
theorem escapedChar_cases (lineEnds : Bool) {c : Char} (hc : c ≠ '"') :
    (∃ e code, escapedChar lineEnds c = '\\' :: e :: code ∧ e ∉ [' ', '\t', '\n', '\r'] ∧
      ∀ rest, readEscape (e :: (code ++ rest)) = some (c, rest)) ∨
      escapedChar lineEnds c = [c] ∧ c ≠ '\\' ∧ c ≠ '\r' ∧ (isPlain c = true ∨ lineEnds = true ∧ c = '\n') := by
  unfold escapedChar
  split
  · rename_i h
    obtain rfl := eq_of_beq h
    exact .inl ⟨'b', [], rfl, by decide, fun _ => rfl⟩
  split
  · rename_i h
    obtain rfl := eq_of_beq h
    exact .inl ⟨'t', [], rfl, by decide, fun _ => rfl⟩
  split
  · rename_i h
    obtain rfl := eq_of_beq h
    cases lineEnds with
    | true => exact .inr ⟨rfl, by decide, by decide, .inr ⟨rfl, rfl⟩⟩
    | false => exact .inl ⟨'n', [], rfl, by decide, fun _ => rfl⟩
  split
  · rename_i h
    obtain rfl := eq_of_beq h
    exact .inl ⟨'f', [], rfl, by decide, fun _ => rfl⟩
  split
  · rename_i h
    obtain rfl := eq_of_beq h
    exact .inl ⟨'r', [], rfl, by decide, fun _ => rfl⟩
  split
  · rename_i h
    obtain rfl := eq_of_beq h
    exact .inl ⟨'\\', [], rfl, by decide, fun _ => rfl⟩
  split
  · rename_i h
    simp only [Bool.or_eq_true, decide_eq_true_eq, beq_iff_eq] at h
    exact .inl ⟨'u', _, rfl, by decide, readEscape_code (by omega)⟩
  · rename_i hreturn hbackslash hcontrol
    refine .inr ⟨rfl, fun h => hbackslash (beq_iff_eq.2 h), fun h => hreturn (beq_iff_eq.2 h), .inl ?_⟩
    simp only [Bool.or_eq_true, decide_eq_true_eq, beq_iff_eq, not_or] at hcontrol
    simp only [isPlain, Bool.or_eq_true, Bool.and_eq_true, decide_eq_true_eq, bne_iff_ne]
    exact .inr ⟨Nat.not_lt.1 hcontrol.1, hcontrol.2⟩

/-- one step of a reader undoes one escaped character -/
theorem readBasic_escapedChar {c : Char} (hc : c ≠ '"') (fuel : Nat) (rest : List Char) :
    readBasic (fuel + 1) (escapedChar false c ++ rest) = (readBasic fuel rest).map fun (s, rest) => (c :: s, rest) := by
  rcases escapedChar_cases false hc with ⟨e, code, hshown, -, hread⟩ | ⟨hshown, hbackslash, -, hplain⟩
  · rw [hshown, List.cons_append, List.cons_append, readBasic, hread, Option.bind_some]
  · have hplain : isPlain c = true := hplain.resolve_right fun h => absurd h.1 Bool.false_ne_true
    rw [hshown, List.singleton_append, readBasic.eq_def]
    simp [hplain]

theorem readLinesBasic_escapedChar {c : Char} (hc : c ≠ '"') (fuel : Nat) (rest : List Char) :
    readLinesBasic (fuel + 1) (escapedChar true c ++ rest) =
      (readLinesBasic fuel rest).map fun (s, rest) => (c :: s, rest) := by
  rcases escapedChar_cases true hc with ⟨e, code, hshown, hmark, hread⟩ | ⟨hshown, hbackslash, hreturn, hplain⟩
  · simp only [List.mem_cons, List.not_mem_nil, or_false, not_or] at hmark
    obtain ⟨hspace, htab, hend, hreturn⟩ := hmark
    have hgap : skipGap (e :: (code ++ rest)) = e :: (code ++ rest) :=
      List.dropWhile_cons_of_neg (by simp [isGap, hspace, htab])
    have hline : skipLineEnd (e :: (code ++ rest)) = none := by
      rw [skipLineEnd.eq_def]
      split <;> simp_all
    rw [hshown, List.cons_append, List.cons_append, readLinesBasic, hgap, hline, hread, Option.bind_some]
  · have hplain : isPlain c = true ∨ c = '\n' := hplain.imp_right And.right
    rw [hshown, List.singleton_append, readLinesBasic.eq_def]
    simp [hreturn, hplain]

/-! ## Strings in one line -/

/-- **A string with its escapes is read back.** -/
theorem readBasic_escapeFrom {cs : List Char} {quotes fuel : Nat} (hfuel : cs.length < fuel) (rest : List Char) :
    readBasic fuel (escapeFrom false 0 quotes cs ++ '"' :: rest) = some (cs, rest) := by
  induction cs generalizing quotes fuel with
  | nil =>
    obtain ⟨fuel, rfl⟩ := Nat.exists_eq_succ_of_ne_zero (Nat.ne_of_gt hfuel)
    rfl
  | cons c cs ih =>
    obtain ⟨fuel, rfl⟩ := Nat.exists_eq_succ_of_ne_zero (Nat.ne_of_gt (Nat.zero_lt_of_lt hfuel))
    have hrest (quotes : Nat) : readBasic fuel (escapeFrom false 0 quotes cs ++ '"' :: rest) = some (cs, rest) :=
      ih (Nat.lt_of_succ_lt_succ hfuel)
    by_cases hc : c = '"'
    · subst hc
      rw [escapeFrom, if_neg (Nat.not_lt_zero _), List.cons_append, List.cons_append, readBasic]
      simp [readEscape, hrest]
    · rw [escapeFrom_cons hc, List.append_assoc, readBasic_escapedChar hc, hrest, Option.map_some]

/-- **A string without escapes is read back**, if it has nothing that needs one. -/
theorem readLiteral_append {cs : List Char} (hcs : ∀ c ∈ cs, isPlain c = true ∧ c ≠ '\'') (rest : List Char) :
    readLiteral (cs ++ '\'' :: rest) = some (cs, rest) := by
  have hpass : ∀ c ∈ cs, (isPlain c && c != '\'') = true := fun c hc => by simp [hcs c hc]
  rw [readLiteral, List.dropWhile_append_of_pos hpass, List.takeWhile_append_of_pos hpass]
  simp

/-! ## Strings of lines -/

/-- the quotes at the front are at most two, with as many before the text -/
def ShortRun (q : Char) (before : Nat) (cs : List Char) : Prop :=
  ∃ n, before + n ≤ 2 ∧ (cs = List.replicate n q ∨ ∃ c more, cs = List.replicate n q ++ c :: more ∧ c ≠ q)

theorem shortRun_nil {q : Char} {before : Nat} (h : before ≤ 2) : ShortRun q before [] := ⟨0, h, .inl rfl⟩

theorem shortRun_other {q c : Char} {before : Nat} (h : before ≤ 2) (hc : c ≠ q) (cs : List Char) :
    ShortRun q before (c :: cs) := ⟨0, h, .inr ⟨c, cs, rfl, hc⟩⟩

theorem ShortRun.cons {q : Char} {before : Nat} {cs : List Char} (h : ShortRun q (before + 1) cs) :
    ShortRun q before (q :: cs) := by
  obtain ⟨n, hn, hrun⟩ := h
  refine ⟨n + 1, by omega, hrun.imp ?_ ?_⟩
  · rintro rfl
    rfl
  · rintro ⟨c, more, rfl, hc⟩
    exact ⟨c, more, rfl, hc⟩

/-- three quotes -/
def fence (q : Char) : List Char := [q, q, q]

theorem takeWhile_run {q : Char} (n : Nat) {rest : List Char} (hrest : ∀ c ∈ rest.head?, c ≠ q) :
    ((List.replicate n q ++ rest).takeWhile (· == q)).length = n ∧ (List.replicate n q ++ rest).drop n = rest := by
  constructor
  · rw [List.takeWhile_append_of_pos (by simp), List.length_append, List.length_replicate]
    cases rest with
    | nil => rfl
    | cons c rest => rw [List.takeWhile_cons_of_neg (by simpa using hrest c rfl)]; rfl
  · exact List.drop_left' (List.length_replicate)

theorem closingQuotes_run {q : Char} {n : Nat} (hn : n ≤ 2) {rest : List Char} (hrest : ∀ c ∈ rest.head?, c ≠ q) :
    closingQuotes q (List.replicate n q ++ (fence q ++ rest)) = some (n, rest) := by
  have hall : List.replicate n q ++ (fence q ++ rest) = List.replicate (n + 3) q ++ rest := by
    rw [← List.replicate_append_replicate, List.append_assoc]
    rfl
  obtain ⟨hlength, hdrop⟩ := takeWhile_run (n + 3) hrest
  rw [closingQuotes, hall, hlength, hdrop]
  simp
  omega

/-- what a reader of lines makes of a quote, when it reads on behind it to `next` -/
def atQuote (q : Char) (next : Read (List Char)) (cs : List Char) : Read (List Char) :=
  match closingQuotes q (q :: cs) with
  | some (n, after) => some (List.replicate n q, after)
  | none => if (fence q).isPrefixOf (q :: cs) then none else next.map fun (s, rest) => (q :: s, rest)

theorem atQuote_end {q : Char} {rest : List Char} (hrest : ∀ c ∈ rest.head?, c ≠ q) (next : Read (List Char)) :
    atQuote q next (q :: q :: rest) = some ([], rest) := by
  have hclosing : closingQuotes q (q :: q :: q :: rest) = some (0, rest) := closingQuotes_run (Nat.zero_le 2) hrest
  rw [atQuote, hclosing]
  rfl

/-- **At a quote of a string of lines, either the end begins or the string goes on.** -/
theorem atQuote_within {q : Char} {before : Nat} {shown s rest : List Char} {next : Read (List Char)}
    (h : ShortRun q (before + 1) shown) (hrest : ∀ c ∈ rest.head?, c ≠ q)
    (hall : ∀ n, shown = List.replicate n q → s = List.replicate n q) (hnext : next = some (s, rest)) :
    atQuote q next (shown ++ (fence q ++ rest)) = some (q :: s, rest) := by
  obtain ⟨n, hn, hrun | ⟨c, more, rfl, hc⟩⟩ := h
  · have hclosing : closingQuotes q (q :: (shown ++ (fence q ++ rest))) = some (n + 1, rest) :=
      hrun ▸ closingQuotes_run (n := n + 1) (by omega) hrest
    rw [atQuote, hclosing, hall n hrun]
    rfl
  · have hsplit : q :: (List.replicate n q ++ c :: more ++ (fence q ++ rest)) =
        List.replicate (n + 1) q ++ (c :: (more ++ (fence q ++ rest))) := by
      rw [List.append_assoc, List.replicate_succ, List.cons_append, List.cons_append]
    have hhead : ∀ d ∈ (c :: (more ++ (fence q ++ rest))).head?, d ≠ q := by simpa using hc
    obtain ⟨hlength, -⟩ := takeWhile_run (n + 1) hhead
    have hclosing : closingQuotes q (List.replicate (n + 1) q ++ (c :: (more ++ (fence q ++ rest)))) = none := by
      rw [closingQuotes, hlength]
      simp
      omega
    have hprefix : (fence q).isPrefixOf (List.replicate (n + 1) q ++ (c :: (more ++ (fence q ++ rest)))) = false := by
      have hcases : n = 0 ∨ n = 1 := by omega
      rcases hcases with rfl | rfl <;> simp [fence, List.replicate_succ, List.isPrefixOf, Ne.symm hc]
    rw [atQuote, hsplit, hclosing, hprefix, hnext]
    rfl

/-- what stands for an escaped character does not begin with a quote -/
theorem escapedChar_head (lineEnds : Bool) {c : Char} (hc : c ≠ '"') :
    ∃ d code, escapedChar lineEnds c = d :: code ∧ d ≠ '"' := by
  rcases escapedChar_cases lineEnds hc with ⟨e, code, hshown, -⟩ | ⟨hshown, -⟩
  · exact ⟨'\\', e :: code, hshown, by decide⟩
  · exact ⟨c, [], hshown, hc⟩

/-- Escapes leave no more than two quotes in a row. -/
theorem shortRun_escapeFrom (lineEnds : Bool) {quotes : Nat} (hquotes : quotes ≤ 2) (cs : List Char) :
    ShortRun '"' quotes (escapeFrom lineEnds 2 quotes cs) := by
  induction cs generalizing quotes with
  | nil => exact shortRun_nil hquotes
  | cons c cs ih =>
    by_cases hc : c = '"'
    · subst hc
      rw [escapeFrom]
      split
      · rename_i hlt
        exact (ih hlt).cons
      · exact shortRun_other hquotes (by decide) _
    · obtain ⟨d, code, hshown, hd⟩ := escapedChar_head lineEnds hc
      rw [escapeFrom_cons hc, hshown]
      exact shortRun_other hquotes hd _

/-- only quotes are written as quotes -/
theorem eq_replicate_of_escapeFrom {lineEnds : Bool} {most quotes n : Nat} {cs : List Char}
    (h : escapeFrom lineEnds most quotes cs = List.replicate n '"') : cs = List.replicate n '"' := by
  induction cs generalizing quotes n with
  | nil => exact h
  | cons c cs ih =>
    -- what the text begins with is a quote, so neither an escape nor another character
    have hquote : ∀ d code, escapeFrom lineEnds most quotes (c :: cs) = d :: code → d = '"' := fun d code hd =>
      List.eq_of_mem_replicate (h ▸ hd ▸ List.mem_cons_self)
    by_cases hc : c = '"'
    · subst hc
      by_cases hlt : quotes < most
      · rw [escapeFrom, if_pos hlt] at h
        cases n with
        | zero => exact absurd h (List.cons_ne_nil _ _)
        | succ n => exact congrArg ('"' :: ·) (ih (List.cons.inj h).2)
      · exact absurd (hquote _ _ (by rw [escapeFrom, if_neg hlt])) (by decide)
    · obtain ⟨d, code, hshown, hd⟩ := escapedChar_head lineEnds hc
      exact absurd (hquote d _ (by rw [escapeFrom_cons hc, hshown, List.cons_append])) hd

theorem readLinesBasic_quote (fuel : Nat) (cs : List Char) :
    readLinesBasic (fuel + 1) ('"' :: cs) = atQuote '"' (readLinesBasic fuel cs) cs := by
  rw [readLinesBasic]
  rfl

/-- **A string of lines with its escapes is read back.** -/
theorem readLinesBasic_escapeFrom {cs rest : List Char} {quotes fuel : Nat} (hquotes : quotes ≤ 2)
    (hfuel : cs.length < fuel) (hrest : ∀ c ∈ rest.head?, c ≠ '"') :
    readLinesBasic fuel (escapeFrom true 2 quotes cs ++ (fence '"' ++ rest)) = some (cs, rest) := by
  induction cs generalizing quotes fuel with
  | nil =>
    obtain ⟨fuel, rfl⟩ := Nat.exists_eq_succ_of_ne_zero (Nat.ne_of_gt hfuel)
    exact (readLinesBasic_quote fuel ('"' :: '"' :: rest)).trans (atQuote_end hrest _)
  | cons c cs ih =>
    obtain ⟨fuel, rfl⟩ := Nat.exists_eq_succ_of_ne_zero (Nat.ne_of_gt (Nat.zero_lt_of_lt hfuel))
    have hmore {quotes : Nat} (hquotes : quotes ≤ 2) :
        readLinesBasic fuel (escapeFrom true 2 quotes cs ++ (fence '"' ++ rest)) = some (cs, rest) :=
      ih hquotes (Nat.lt_of_succ_lt_succ hfuel)
    by_cases hc : c = '"'
    · subst hc
      by_cases hlt : quotes < 2
      · rw [escapeFrom, if_pos hlt, List.cons_append, readLinesBasic_quote]
        exact atQuote_within (shortRun_escapeFrom true hlt cs) hrest (fun _ => eq_replicate_of_escapeFrom) (hmore hlt)
      · rw [escapeFrom, if_neg hlt, List.cons_append, List.cons_append, readLinesBasic]
        simp [readEscape, skipGap, isGap, skipLineEnd, hmore]
    · rw [escapeFrom_cons hc, List.append_assoc, readLinesBasic_escapedChar hc, hmore (Nat.zero_le _), Option.map_some]

/-- no more than so many quotes in a row, with some before the text -/
def Sparse (q : Char) (most : Nat) : (before : Nat) → List Char → Prop
  | before, [] => before ≤ most
  | before, c :: cs => before ≤ most ∧ if c = q then Sparse q most (before + 1) cs else Sparse q most 0 cs

/-- one character more of a text whose runs are counted -/
def countRun (q : Char) : Nat × Nat → Char → Nat × Nat := fun (best, here) c =>
  if c == q then (max best (here + 1), here + 1) else (best, 0)

theorem best_le_countRun (q : Char) (cs : List Char) (best here : Nat) :
    best ≤ (cs.foldl (countRun q) (best, here)).1 := by
  induction cs generalizing best here with
  | nil => exact Nat.le_refl best
  | cons c cs ih =>
    rw [List.foldl_cons, countRun]
    split
    · exact Nat.le_trans (Nat.le_max_left _ _) (ih _ _)
    · exact ih _ _

theorem sparse_of_countRun {q : Char} {most : Nat} {cs : List Char} {best here : Nat}
    (h : (cs.foldl (countRun q) (best, here)).1 ≤ most) (hhere : here ≤ most) : Sparse q most here cs := by
  induction cs generalizing best here with
  | nil => exact hhere
  | cons c cs ih =>
    refine ⟨hhere, ?_⟩
    rw [List.foldl_cons, countRun] at h
    split at h
    · rename_i hc
      rw [if_pos (eq_of_beq hc)]
      exact ih h (Nat.le_trans (Nat.le_max_right _ _) (Nat.le_trans (best_le_countRun q cs _ _) h))
    · rename_i hc
      rw [if_neg fun heq => hc (beq_iff_eq.2 heq)]
      exact ih h (Nat.zero_le _)

theorem sparse_of_longestRun {q : Char} {most : Nat} {cs : List Char} (h : longestRun q cs ≤ most) :
    Sparse q most 0 cs := sparse_of_countRun h (Nat.zero_le _)

/-- where no quote stands in a row, none stands at all -/
theorem Sparse.ne {q : Char} {cs : List Char} (h : Sparse q 0 0 cs) : ∀ c ∈ cs, c ≠ q := by
  induction cs with
  | nil => exact fun c hc => absurd hc List.not_mem_nil
  | cons c cs ih =>
    obtain ⟨-, h⟩ := h
    by_cases hc : c = q
    · rw [if_pos hc] at h
      cases cs with
      | nil => exact absurd h (by simp [Sparse])
      | cons d cs => exact absurd h.1 (by simp)
    · rw [if_neg hc] at h
      exact List.forall_mem_cons.2 ⟨hc, ih h⟩

theorem Sparse.shortRun {q : Char} {before : Nat} {cs : List Char} (h : Sparse q 2 before cs) :
    ShortRun q before cs := by
  induction cs generalizing before with
  | nil => exact shortRun_nil h
  | cons c cs ih =>
    obtain ⟨hbefore, h⟩ := h
    by_cases hc : c = q
    · rw [if_pos hc] at h
      exact hc ▸ (ih h).cons
    · exact shortRun_other hbefore hc cs

theorem readLinesLiteral_quote (fuel : Nat) (cs : List Char) :
    readLinesLiteral (fuel + 1) ('\'' :: cs) = atQuote '\'' (readLinesLiteral fuel cs) cs := by
  rw [readLinesLiteral]
  rfl

theorem isPlain_of_needsCode {c : Char} (h : needsCode c = false) : isPlain c = true ∨ c = '\n' := by
  simp only [needsCode, Bool.or_eq_false_iff, Bool.and_eq_false_iff, decide_eq_false_iff_not, bne_eq_false_iff_eq,
    beq_eq_false_iff_ne] at h
  simp only [isPlain, Bool.or_eq_true, Bool.and_eq_true, decide_eq_true_eq, bne_iff_ne, beq_iff_eq]
  obtain ⟨(hhigh | htab) | hend, hdelete⟩ := h
  · exact .inl (.inr ⟨Nat.not_lt.1 hhigh, hdelete⟩)
  · exact .inl (.inl htab)
  · exact .inr hend

/-- **A string of lines without escapes is read back**, if it has nothing that needs one. -/
theorem readLinesLiteral_append {cs rest : List Char} {before fuel : Nat} (hcs : ∀ c ∈ cs, needsCode c = false)
    (hsparse : Sparse '\'' 2 before cs) (hfuel : cs.length < fuel) (hrest : ∀ c ∈ rest.head?, c ≠ '\'') :
    readLinesLiteral fuel (cs ++ (fence '\'' ++ rest)) = some (cs, rest) := by
  induction cs generalizing before fuel with
  | nil =>
    obtain ⟨fuel, rfl⟩ := Nat.exists_eq_succ_of_ne_zero (Nat.ne_of_gt hfuel)
    exact (readLinesLiteral_quote fuel ('\'' :: '\'' :: rest)).trans (atQuote_end hrest _)
  | cons c cs ih =>
    obtain ⟨fuel, rfl⟩ := Nat.exists_eq_succ_of_ne_zero (Nat.ne_of_gt (Nat.zero_lt_of_lt hfuel))
    obtain ⟨hc, hothers⟩ := List.forall_mem_cons.1 hcs
    obtain ⟨-, hsparse⟩ := hsparse
    by_cases hquote : c = '\''
    · subst hquote
      rw [if_pos rfl] at hsparse
      rw [List.cons_append, readLinesLiteral_quote]
      exact atQuote_within hsparse.shortRun hrest (fun _ h => h) (ih hothers hsparse (Nat.lt_of_succ_lt_succ hfuel))
    · rw [if_neg hquote] at hsparse
      have hmore := ih hothers hsparse (Nat.lt_of_succ_lt_succ hfuel)
      have hreturn : c ≠ '\r' := by
        rintro rfl
        exact absurd hc (by decide)
      rw [List.cons_append, readLinesLiteral.eq_def]
      simp [hreturn, isPlain_of_needsCode hc, hmore]

/-! ## Written strings -/

theorem length_le_escapeFrom (lineEnds : Bool) (most quotes : Nat) (cs : List Char) :
    cs.length ≤ (escapeFrom lineEnds most quotes cs).length := by
  induction cs generalizing quotes with
  | nil => exact Nat.zero_le _
  | cons c cs ih =>
    by_cases hc : c = '"'
    · subst hc
      rw [escapeFrom]
      split
      · exact Nat.succ_le_succ (ih _)
      · exact Nat.succ_le_succ (Nat.le_succ_of_le (ih _))
    · obtain ⟨d, code, hshown, -⟩ := escapedChar_head lineEnds hc
      rw [escapeFrom_cons hc, hshown, List.length_append, List.length_cons, List.length_cons]
      have hle := ih 0
      omega

/-- what text with escapes begins with is no line end, unless the text has one -/
theorem head_escapeFrom {cs : List Char} (hcs : '\n' ∉ cs) :
    ∀ d ∈ (escapeFrom true 2 0 cs).head?, d ≠ '\n' ∧ d ≠ '\r' := by
  cases cs with
  | nil => exact fun d hd => absurd hd (by simp [escapeFrom])
  | cons c cs =>
    by_cases hc : c = '"'
    · subst hc
      intro d hd
      rw [escapeFrom, if_pos (by decide)] at hd
      obtain rfl := Option.some.inj hd
      decide
    · rw [escapeFrom_cons hc]
      rcases escapedChar_cases true hc with ⟨e, code, hshown, -⟩ | ⟨hshown, -, hreturn, -⟩
      · intro d hd
        rw [hshown] at hd
        obtain rfl := Option.some.inj hd
        decide
      · intro d hd
        rw [hshown] at hd
        obtain rfl := Option.some.inj hd
        exact ⟨fun h => hcs (h ▸ List.mem_cons_self), hreturn⟩

/-- A string of lines has a line end in front if it has one inside, and reading drops it. -/
theorem skipFirstEnd_first (cs body : List Char) (hbody : '\n' ∉ cs → ∀ d ∈ body.head?, d ≠ '\n' ∧ d ≠ '\r') :
    skipFirstEnd ((if cs.contains '\n' then "\n" else "").toList ++ body) = body := by
  by_cases hcs : '\n' ∈ cs
  · rw [if_pos (List.contains_iff_mem.2 hcs)]
    rfl
  · rw [if_neg fun h => hcs (List.contains_iff_mem.1 h)]
    have hhead := hbody hcs
    show skipFirstEnd body = body
    rw [skipFirstEnd.eq_def]
    split <;> simp_all

theorem readText_basic {cs : List Char} (h : ∀ more, cs ≠ '"' :: '"' :: more) :
    readText ('"' :: cs) = readBasic (cs.length + 1) cs := by
  rw [readText.eq_def]
  split <;> simp_all

theorem readText_literal {cs : List Char} (h : ∀ more, cs ≠ '\'' :: '\'' :: more) :
    readText ('\'' :: cs) = readLiteral cs := by
  rw [readText.eq_def]
  split <;> simp_all

theorem readText_linesBasic (cs : List Char) :
    readText (fence '"' ++ cs) = readLinesBasic (cs.length + 1) (skipFirstEnd cs) := rfl

theorem readText_linesLiteral (cs : List Char) :
    readText (fence '\'' ++ cs) = readLinesLiteral (cs.length + 1) (skipFirstEnd cs) := rfl

/-- A form without escapes is taken only by strings that need none. -/
theorem of_quoting {cs : List Char} :
    (quoting cs = .single → (∀ c ∈ cs, needsCode c = false) ∧ longestRun '\'' cs = 0 ∧ '\n' ∉ cs) ∧
      (quoting cs = .tripleSingle → (∀ c ∈ cs, needsCode c = false) ∧ longestRun '\'' cs ≤ 2) := by
  unfold quoting
  dsimp only
  split_ifs with hdouble hsingle hbasic hliteral hbroken <;> simp_all

/-- what may follow a string: no quote of either kind -/
def Clear (rest : List Char) : Prop := ∀ c ∈ rest.head?, c ≠ '"' ∧ c ≠ '\''

variable {cs rest : List Char} (hrest : Clear rest)

include hrest

theorem readText_double : readText ('"' :: (escapeFrom false 0 0 cs ++ '"' :: rest)) = some (cs, rest) := by
  rw [readText_basic, readBasic_escapeFrom]
  · rw [List.length_append, List.length_cons]
    have hle := length_le_escapeFrom false 0 0 cs
    omega
  · intro more heq
    cases cs with
    | nil =>
      obtain rfl := (List.cons.inj heq).2
      exact (hrest '"' rfl).1 rfl
    | cons c cs =>
      by_cases hc : c = '"'
      · subst hc
        rw [escapeFrom, if_neg (Nat.not_lt_zero _)] at heq
        exact absurd (List.cons.inj heq).1 (by decide)
      · obtain ⟨d, code, hshown, hd⟩ := escapedChar_head false hc
        rw [escapeFrom_cons hc, hshown] at heq
        exact hd (List.cons.inj heq).1

theorem readText_single (hcs : ∀ c ∈ cs, isPlain c = true ∧ c ≠ '\'') :
    readText ('\'' :: (cs ++ '\'' :: rest)) = some (cs, rest) := by
  rw [readText_literal, readLiteral_append hcs]
  intro more heq
  cases cs with
  | nil =>
    obtain rfl := (List.cons.inj heq).2
    exact (hrest '\'' rfl).2 rfl
  | cons c cs => exact (hcs c List.mem_cons_self).2 (List.cons.inj heq).1

theorem readText_tripleDouble :
    readText (fence '"' ++ ((if cs.contains '\n' then "\n" else "").toList ++
      (escapeFrom true 2 0 cs ++ (fence '"' ++ rest)))) = some (cs, rest) := by
  have hskip := skipFirstEnd_first cs (escapeFrom true 2 0 cs ++ (fence '"' ++ rest)) fun hcs d hd => by
    cases hshown : escapeFrom true 2 0 cs with
    | nil =>
      rw [hshown] at hd
      obtain rfl : '"' = d := Option.some.inj hd
      decide
    | cons e es =>
      rw [hshown] at hd
      exact head_escapeFrom hcs d (by rw [hshown]; exact hd)
  rw [readText_linesBasic, hskip, readLinesBasic_escapeFrom (Nat.zero_le 2) _ fun c hc => (hrest c hc).1]
  have hle := length_le_escapeFrom true 2 0 cs
  simp only [List.length_append]
  omega

theorem readText_tripleSingle (hcs : ∀ c ∈ cs, needsCode c = false) (hsparse : longestRun '\'' cs ≤ 2) :
    readText (fence '\'' ++ ((if cs.contains '\n' then "\n" else "").toList ++
      (cs ++ (fence '\'' ++ rest)))) = some (cs, rest) := by
  have hskip := skipFirstEnd_first cs (cs ++ (fence '\'' ++ rest)) fun hend d hd => by
    cases cs with
    | nil =>
      obtain rfl : '\'' = d := Option.some.inj hd
      decide
    | cons e es =>
      obtain rfl : e = d := Option.some.inj hd
      refine ⟨fun h => hend (h ▸ List.mem_cons_self), ?_⟩
      rintro rfl
      exact absurd (hcs _ List.mem_cons_self) (by decide)
  rw [readText_linesLiteral, hskip,
    readLinesLiteral_append hcs (sparse_of_longestRun hsparse) _ fun c hc => (hrest c hc).2]
  simp only [List.length_append]
  omega

/-- **A written string is read back.** -/
theorem readText_quoted (s : String) : readText ((quoted s).toList ++ rest) = some (s.toList, rest) := by
  unfold quoted
  dsimp only
  cases hquoting : quoting s.toList with
  | double =>
    simp only [String.toList_append, String.toList_ofList, List.append_assoc]
    exact readText_double hrest
  | single =>
    obtain ⟨hplain, hruns, hend⟩ := of_quoting.1 hquoting
    simp only [String.toList_append, List.append_assoc]
    refine readText_single hrest fun c hc => ⟨?_, (sparse_of_longestRun (Nat.le_of_eq hruns)).ne c hc⟩
    refine (isPlain_of_needsCode (hplain c hc)).resolve_right ?_
    rintro rfl
    exact hend hc
  | tripleDouble =>
    simp only [String.toList_append, String.toList_ofList, List.append_assoc]
    exact readText_tripleDouble hrest
  | tripleSingle =>
    obtain ⟨hplain, hruns⟩ := of_quoting.2 hquoting
    simp only [String.toList_append, List.append_assoc]
    exact readText_tripleSingle hrest hplain hruns

end CodeSurvey.Toml
