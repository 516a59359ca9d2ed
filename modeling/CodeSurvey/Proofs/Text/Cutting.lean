/-
What cutting leaves of a text.

Blanks before a text are no part of what trimming leaves nor of its words (`trim_gap`, `words_gap`), a text without
blanks at its ends is trimmed already, and a word with a blank behind it is the first of the words. A text between
separators is the same list of parts as the text itself (`joined_split`, `split_joined`). A start or an end is cut off a
text exactly when the text has it (`stripStart_eq_some_iff`, `stripEnd_eq_some_iff`).

`lines` drops the line ends, and the empty part behind the last of them (`lines_of_split`). So a text that is written
line by line, with either line end behind each, has these lines (`lines_ended`).
-/
import CodeSurvey.Text.Words

namespace CodeSurvey.Text

section

variable {p : Char → Prop} [DecidablePred p]

-- A library instance decides statements about all characters; for the characters of a text it would try each there is.
instance decidableForallText (text : List Char) : Decidable (∀ c ∈ text, p c) := List.decidableBAll p text

instance decidableForallFirst (first : Option Char) : Decidable (∀ c ∈ first, p c) := Option.decidableForallMem first

end

/-- only blanks -/
def Blank (gap : List Char) : Prop := ∀ c ∈ gap, isBlank c = true

instance (gap : List Char) : Decidable (Blank gap) := inferInstanceAs (Decidable (∀ c ∈ gap, isBlank c = true))

theorem blank_nil : Blank [] := fun _ h => absurd h List.not_mem_nil

theorem Blank.append {gap gap' : List Char} (h : Blank gap) (h' : Blank gap') : Blank (gap ++ gap') := by
  intro c hc
  rcases List.mem_append.1 hc with hc | hc
  · exact h c hc
  · exact h' c hc

/-- what comes first of blanks with something behind them is a blank or comes first behind them -/
theorem Blank.head {gap rest : List Char} (h : Blank gap) {p : Char → Prop} (hp : ∀ c, isBlank c = true → p c)
    (hrest : ∀ c ∈ rest.head?, p c) : ∀ c ∈ (gap ++ rest).head?, p c := by
  cases gap with
  | nil => exact hrest
  | cons b gap =>
    intro c hc
    exact Option.some.inj hc ▸ hp b (h b List.mem_cons_self)

/-! ## Trimming -/

theorem trim_gap {gap : List Char} (h : Blank gap) (cs : List Char) : trim (gap ++ cs) = trim cs := by
  rw [trim, trim, trimStart, trimStart, List.dropWhile_append_of_pos h]

/-- a text that neither starts nor ends with a blank is trimmed -/
theorem trim_of_ends {cs : List Char} (hfirst : ∀ c ∈ cs.head?, isBlank c = false)
    (hlast : ∀ c ∈ cs.getLast?, isBlank c = false) : trim cs = cs := by
  have hkept : ∀ ds : List Char, (∀ c ∈ ds.head?, isBlank c = false) → ds.dropWhile isBlank = ds := by
    intro ds hds
    cases ds with
    | nil => rfl
    | cons d ds => exact List.dropWhile_cons_of_neg (by simp [hds d rfl])
  rw [trim, trimStart, hkept cs hfirst, trimEnd, hkept, List.reverse_reverse]
  rwa [List.head?_reverse]

theorem trim_head (cs : List Char) : ∀ c ∈ (trim cs).head?, isBlank c = false := by
  intro c hc
  have hfront : trim cs <+: trimStart cs := by
    rw [trim, trimEnd, ← List.reverse_suffix, List.reverse_reverse]
    exact List.dropWhile_suffix _
  have hfirst := List.head?_dropWhile_not isBlank cs
  obtain ⟨back, hback⟩ := hfront
  cases htrim : trim cs with
  | nil => rw [htrim] at hc; cases hc
  | cons d ds =>
    rw [htrim] at hc hback
    rw [trimStart] at hback
    rw [← hback] at hfirst
    exact Option.some.inj hc ▸ by simpa using hfirst

theorem trim_last (cs : List Char) : ∀ c ∈ (trim cs).getLast?, isBlank c = false := by
  intro c hc
  have hlast := List.head?_dropWhile_not isBlank (trimStart cs).reverse
  rw [trim, trimEnd, List.getLast?_reverse, Option.mem_def] at hc
  rw [hc] at hlast
  simpa using hlast

/-- what trimming leaves is trimmed -/
theorem trim_trim (cs : List Char) : trim (trim cs) = trim cs :=
  trim_of_ends (trim_head cs) (trim_last cs)

/-- trimming its end leaves a text as it is exactly if it does not end with a blank -/
theorem trimEnd_eq_self_iff {cs : List Char} : trimEnd cs = cs ↔ ∀ c ∈ cs.getLast?, isBlank c = false := by
  rw [trimEnd, List.reverse_eq_iff, List.getLast?_eq_head?_reverse]
  cases cs.reverse with
  | nil => simp
  | cons c rest =>
    by_cases hc : isBlank c = true
    · have hshort : rest.dropWhile isBlank ≠ c :: rest := by
        intro heq
        have hle := (List.dropWhile_sublist (p := isBlank) (l := rest)).length_le
        rw [heq, List.length_cons] at hle
        omega
      simp [hc, hshort]
    · simp [hc]

/-- a text has a longest front of characters that pass a test -/
theorem exists_span (test : Char → Bool) (cs : List Char) :
    ∃ front back, cs = front ++ back ∧ (∀ c ∈ front, test c = true) ∧ ∀ c ∈ back.head?, test c = false := by
  refine ⟨cs.takeWhile test, cs.dropWhile test, List.takeWhile_append_dropWhile.symm,
    List.all_eq_true.1 List.all_takeWhile, fun c hc => ?_⟩
  have hfirst := List.head?_dropWhile_not test cs
  rw [Option.mem_def.1 hc] at hfirst
  simpa using hfirst

/-! ## Words -/

theorem words_gap {gap : List Char} (h : Blank gap) (cs : List Char) : words (gap ++ cs) = words cs := by
  induction gap with
  | nil => rfl
  | cons b gap ih =>
    obtain ⟨hb, hgap⟩ := List.forall_mem_cons.1 h
    rw [← ih hgap, List.cons_append, words, splitBy_sep hb]
    rfl

theorem words_word {word rest : List Char} (hne : word ≠ []) (hword : ∀ c ∈ word, isBlank c = false)
    (hrest : ∀ c ∈ rest.head?, isBlank c = true) : words (word ++ rest) = word :: words rest := by
  have hpart : splitBy isBlank word = [word] := splitBy_of_none hword
  have hkept : [word].filter (!·.isEmpty) = [word] := by simp [hne]
  cases rest with
  | nil => rw [List.append_nil, words, hpart, hkept]; rfl
  | cons b rest =>
    have hb : isBlank b = true := hrest b rfl
    rw [words, splitBy_append hb, hpart, List.filter_append, hkept, List.singleton_append, words, splitBy_sep hb]
    rfl

/-! ## Parts between separators -/

section

variable {sep : Char}

theorem intercalate_splitBy (cs : List Char) : [sep].intercalate (splitBy (· == sep) cs) = cs := by
  induction cs with
  | nil => rfl
  | cons c cs ih =>
    obtain ⟨first, others, hsplit⟩ : ∃ first others, splitBy (· == sep) cs = first :: others :=
      List.exists_cons_of_ne_nil (splitBy_ne_nil cs)
    rw [hsplit] at ih
    by_cases hc : c = sep
    · subst hc
      have hcut : splitBy (· == c) (c :: cs) = [] :: splitBy (· == c) cs := splitBy_sep (by simp) cs
      rw [hcut, hsplit, List.intercalate_cons_cons, ih]
      rfl
    · have hother : (fun x => x == sep) c = false := beq_eq_false_iff_ne.2 hc
      have hgoes : splitBy (· == sep) (c :: cs) = (c :: first) :: others := splitBy_cons (c := c) hother hsplit
      rw [hgoes]
      cases others with
      | nil =>
        rw [List.intercalate_singleton] at ih ⊢
        rw [ih]
      | cons other others =>
        rw [List.intercalate_cons_cons] at ih ⊢
        rw [List.cons_append, List.cons_append, ih]

theorem splitBy_intercalate {parts : List (List Char)} (hne : parts ≠ []) (h : ∀ part ∈ parts, sep ∉ part) :
    splitBy (· == sep) ([sep].intercalate parts) = parts := by
  have hclosed : ∀ part : List Char, sep ∉ part → splitBy (· == sep) part = [part] := fun part hpart =>
    splitBy_of_none fun c hc => beq_eq_false_iff_ne.2 fun heq => hpart (heq ▸ hc)
  induction parts with
  | nil => exact absurd rfl hne
  | cons part parts ih =>
    obtain ⟨hpart, hparts⟩ := List.forall_mem_cons.1 h
    cases parts with
    | nil => rw [List.intercalate_singleton, hclosed part hpart]
    | cons next parts =>
      rw [List.intercalate_cons_cons, List.append_assoc, List.singleton_append, splitBy_append (by simp),
        hclosed part hpart, ih (List.cons_ne_nil _ _) hparts]
      rfl

theorem mem_intercalate {sep : List Char} {parts : List (List Char)} {c : Char} (h : c ∈ sep.intercalate parts) :
    c ∈ sep ∨ ∃ part ∈ parts, c ∈ part := by
  induction parts with
  | nil => exact absurd h List.not_mem_nil
  | cons part parts ih =>
    cases parts with
    | nil => exact .inr ⟨part, List.mem_cons_self, by rwa [List.intercalate_singleton] at h⟩
    | cons next parts =>
      rw [List.intercalate_cons_cons, List.append_assoc] at h
      rcases List.mem_append.1 h with hpart | h
      · exact .inr ⟨part, List.mem_cons_self, hpart⟩
      · rcases List.mem_append.1 h with hsep | h
        · exact .inl hsep
        · exact (ih h).imp_right fun ⟨other, hother, hc⟩ => ⟨other, List.mem_cons_of_mem _ hother, hc⟩

end

section

variable {sep : Char} {between : String} (hsep : between.toList = [sep])

include hsep

theorem toList_joined (parts : List String) :
    (joined between parts).toList = [sep].intercalate (parts.map String.toList) := by
  rw [joined, String.toList_intercalate, hsep]

theorem joined_split (s : String) : joined between (split s sep) = s := by
  refine String.toList_inj.1 ?_
  have hparts : (split s sep).map String.toList = splitBy (· == sep) s.toList := by
    rw [split, List.map_map]
    exact (List.map_congr_left fun cs _ => String.toList_ofList).trans (List.map_id _)
  rw [toList_joined hsep, hparts, intercalate_splitBy]

theorem split_joined {parts : List String} (hne : parts ≠ []) (h : ∀ part ∈ parts, sep ∉ part.toList) :
    split (joined between parts) sep = parts := by
  have hclosed : ∀ part ∈ parts.map String.toList, sep ∉ part := by
    intro part hpart
    obtain ⟨s, hs, rfl⟩ := List.mem_map.1 hpart
    exact h s hs
  rw [split, toList_joined hsep, splitBy_intercalate (by simpa using hne) hclosed, List.map_map]
  exact (List.map_congr_left fun s _ => String.ofList_toList).trans (List.map_id _)

end

/-! ## Starts and ends -/

theorem afterStart_eq_some_iff {start text rest : List Char} :
    afterStart start text = some rest ↔ text = start ++ rest := by
  induction start generalizing text with
  | nil => rw [afterStart, Option.some.injEq, List.nil_append]
  | cons a start ih =>
    cases text with
    | nil => simp [afterStart]
    | cons b text =>
      rw [afterStart, List.cons_append, List.cons.injEq, eq_comm (a := b)]
      by_cases h : a = b <;> simp [h, ih]

theorem stripStart_eq_some_iff {s start rest : String} : stripStart s start = some rest ↔ s = start ++ rest := by
  rw [stripStart, Option.map_eq_some_iff, ← String.toList_inj, String.toList_append]
  constructor
  · rintro ⟨cs, hcs, rfl⟩
    rw [afterStart_eq_some_iff.1 hcs, String.toList_ofList]
  · exact fun h => ⟨rest.toList, afterStart_eq_some_iff.2 h, String.ofList_toList⟩

theorem exists_of_endsWith {s ending : String} (h : endsWith s ending = true) : ∃ front, s = front ++ ending := by
  obtain ⟨cs, hcs⟩ := List.isSuffixOf_iff_suffix.1 h
  exact ⟨String.ofList cs, String.toList_inj.1 (by rw [← hcs, String.toList_append, String.toList_ofList])⟩

theorem stripEnd_eq_some_iff {s ending front : String} : stripEnd s ending = some front ↔ s = front ++ ending := by
  rw [stripEnd, Option.map_eq_some_iff, ← String.toList_inj, String.toList_append]
  constructor
  · rintro ⟨cs, hcs, rfl⟩
    rw [String.toList_ofList, ← List.reverse_inj, List.reverse_append, List.reverse_reverse]
    exact afterStart_eq_some_iff.1 hcs
  · intro h
    refine ⟨front.toList.reverse, afterStart_eq_some_iff.2 ?_, by rw [List.reverse_reverse, String.ofList_toList]⟩
    rw [h, List.reverse_append]

/-! ## Lines -/

theorem dropReturn_return (line : List Char) : dropReturn (line ++ ['\r']) = line := by
  rw [dropReturn, List.getLast?_concat, if_pos (beq_self_eq_true _), List.dropLast_concat]

theorem dropReturn_of_last {line : List Char} (h : line.getLast? ≠ some '\r') : dropReturn line = line := by
  rw [dropReturn, if_neg (by simpa using h)]

/-- what stands behind the last line feed is a line unless it is empty -/
theorem lines_of_split {cs : List Char} {front : List (List Char)} {last : List Char}
    (h : splitBy (· == '\n') cs = front ++ [last]) :
    lines cs = front.map dropReturn ++ if last = [] then [] else [last] := by
  rw [lines, h]
  simp only [List.getLast?_concat, List.dropLast_concat]
  cases last with
  | nil => rw [if_pos rfl, List.append_nil]
  | cons c cs => rw [if_neg (List.cons_ne_nil c cs)]

/-- how a line ends -/
inductive LineEnd where
  | lineFeed
  | returnAndFeed
  deriving DecidableEq, Repr

namespace LineEnd

/-- what stands before the line feed -/
def lead : LineEnd → List Char
  | lineFeed => []
  | returnAndFeed => ['\r']

def text (e : LineEnd) : List Char := e.lead ++ ['\n']

end LineEnd

/-- the lines, each with its end -/
def ended (rows : List (List Char × LineEnd)) : List Char := rows.flatMap fun row => row.1 ++ row.2.text

theorem splitBy_ended {rows : List (List Char × LineEnd)} (h : ∀ row ∈ rows, '\n' ∉ row.1) :
    splitBy (· == '\n') (ended rows) = (rows.map fun row => row.1 ++ row.2.lead) ++ [[]] := by
  induction rows with
  | nil => rfl
  | cons row rows ih =>
    obtain ⟨hrow, hrows⟩ := List.forall_mem_cons.1 h
    have hclosed : ∀ c ∈ row.1 ++ row.2.lead, (c == '\n') = false := by
      intro c hc
      refine beq_eq_false_iff_ne.2 ?_
      rcases List.mem_append.1 hc with hc | hc
      · exact fun heq => hrow (heq ▸ hc)
      · cases hend : row.2 with
        | lineFeed => simp [hend, LineEnd.lead] at hc
        | returnAndFeed => simp_all [LineEnd.lead]
    have htext : ended (row :: rows) = (row.1 ++ row.2.lead) ++ '\n' :: ended rows := by
      rw [ended, List.flatMap_cons, LineEnd.text, ← List.append_assoc, List.append_assoc]
      rfl
    rw [htext, splitBy_append (by rfl), splitBy_of_none hclosed, ih hrows]
    rfl

/-- **A text written line by line has these lines.** -/
theorem lines_ended {rows : List (List Char × LineEnd)}
    (h : ∀ row ∈ rows, '\n' ∉ row.1 ∧ row.1.getLast? ≠ some '\r') : lines (ended rows) = rows.map (·.1) := by
  rw [lines_of_split (splitBy_ended fun row hrow => (h row hrow).1), if_pos rfl, List.append_nil, List.map_map]
  refine List.map_congr_left fun row hrow => ?_
  rw [Function.comp_apply]
  cases row.2 with
  | lineFeed => rw [LineEnd.lead, List.append_nil, dropReturn_of_last (h row hrow).2]
  | returnAndFeed => exact dropReturn_return row.1

end CodeSurvey.Text
