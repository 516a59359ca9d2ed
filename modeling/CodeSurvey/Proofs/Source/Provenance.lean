/-
Where the bytes of a normalized text come from.

What the reader keeps has an origin, byte by byte (`markedBytes`), and the origins are carried along: `decodeMarked`
reads the bytes as characters, each with the origin of its first byte, and `collapseMarked` writes a space for a run of
blanks, with the origin of the first of them. Without the origins these are the plain functions, so `normalizedMarks` is
the normalized text with the origin of each of its bytes (`map_fst_normalizedMarks`).

The words of a text are found by splitting, and `collapseFrom` goes from left to right: it holds a gap back until a word
follows. `map_fst_collapseFrom` is the induction that brings the two together.
-/
import CodeSurvey.Proofs.Source.Turns

namespace CodeSurvey.Source

open Text

/-- what the reader keeps of a text, byte by byte -/
def markedBytes (text : String) : List (UInt8 × Origin) := (turns .code text.toList).flatMap Turn.marked

theorem map_fst_markedBytes (text : String) : (markedBytes text).map Prod.fst = stripBytes (encode text) :=
  map_fst_turns text.toList

/-! ## Characters -/

/-- the characters of the bytes after the next `skip` of them, each with the origin of its first byte -/
def decodeMarkedFrom (skip : Nat) : List (UInt8 × Origin) → List (Char × Origin)
  | [] => []
  | (b, o) :: rest =>
    match skip with
    | n + 1 => decodeMarkedFrom n rest
    | 0 =>
      let piece := firstPiece b (rest.map Prod.fst)
      (piece.1.getD replacement, o) :: decodeMarkedFrom piece.2 rest

/-- the characters of the bytes -/
def decodeMarked (ms : List (UInt8 × Origin)) : List (Char × Origin) := decodeMarkedFrom 0 ms

theorem map_fst_decodeMarkedFrom (skip : Nat) (ms : List (UInt8 × Origin)) :
    (decodeMarkedFrom skip ms).map Prod.fst =
      (piecesFrom skip (ms.map Prod.fst)).map fun piece => piece.getD replacement := by
  induction ms generalizing skip with
  | nil => rfl
  | cons m ms ih =>
    cases skip with
    | zero => rw [decodeMarkedFrom, List.map_cons, List.map_cons, piecesFrom, List.map_cons, ih]
    | succ n => rw [decodeMarkedFrom, List.map_cons, piecesFrom, ih]

/-- without the origins it is lossy reading -/
theorem map_fst_decodeMarked (ms : List (UInt8 × Origin)) :
    (decodeMarked ms).map Prod.fst = (decodeLossy (ms.map Prod.fst)).toList := by
  rw [decodeMarked, map_fst_decodeMarkedFrom, decodeLossy, String.toList_ofList, pieces]

theorem decodeMarkedFrom_append (skipped rest : List (UInt8 × Origin)) :
    decodeMarkedFrom skipped.length (skipped ++ rest) = decodeMarkedFrom 0 rest := by
  induction skipped with
  | nil => rfl
  | cons m ms ih => exact ih

/-- reading undoes writing, with the origins -/
theorem decodeMarked_encodeMarked (cs : List (Char × Origin)) : decodeMarked (encodeMarked cs) = cs := by
  unfold decodeMarked
  induction cs with
  | nil => rfl
  | cons c cs ih =>
    obtain ⟨c, o⟩ := c
    obtain ⟨b, bs, hform, hpiece⟩ := firstPiece_encode c
    have hrest : ((bs.map fun b => (b, o)) ++ encodeMarked cs).map Prod.fst = bs ++ encodeChars (cs.map Prod.fst) := by
      rw [List.map_append, map_fst_encodeMarked]
      simp [Function.comp_def]
    have hlength : bs.length = (bs.map fun b => (b, o)).length := (List.length_map _).symm
    rw [encodeMarked_cons, hform, List.map_cons, List.cons_append, decodeMarkedFrom, hrest, hpiece, hlength]
    dsimp only
    rw [decodeMarkedFrom_append, ih]
    rfl

/-! ## Blanks -/

/-- a run of blanks is one space with the origin of the first of them, if a word follows; `gap` is that of the run just
passed -/
def collapseFrom (gap : Option Origin) : List (Char × Origin) → List (Char × Origin)
  | [] => []
  | (c, o) :: cs =>
    if isBlank c then collapseFrom (some (gap.getD o)) cs
    else (gap.map fun g => (' ', g)).toList ++ (c, o) :: collapseFrom none cs

/-- one space between words -/
def collapseMarked (cs : List (Char × Origin)) : List (Char × Origin) :=
  collapseFrom none (cs.dropWhile fun c => isBlank c.1)

/-- each word behind a space -/
def spaced (ws : List (List Char)) : List Char := ws.flatMap fun w => ' ' :: w

theorem intercalate_space (w : List Char) (ws : List (List Char)) : [' '].intercalate (w :: ws) = w ++ spaced ws := by
  induction ws generalizing w with
  | nil => simp [spaced]
  | cons v ws ih =>
    rw [List.intercalate_cons_cons, ih]
    simp [spaced]

theorem words_blank {c : Char} (h : isBlank c = true) (cs : List Char) : words (c :: cs) = words cs := by
  rw [words, splitBy_sep h, List.filter_cons_of_neg (by simp), words]

theorem words_dropWhile (cs : List Char) : words (cs.dropWhile isBlank) = words cs := by
  induction cs with
  | nil => rfl
  | cons c cs ih =>
    by_cases h : isBlank c = true
    · rw [List.dropWhile_cons_of_pos h, ih, words_blank h]
    · rw [List.dropWhile_cons_of_neg h]

/-- Within a word the first part of the split goes on; in a gap every word has its space before it. -/
theorem map_fst_collapseFrom (cs : List (Char × Origin)) :
    (∀ first others, splitBy isBlank (cs.map Prod.fst) = first :: others →
      (collapseFrom none cs).map Prod.fst = first ++ spaced (others.filter (!·.isEmpty))) ∧
    ∀ g, (collapseFrom (some g) cs).map Prod.fst = spaced (words (cs.map Prod.fst)) := by
  induction cs with
  | nil =>
    refine ⟨fun first others hsplit => ?_, fun g => rfl⟩
    obtain ⟨rfl, rfl⟩ := List.cons.inj hsplit
    rfl
  | cons c cs ih =>
    obtain ⟨c, o⟩ := c
    obtain ⟨hword, hgap⟩ := ih
    by_cases h : isBlank c = true
    · refine ⟨fun first others hsplit => ?_, fun g => ?_⟩
      · rw [List.map_cons, splitBy_sep h] at hsplit
        obtain ⟨rfl, rfl⟩ := List.cons.inj hsplit
        rw [collapseFrom, if_pos h, hgap, words, List.nil_append]
      · rw [collapseFrom, if_pos h, hgap, List.map_cons, words_blank h]
    · obtain ⟨first, others, hsplit⟩ := List.exists_cons_of_ne_nil (splitBy_ne_nil (cs.map Prod.fst))
      have hcons := splitBy_cons (Bool.eq_false_iff.2 h) hsplit
      refine ⟨fun first' others' hsplit' => ?_, fun g => ?_⟩
      · rw [List.map_cons, hcons] at hsplit'
        obtain ⟨rfl, rfl⟩ := List.cons.inj hsplit'
        rw [collapseFrom, if_neg h]
        simp [hword first others hsplit]
      · rw [collapseFrom, if_neg h, List.map_cons, words, hcons]
        simp [hword first others hsplit, spaced]

/-- without the origins it is the collapsed text -/
theorem map_fst_collapseMarked (cs : List (Char × Origin)) :
    (collapseMarked cs).map Prod.fst = (collapse (String.ofList (cs.map Prod.fst))).toList := by
  have hjoined : (collapse (String.ofList (cs.map Prod.fst))).toList = [' '].intercalate (words (cs.map Prod.fst)) := by
    rw [collapse, joined, String.toList_intercalate, String.toList_ofList, List.map_map]
    simp [Function.comp_def]
  have hdrop : (cs.dropWhile fun c => isBlank c.1).map Prod.fst = (cs.map Prod.fst).dropWhile isBlank := by
    rw [List.dropWhile_map]
    rfl
  rw [hjoined, ← words_dropWhile, ← hdrop, collapseMarked]
  cases hrest : cs.dropWhile fun c => isBlank c.1 with
  | nil => rfl
  | cons c rest =>
    -- the first part is a word, since the text now starts with none of the blanks
    have hblank : isBlank c.1 = false := by
      have hfirst := List.head?_dropWhile_not (fun c : Char × Origin => isBlank c.1) cs
      rw [hrest] at hfirst
      simpa using hfirst
    obtain ⟨first, others, hsplit⟩ := List.exists_cons_of_ne_nil (splitBy_ne_nil (rest.map Prod.fst))
    have hcons := splitBy_cons hblank hsplit
    rw [(map_fst_collapseFrom (c :: rest)).1 _ _ hcons, List.map_cons, words, hcons,
      List.filter_cons_of_pos (by simp), intercalate_space]

/-! ## The normalized text -/

/-- the normalized text, byte by byte -/
def normalizedMarks (text : String) : List (UInt8 × Origin) :=
  encodeMarked (collapseMarked (decodeMarked (markedBytes text)))

/-- **Without the origins it is the normalized text.** -/
theorem map_fst_normalizedMarks (text : String) :
    (normalizedMarks text).map Prod.fst = encode (normalize text) := by
  rw [normalizedMarks, map_fst_encodeMarked, map_fst_collapseMarked, map_fst_decodeMarked, map_fst_markedBytes,
    String.ofList_toList, normalize, stripComments]
  rfl

end CodeSurvey.Source
