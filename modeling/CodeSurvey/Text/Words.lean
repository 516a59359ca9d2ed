/-
Cutting text: splitting, trimming, searching and replacing.

The list functions work on characters from left to right and never overlap what they found. A split gives the parts
between separators, so there is one part more than separators; `lines` drops the line ends and the empty part after the
last one.
-/
import CodeSurvey.Text.Letter

namespace CodeSurvey.Text

/-- the parts between the separating elements -/
def splitBy {α : Type} (sep : α → Bool) : List α → List (List α)
  | [] => [[]]
  | c :: cs =>
    if sep c then [] :: splitBy sep cs
    else
      match splitBy sep cs with
      | part :: parts => (c :: part) :: parts
      | [] => [[c]]

section

variable {α : Type} {sep : α → Bool}

theorem splitBy_sep {c : α} (h : sep c = true) (cs : List α) : splitBy sep (c :: cs) = [] :: splitBy sep cs := by
  rw [splitBy, if_pos h]

theorem splitBy_cons {c : α} (h : sep c = false) {cs first : List α} {others : List (List α)}
    (hsplit : splitBy sep cs = first :: others) : splitBy sep (c :: cs) = (c :: first) :: others := by
  rw [splitBy, if_neg (by simp [h]), hsplit]

theorem splitBy_ne_nil (cs : List α) : splitBy sep cs ≠ [] := by
  induction cs with
  | nil => exact List.cons_ne_nil _ _
  | cons c cs ih =>
    obtain ⟨first, others, hsplit⟩ := List.exists_cons_of_ne_nil ih
    by_cases h : sep c = true
    · rw [splitBy_sep h]
      exact List.cons_ne_nil _ _
    · rw [splitBy_cons (Bool.eq_false_iff.2 h) hsplit]
      exact List.cons_ne_nil _ _

/-- A separator cuts the split in two. -/
theorem splitBy_append {c : α} (h : sep c = true) (as bs : List α) :
    splitBy sep (as ++ c :: bs) = splitBy sep as ++ splitBy sep bs := by
  induction as with
  | nil => exact splitBy_sep h bs
  | cons a as ih =>
    by_cases ha : sep a = true
    · rw [List.cons_append, splitBy_sep ha, splitBy_sep ha, ih, List.cons_append]
    · obtain ⟨first, others, hsplit⟩ := List.exists_cons_of_ne_nil (splitBy_ne_nil as)
      rw [hsplit, List.cons_append] at ih
      rw [List.cons_append, splitBy_cons (Bool.eq_false_iff.2 ha) ih, splitBy_cons (Bool.eq_false_iff.2 ha) hsplit,
        List.cons_append]

/-- A text without separators is its only part. -/
theorem splitBy_of_none {cs : List α} (h : ∀ c ∈ cs, sep c = false) : splitBy sep cs = [cs] := by
  induction cs with
  | nil => rfl
  | cons c cs ih =>
    exact splitBy_cons (h c List.mem_cons_self) (ih fun d hd => h d (List.mem_cons_of_mem c hd))

end

/-- `some rest` when the text starts with the given one -/
def afterStart : (start text : List Char) → Option (List Char)
  | [], text => some text
  | _ :: _, [] => none
  | a :: start, b :: text => if a = b then afterStart start text else none

/-- the text stands somewhere in the other -/
def occursIn (part : List Char) : List Char → Bool
  | [] => part.isEmpty
  | c :: cs => part.isPrefixOf (c :: cs) || occursIn part cs

/-- replaces each occurrence found from the left; `skip` characters belong to the last one found -/
def replaceFrom (part image : List Char) (skip : Nat) : List Char → List Char
  | [] => []
  | c :: cs =>
    match skip with
    | n + 1 => replaceFrom part image n cs
    | 0 =>
      if part.isPrefixOf (c :: cs) then image ++ replaceFrom part image (part.length - 1) cs
      else c :: replaceFrom part image 0 cs

/-- the parts between the occurrences of a separating text -/
def splitAtText (sep : List Char) (skip : Nat) : List Char → List (List Char)
  | [] => [[]]
  | c :: cs =>
    match skip with
    | n + 1 => splitAtText sep n cs
    | 0 =>
      if sep.isPrefixOf (c :: cs) then [] :: splitAtText sep (sep.length - 1) cs
      else
        match splitAtText sep 0 cs with
        | part :: parts => (c :: part) :: parts
        | [] => [[c]]

def trimStart (cs : List Char) : List Char := cs.dropWhile isBlank

def trimEnd (cs : List Char) : List Char := (cs.reverse.dropWhile isBlank).reverse

def trim (cs : List Char) : List Char := trimEnd (trimStart cs)

/-- the words between blanks -/
def words (cs : List Char) : List (List Char) :=
  (splitBy isBlank cs).filter (!·.isEmpty)

/-- the carriage return before a line feed belongs to the line end -/
def dropReturn (line : List Char) : List Char :=
  if line.getLast? == some '\r' then line.dropLast else line

/-- the lines of a text without their ends -/
def lines (cs : List Char) : List (List Char) :=
  let parts := splitBy (· == '\n') cs
  match parts.getLast? with
  | some [] => parts.dropLast.map dropReturn
  | some last => parts.dropLast.map dropReturn ++ [last]
  | none => []

/-! ## The same on strings -/

def trimmed (s : String) : String := String.ofList (trim s.toList)

def contains (s part : String) : Bool := occursIn part.toList s.toList

def startsWith (s start : String) : Bool := start.toList.isPrefixOf s.toList

def endsWith (s ending : String) : Bool := ending.toList.isSuffixOf s.toList

def stripStart (s start : String) : Option String :=
  (afterStart start.toList s.toList).map String.ofList

def stripEnd (s ending : String) : Option String :=
  (afterStart ending.toList.reverse s.toList.reverse).map fun cs => String.ofList cs.reverse

def replace (s part image : String) : String :=
  String.ofList (replaceFrom part.toList image.toList 0 s.toList)

def split (s : String) (sep : Char) : List String :=
  (splitBy (· == sep) s.toList).map String.ofList

/-- the text after the last separator, the whole text where there is none -/
def afterLast (s : String) (sep : Char) : String :=
  ((split s sep).getLast?).getD s

/-- the text before the first separator, the whole text where there is none -/
def beforeFirst (s : String) (sep : Char) : String :=
  String.ofList (s.toList.takeWhile (· != sep))

/-- the texts with the separator between them -/
def joined (sep : String) (parts : List String) : String := sep.intercalate parts

end CodeSurvey.Text
