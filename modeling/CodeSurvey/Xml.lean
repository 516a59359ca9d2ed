/-
Documents of elements and text.

`pieces?` cuts a document into tags and texts; comments, instructions, sections of character data and tags that close
themselves say nothing. `events?` pairs the tags: an end tag must bear the name of the last open element, and a text has
its entities replaced. Blanks around a text do not belong to it, and a text of blanks alone is none. A document may end
while elements are open, but not inside a comment, a declaration or a section of character data.
-/
import CodeSurvey.Text.Words

namespace CodeSurvey.Xml

open Text

/-- what a reader of the document meets -/
inductive Event where
  | opened (name : String)
  | closed
  | text (s : String)
  deriving DecidableEq, Repr

/-- a part of a document as it is written -/
inductive Piece where
  | startTag (name : List Char)
  | endTag (name : List Char)
  | text (raw : List Char)
  | silent
  deriving DecidableEq, Repr

/-- the blanks of a document -/
def isSpace (c : Char) : Bool := c == ' ' || c == '\t' || c == '\n' || c == '\r'

/-- what stands before the first such character, and what stands behind it; all and nothing where there is none -/
def cutAt (stop : Char) : List Char → List Char × List Char
  | [] => ([], [])
  | c :: cs => if c = stop then ([], cs) else (c :: (cutAt stop cs).1, (cutAt stop cs).2)

theorem length_cutAt_le (stop : Char) (cs : List Char) : (cutAt stop cs).2.length ≤ cs.length := by
  induction cs with
  | nil => simp [cutAt]
  | cons c cs ih => unfold cutAt; split <;> simp_all; omega

/-- the inside of a tag, whose end does not stand between quotes, and what stands behind it -/
def cutTag (quote : Option Char) : List Char → List Char × List Char
  | [] => ([], [])
  | c :: cs =>
    if quote = none ∧ c = '>' then ([], cs)
    else
      let inside :=
        match quote with
        | none => if c == '\x27' || c == '"' then some c else none
        | some q => if c = q then none else some q
      (c :: (cutTag inside cs).1, (cutTag inside cs).2)

theorem length_cutTag_le (quote : Option Char) (cs : List Char) : (cutTag quote cs).2.length ≤ cs.length := by
  induction cs generalizing quote with
  | nil => simp [cutTag]
  | cons c cs ih =>
    unfold cutTag
    split
    · simp
    · exact Nat.le_trans (ih _) (Nat.le_succ _)

/-- cuts at the first `>` whose text before it passes the test; `before` is what was read, last character first -/
def cutWhere (ends : List Char → Bool) (before : List Char) : List Char → Option (List Char × List Char)
  | [] => none
  | c :: cs => if c = '>' ∧ ends before then some (before.reverse, cs) else cutWhere ends (c :: before) cs

theorem length_cutWhere_le {ends : List Char → Bool} {before cs : List Char} {r : List Char × List Char}
    (h : cutWhere ends before cs = some r) : r.2.length ≤ cs.length := by
  induction cs generalizing before with
  | nil => simp [cutWhere] at h
  | cons c cs ih =>
    unfold cutWhere at h
    split at h
    · cases h; simp
    · exact Nat.le_trans (ih h) (Nat.le_succ _)

/-- the text so far, last character first, ends a comment -/
def endsComment (before : List Char) : Bool := before.length ≥ 4 && before.take 2 == ['-', '-']

/-- the text so far, last character first, ends a section of character data -/
def endsData (before : List Char) : Bool := before.take 2 == [']', ']']

/-- the text so far opens as many declarations as it closes -/
def endsDoctype (before : List Char) : Bool := before.count '<' == before.count '>'

/-- the text starts with the given one, capital letters or not -/
def startsLike (start : String) (cs : List Char) : Bool :=
  (cs.take start.length).map Char.toUpper == start.toList

/-- what follows `<!`: a comment, character data or a document type -/
def declaration? (cs : List Char) : Option (List Char) :=
  match cs with
  | '-' :: _ => ((cutWhere endsComment [] cs).filter fun r => r.1.take 2 == ['-', '-']).map (·.2)
  | '[' :: _ => ((cutWhere endsData [] cs).filter fun r => startsLike "[CDATA[" r.1).map (·.2)
  | 'D' :: _ | 'd' :: _ =>
    ((cutWhere endsDoctype [] cs).filter fun r =>
      startsLike "DOCTYPE" r.1 && !(r.1.drop 7).all isSpace).map (·.2)
  | _ => none

theorem length_declaration_le {cs rest : List Char} (h : declaration? cs = some rest) : rest.length ≤ cs.length := by
  unfold declaration? at h
  split at h
  · obtain ⟨r, hr, rfl⟩ := Option.map_eq_some_iff.1 h
    exact length_cutWhere_le (Option.filter_eq_some_iff.1 hr).1
  · obtain ⟨r, hr, rfl⟩ := Option.map_eq_some_iff.1 h
    exact length_cutWhere_le (Option.filter_eq_some_iff.1 hr).1
  · obtain ⟨r, hr, rfl⟩ := Option.map_eq_some_iff.1 h
    exact length_cutWhere_le (Option.filter_eq_some_iff.1 hr).1
  · obtain ⟨r, hr, rfl⟩ := Option.map_eq_some_iff.1 h
    exact length_cutWhere_le (Option.filter_eq_some_iff.1 hr).1
  · cases h

/-- the text without blanks at its end -/
def dropSpaces (cs : List Char) : List Char := (cs.reverse.dropWhile isSpace).reverse

/-- the tag that a text between angle brackets writes -/
def tag (inside : List Char) : Piece :=
  if inside.getLast? = some '/' then .silent else .startTag (inside.takeWhile (!isSpace ·))

/-- what follows `<` -/
def markup? (cs : List Char) : Option (Piece × List Char) :=
  match cs with
  | [] => some (.silent, [])
  | '!' :: cs => (declaration? cs).map fun rest => (.silent, rest)
  | '/' :: cs =>
    let (name, rest) := cutAt '>' cs
    some (.endTag (if name.all isSpace then name else dropSpaces name), rest)
  | '?' :: cs =>
    let (inside, rest) := cutAt '>' cs
    if inside.length ≥ 2 ∧ inside.getLast? = some '?' then some (.silent, rest) else none
  | cs =>
    let (inside, rest) := cutTag none cs
    some (tag inside, rest)

theorem length_markup_le {cs : List Char} {r : Piece × List Char} (h : markup? cs = some r) :
    r.2.length ≤ cs.length := by
  unfold markup? at h
  split at h
  · cases h; simp
  · obtain ⟨rest, hr, rfl⟩ := Option.map_eq_some_iff.1 h
    exact Nat.le_trans (length_declaration_le hr) (Nat.le_succ _)
  · cases h
    exact Nat.le_trans (length_cutAt_le _ _) (Nat.le_succ _)
  · simp only [Option.ite_none_right_eq_some, Option.some.injEq] at h
    obtain ⟨_, rfl⟩ := h
    exact Nat.le_trans (length_cutAt_le _ _) (Nat.le_succ _)
  · cases h
    exact length_cutTag_le _ _

/-- the first piece of a document and the rest of it -/
def piece? : List Char → Option (Piece × List Char)
  | [] => none
  | c :: cs =>
    if isSpace c then some (.silent, cs)
    else if c = '<' then markup? cs
    else
      let raw := (c :: cs).takeWhile (· != '<')
      some (.text (dropSpaces raw), cs.dropWhile (· != '<'))

theorem length_piece_lt {cs : List Char} {r : Piece × List Char} (h : piece? cs = some r) :
    r.2.length < cs.length := by
  cases cs with
  | nil => simp [piece?] at h
  | cons c cs =>
    simp only [piece?] at h
    by_cases space : isSpace c
    · rw [if_pos space] at h
      cases h
      simp
    · rw [if_neg space] at h
      by_cases opens : c = '<'
      · rw [if_pos opens] at h
        exact Nat.lt_succ_of_le (length_markup_le h)
      · rw [if_neg opens] at h
        cases h
        exact Nat.lt_succ_of_le (List.dropWhile_sublist _).length_le

/-- the pieces of a document in order -/
def pieces? (cs : List Char) : Option (List Piece) :=
  if cs = [] then some []
  else
    match found : piece? cs with
    | none => none
    | some (piece, rest) =>
      have : rest.length < cs.length := length_piece_lt found
      (pieces? rest).map (piece :: ·)
termination_by cs.length

/-! ## Entities -/

/-- the number that digits of a base write, up to a number of digits -/
def numeral? (base : Nat) (most : Nat) (digits : List Char) : Option Nat :=
  if digits.length > most then none
  else
    digits.foldlM (fun n c =>
      let value :=
        if isAsciiDigit c then some (c.toNat - '0'.toNat)
        else if 'a' ≤ c ∧ c ≤ 'f' then some (c.toNat - 'a'.toNat + 10)
        else if 'A' ≤ c ∧ c ≤ 'F' then some (c.toNat - 'A'.toNat + 10)
        else none
      (value.filter (· < base)).map (n * base + ·)) 0

/-- the character with a number that is not zero -/
def charOf? (n : Nat) : Option Char :=
  if n ≠ 0 ∧ n.isValidChar then some (Char.ofNat n) else none

/-- the character that an entity stands for -/
def entity? (name : List Char) : Option Char :=
  match name with
  | '#' :: 'x' :: digits => (numeral? 16 6 digits).bind charOf?
  | '#' :: digits => (numeral? 10 7 digits).bind charOf?
  | name =>
    [("lt", '<'), ("gt", '>'), ("amp", '&'), ("apos", '\x27'), ("quot", '"')].lookup (String.ofList name)

/-- the text with its entities replaced; `name` is what was read of an entity, last character first -/
def unescape? (name : Option (List Char)) : List Char → Option (List Char)
  | [] => if name.isSome then none else some []
  | c :: cs =>
    match name with
    | none => if c = '&' then unescape? (some []) cs else (unescape? none cs).map (c :: ·)
    | some read =>
      if c = '&' then none
      else if c = ';' then
        match entity? read.reverse with
        | none => none
        | some image => (unescape? none cs).map (image :: ·)
      else unescape? (some (c :: read)) cs

/-- the events of the pieces, inside the open elements, the innermost first -/
def eventsOf? (openNames : List (List Char)) : List Piece → Option (List Event)
  | [] => some []
  | .silent :: rest => eventsOf? openNames rest
  | .text raw :: rest =>
    match unescape? none raw with
    | none => none
    | some cs => (eventsOf? openNames rest).map (.text (String.ofList cs) :: ·)
  | .startTag name :: rest => (eventsOf? (name :: openNames) rest).map (.opened (String.ofList name) :: ·)
  | .endTag name :: rest =>
    match openNames with
    | [] => none
    | last :: openNames => if last = name then (eventsOf? openNames rest).map (.closed :: ·) else none

/-- the events of a document; a mark of the byte order may stand in front -/
def events? (document : String) : Option (List Event) :=
  (pieces? ((stripStart document "\uFEFF").getD document).toList).bind (eventsOf? [])

end CodeSurvey.Xml
