/-
Manifests whose lines are wrapped.

A `WrittenAttribute` is an attribute as a manifest writes it: the value is cut into a first part, which stands behind the
key, and further parts, each on a line of its own behind one space. The reader trims the first part before the others
come behind it, and takes these as they are, so blanks at the end of the first part are lost, and nothing else
(`foldl_readLine_rows`).

Main statement: `parse_wrapped`. A manifest of wrapped attributes is read back as it was meant exactly if no value is cut
right behind a blank. The step lemmas are those for a line with a key and for a line that continues an attribute; a run
over the lines of one attribute then inserts its value, and a run over all of them makes the table.
-/
import CodeSurvey.Proofs.Text.Cutting
import CodeSurvey.Stack.Package

namespace CodeSurvey

open Text

namespace Ordered

variable {κ α : Type} [LT κ] [OrderedKey κ] [DecidableEq κ] [DecidableLT κ] [BEq κ] [LawfulBEq κ]

/-- of two insertions of one key the later counts -/
theorem insert_insert (t : Ordered κ α) (k : κ) (v w : α) : (t.insert k v).insert k w = t.insert k w := by
  refine ext_get? fun k' => ?_
  rw [get?_insert, get?_insert, get?_insert]
  split <;> rfl

/-- A table of pairs with different keys has exactly the pairs. -/
theorem get?_ofList_of_nodup {es : List (κ × α)} (h : (es.map (·.1)).Nodup) (k : κ) (v : α) :
    (ofList es).get? k = some v ↔ (k, v) ∈ es := by
  rw [get?_ofList, Option.map_eq_some_iff]
  constructor
  · rintro ⟨e, he, rfl⟩
    obtain ⟨hmem, hkey⟩ := List.mem_filter.1 (List.mem_of_getLast? he)
    exact of_decide_eq_true hkey ▸ hmem
  · intro hmem
    have hsole : es.filter (·.1 = k) = [(k, v)] := by
      induction es with
      | nil => exact absurd hmem List.not_mem_nil
      | cons e es ih =>
        rw [List.map_cons, List.nodup_cons] at h
        obtain ⟨hnew, hothers⟩ := h
        rcases List.mem_cons.1 hmem with rfl | hmem
        · have hnone : es.filter (·.1 = k) = [] := List.filter_eq_nil_iff.2 fun f hf hkey =>
            hnew (List.mem_map.2 ⟨f, hf, of_decide_eq_true hkey⟩)
          rw [List.filter_cons_of_pos (by simp), hnone]
        · have hother : e.1 ≠ k := fun hkey => hnew (List.mem_map.2 ⟨_, hmem, hkey.symm⟩)
          rw [List.filter_cons_of_neg (by simpa using hother), ih hothers hmem]
    exact ⟨(k, v), by rw [hsole]; rfl, rfl⟩

end Ordered

namespace Manifest

/-! ## Wrapped attributes -/

/-- an attribute as it is written: its key, and its value cut into parts, each with the end of its line -/
structure WrittenAttribute where
  key : String
  first : List Char
  firstEnd : LineEnd
  more : List (List Char × LineEnd)

namespace WrittenAttribute

/-- what stands on the lines that continue the first one -/
def behind (a : WrittenAttribute) : List Char := a.more.flatMap (·.1)

def value (a : WrittenAttribute) : List Char := a.first ++ a.behind

/-- the value without the blanks that stand right before its first cut -/
def joinedValue (a : WrittenAttribute) : List Char := trimEnd a.first ++ a.behind

def rows (a : WrittenAttribute) : List (List Char × LineEnd) :=
  (a.key.toList ++ ':' :: ' ' :: a.first, a.firstEnd) :: a.more.map fun part => (' ' :: part.1, part.2)

structure WellFormed (a : WrittenAttribute) : Prop where
  nonempty : a.key ≠ ""
  /-- the key is on one line, and the first colon ends it -/
  key : ∀ c ∈ a.key.toList, c ≠ ':' ∧ c ≠ '\n'
  keyFirst : ∀ c ∈ a.key.toList.head?, isBlank c = false
  keyLast : ∀ c ∈ a.key.toList.getLast?, isBlank c = false
  value : ∀ c ∈ a.value, c ≠ '\n' ∧ c ≠ '\r'
  valueFirst : ∀ c ∈ a.value.head?, isBlank c = false
  valueLast : ∀ c ∈ a.value.getLast?, isBlank c = false

/-- the value is cut for the first time right behind a blank -/
def CutBehindBlank (a : WrittenAttribute) : Prop := ∃ c ∈ a.first.getLast?, isBlank c = true

end WrittenAttribute

/-- the text of a manifest with these attributes -/
def written (as : List WrittenAttribute) : List Char := ended (as.flatMap WrittenAttribute.rows)

/-! ## Lines of an attribute -/

section

variable {a : WrittenAttribute} (h : a.WellFormed)

include h

theorem WrittenAttribute.WellFormed.rows_closed : ∀ row ∈ a.rows, '\n' ∉ row.1 ∧ row.1.getLast? ≠ some '\r' := by
  have hfirst : ∀ c ∈ a.first, c ≠ '\n' ∧ c ≠ '\r' := fun c hc => h.value c (List.mem_append_left _ hc)
  have hend : ∀ (x : Char) (front part : List Char), x ≠ '\r' → (∀ c ∈ part, c ≠ '\n' ∧ c ≠ '\r') →
      (front ++ x :: part).getLast? ≠ some '\r' := by
    intro x front part hx hpart hlast
    rw [List.getLast?_append, List.getLast?_cons] at hlast
    cases hp : part.getLast? with
    | none => simp [hp, hx] at hlast
    | some c =>
      have hc := (hpart c (List.mem_of_getLast? hp)).2
      simp [hp, hc] at hlast
  refine List.forall_mem_cons.2 ⟨⟨?_, ?_⟩, ?_⟩
  · intro hmem
    rcases List.mem_append.1 hmem with hmem | hmem
    · exact (h.key _ hmem).2 rfl
    · simp only [List.mem_cons, Char.reduceEq, false_or] at hmem
      exact (hfirst _ hmem).1 rfl
  · have hline := hend ' ' (a.key.toList ++ [':']) a.first (by decide) hfirst
    rwa [List.append_assoc] at hline
  · rintro row hrow
    obtain ⟨part, hpart, rfl⟩ := List.mem_map.1 hrow
    have hchars : ∀ c ∈ part.1, c ≠ '\n' ∧ c ≠ '\r' := fun c hc =>
      h.value c (List.mem_append_right _ (List.mem_flatMap.2 ⟨part, hpart, hc⟩))
    refine ⟨fun hmem => ?_, hend ' ' [] part.1 (by decide) hchars⟩
    simp only [List.mem_cons, Char.reduceEq, false_or] at hmem
    exact (hchars _ hmem).1 rfl

theorem WrittenAttribute.WellFormed.cutAtColon?_eq (rest : List Char) :
    cutAtColon? (a.key.toList ++ ':' :: rest) = some (a.key.toList, rest) := by
  have hkey : ∀ c ∈ a.key.toList, (c != ':') = true := fun c hc => by simpa using (h.key c hc).1
  rw [cutAtColon?, if_pos (by simp), List.takeWhile_append_of_pos hkey, List.dropWhile_append_of_pos hkey]
  simp

theorem WrittenAttribute.WellFormed.trimStart_first : trimStart a.first = a.first := by
  cases hfirst : a.first with
  | nil => rfl
  | cons c cs =>
    have hc := h.valueFirst c (by rw [WrittenAttribute.value, hfirst]; rfl)
    exact List.dropWhile_cons_of_neg (by simp [hc])

/-- a line with a key sets the attribute to the trimmed part of its value -/
theorem WrittenAttribute.WellFormed.readLine_key (r : Reading) :
    readLine r (a.key.toList ++ ':' :: ' ' :: a.first) =
      ⟨r.attributes.insert a.key (String.ofList (trimEnd a.first)), some a.key⟩ := by
  obtain ⟨c, cs, hkey⟩ := List.exists_cons_of_ne_nil (show a.key.toList ≠ [] by simpa using h.nonempty)
  have hc : c ≠ ' ' := by
    rintro rfl
    exact absurd (h.keyFirst ' ' (by rw [hkey]; rfl)) (by decide)
  have hvalue : trim (' ' :: a.first) = trimEnd a.first := by
    rw [← List.singleton_append, trim_gap (by decide), trim, h.trimStart_first]
  have hcut := h.cutAtColon?_eq (' ' :: a.first)
  rw [hkey, List.cons_append] at hcut ⊢
  rw [readLine.eq_2 _ _ fun more heq => hc (List.cons.inj heq).1, hcut]
  simp only
  rw [← hkey, trim_of_ends h.keyFirst h.keyLast, hvalue, String.ofList_toList]

omit h in
/-- lines that continue an attribute put their parts behind its value -/
theorem foldl_readLine_more (t : Ordered String String) (key value : String) (parts : List (List Char × LineEnd)) :
    (parts.map fun part => ' ' :: part.1).foldl readLine ⟨t.insert key value, some key⟩ =
      ⟨t.insert key (value ++ String.ofList (parts.flatMap (·.1))), some key⟩ := by
  induction parts generalizing value with
  | nil =>
    rw [List.flatMap_nil, String.ofList_nil, String.append_empty]
    rfl
  | cons part parts ih =>
    have hextend : extend (t.insert key value) key (String.ofList part.1) =
        t.insert key (value ++ String.ofList part.1) := by
      rw [extend, Ordered.get?_insert, if_pos rfl]
      exact Ordered.insert_insert t key value _
    have hread : readLine ⟨t.insert key value, some key⟩ (' ' :: part.1) =
        ⟨t.insert key (value ++ String.ofList part.1), some key⟩ := by
      rw [← hextend]
      rfl
    rw [List.map_cons, List.foldl_cons, hread, ih, List.flatMap_cons, String.ofList_append, String.append_assoc]

/-- **The lines of an attribute insert it**, without the blanks before the first cut. -/
theorem WrittenAttribute.WellFormed.foldl_readLine_rows (r : Reading) : (a.rows.map (·.1)).foldl readLine r =
    ⟨r.attributes.insert a.key (String.ofList a.joinedValue), some a.key⟩ := by
  have hmore := foldl_readLine_more r.attributes a.key (String.ofList (trimEnd a.first)) a.more
  rw [← String.ofList_append] at hmore
  rw [WrittenAttribute.rows, List.map_cons, List.foldl_cons, h.readLine_key, List.map_map]
  exact hmore

end

theorem foldl_readLine_flatMap {as : List WrittenAttribute} (h : ∀ a ∈ as, a.WellFormed) (r : Reading) :
    (((as.flatMap WrittenAttribute.rows).map (·.1)).foldl readLine r).attributes =
      (as.map fun a => (a.key, String.ofList a.joinedValue)).foldl (fun t e => t.insert e.1 e.2) r.attributes := by
  induction as generalizing r with
  | nil => rfl
  | cons a as ih =>
    obtain ⟨ha, hothers⟩ := List.forall_mem_cons.1 h
    rw [List.flatMap_cons, List.map_append, List.foldl_append, ha.foldl_readLine_rows, ih hothers]
    rfl

/-! ## The whole manifest -/

theorem parse_eq {as : List WrittenAttribute} (h : ∀ a ∈ as, a.WellFormed) : parse (String.ofList (written as)) =
    Ordered.ofList (as.map fun a => (a.key, String.ofList a.joinedValue)) := by
  have hclosed : ∀ row ∈ as.flatMap WrittenAttribute.rows, '\n' ∉ row.1 ∧ row.1.getLast? ≠ some '\r' := by
    intro row hrow
    obtain ⟨a, ha, hrow⟩ := List.mem_flatMap.1 hrow
    exact (h a ha).rows_closed row hrow
  rw [parse, String.toList_ofList, written, lines_ended hclosed, foldl_readLine_flatMap h]
  rfl

theorem joinedValue_eq_iff (a : WrittenAttribute) : a.joinedValue = a.value ↔ ¬ a.CutBehindBlank := by
  rw [WrittenAttribute.joinedValue, WrittenAttribute.value, List.append_left_inj, trimEnd_eq_self_iff,
    WrittenAttribute.CutBehindBlank]
  simp

/-- the manifest read back has these values, and no other keys -/
def ReadAs (as : List WrittenAttribute) (value : WrittenAttribute → List Char) : Prop :=
  ∀ k v, (parse (String.ofList (written as))).get? k = some v ↔ ∃ a ∈ as, a.key = k ∧ String.ofList (value a) = v

/-- **A wrapped manifest is read back without the blanks before the first cuts**, so it is read back as it was meant
exactly if no value is cut right behind a blank. -/
theorem parse_wrapped {as : List WrittenAttribute} (h : ∀ a ∈ as, a.WellFormed)
    (hdistinct : (as.map WrittenAttribute.key).Nodup) :
    ReadAs as WrittenAttribute.joinedValue ∧
      (ReadAs as WrittenAttribute.value ↔ ∀ a ∈ as, ¬ a.CutBehindBlank) := by
  have hread : ReadAs as WrittenAttribute.joinedValue := by
    intro k v
    have hkeys : ((as.map fun a => (a.key, String.ofList a.joinedValue)).map (·.1)).Nodup := by
      rwa [List.map_map]
    rw [parse_eq h, Ordered.get?_ofList_of_nodup hkeys, List.mem_map]
    simp only [Prod.mk.injEq]
  refine ⟨hread, fun hmeant a ha => ?_, fun hcuts k v => ?_⟩
  · have hsame := ((hread a.key (String.ofList a.joinedValue)).2 ⟨a, ha, rfl, rfl⟩).symm.trans
      ((hmeant a.key (String.ofList a.value)).2 ⟨a, ha, rfl, rfl⟩)
    exact (joinedValue_eq_iff a).1 (String.ofList_injective (Option.some.inj hsame))
  · refine (hread k v).trans (exists_congr fun a => and_congr_right fun ha => ?_)
    rw [(joinedValue_eq_iff a).2 (hcuts a ha)]

/-- a title cut before a blank and within a word, on lines with different ends -/
def longTitle : WrittenAttribute :=
  ⟨"Implementation-Title", "very long".toList, .returnAndFeed,
    [(" na".toList, .lineFeed), ("me: x".toList, .returnAndFeed)]⟩

def buildSpec : WrittenAttribute := ⟨"Build-Jdk-Spec", [], .lineFeed, [("17".toList, .lineFeed)]⟩

theorem wellFormed_longTitle : longTitle.WellFormed where
  nonempty := by decide
  key := by decide
  keyFirst := by decide
  keyLast := by decide
  value := by decide
  valueFirst := by decide
  valueLast := by decide

theorem wellFormed_buildSpec : buildSpec.WellFormed where
  nonempty := by decide
  key := by decide
  keyFirst := by decide
  keyLast := by decide
  value := by decide
  valueFirst := by decide
  valueLast := by decide

theorem parse_wrapped_longTitle :
    (∀ a ∈ [longTitle, buildSpec], a.WellFormed) ∧ ([longTitle, buildSpec].map WrittenAttribute.key).Nodup ∧
    String.ofList (written [longTitle, buildSpec]) =
      "Implementation-Title: very long\r\n  na\n me: x\r\nBuild-Jdk-Spec: \n 17\n" ∧
    ReadAs [longTitle, buildSpec] WrittenAttribute.value ∧
    String.ofList longTitle.value = "very long name: x" ∧ String.ofList buildSpec.value = "17" := by
  have hwell : ∀ a ∈ [longTitle, buildSpec], a.WellFormed := by
    simp [wellFormed_longTitle, wellFormed_buildSpec]
  have hdistinct : ([longTitle, buildSpec].map WrittenAttribute.key).Nodup := by decide
  have hcuts : ∀ a ∈ [longTitle, buildSpec], ¬ a.CutBehindBlank := by
    simp only [List.forall_mem_cons, ← joinedValue_eq_iff]
    exact ⟨rfl, rfl, nofun⟩
  exact ⟨hwell, hdistinct, rfl, (parse_wrapped hwell hdistinct).2.2 hcuts, rfl, rfl⟩

/-- a title cut behind a blank -/
def spacedTitle : WrittenAttribute :=
  ⟨"Implementation-Title", "very long ".toList, .lineFeed, [("name".toList, .lineFeed)]⟩

theorem wellFormed_spacedTitle : spacedTitle.WellFormed where
  nonempty := by decide
  key := by decide
  keyFirst := by decide
  keyLast := by decide
  value := by decide
  valueFirst := by decide
  valueLast := by decide

/-- A manifest is not always read back as it was meant: a blank right before a cut is lost. -/
theorem parse_spacedTitle :
    spacedTitle.WellFormed ∧ String.ofList spacedTitle.value = "very long name" ∧
    String.ofList (written [spacedTitle]) = "Implementation-Title: very long \n name\n" ∧
    (parse (String.ofList (written [spacedTitle]))).get? "Implementation-Title" = some "very longname" ∧
    ¬ ReadAs [spacedTitle] WrittenAttribute.value := by
  have hread : (parse (String.ofList (written [spacedTitle]))).get? "Implementation-Title" = some "very longname" := by
    decide +kernel
  refine ⟨wellFormed_spacedTitle, rfl, rfl, hread, fun hmeant => ?_⟩
  obtain ⟨a, ha, -, hvalue⟩ := (hmeant _ _).1 hread
  rw [List.mem_singleton.1 ha] at hvalue
  exact absurd hvalue (by decide)

end Manifest

end CodeSurvey
