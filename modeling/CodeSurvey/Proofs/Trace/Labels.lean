/-
Labels of called methods.

A name is read as a verb and the rest behind it: as a listed verb in any case, behind which the name ends or a new part
begins (`Listed`); where there is none, as three characters before an upper-case one; and without any character as the
other verb alone (`Reads`). There is at most one such reading, since no listed verb begins with another.

`label_reads`: the label of a name that is read so is the verb as it is shown, a space and the rest, and every other
name is its own label without blanks around it. A label is labelled by itself: no shown verb with a space behind it is
read again. The bytes of a name begin with those of a listed verb only where its characters do (`beginsBytes_iff`), so
no cut falls into a character.
-/
import Mathlib.Data.List.Basic
import CodeSurvey.Names
import CodeSurvey.Proofs.Text.Cutting
import CodeSurvey.Proofs.Text.Utf8

namespace CodeSurvey.Names

open Text

/-! ## Readings -/

/-- the verbs that labels show -/
def shownVerbs : List String := otherVerb :: verbs.map (·.2)

/-- the name begins with a listed verb in any case, and behind it ends or goes on with a new part -/
structure Listed (name : List Char) (verb : String) (front rest : List Char) : Prop where
  parts : name = front ++ rest
  listed : (String.ofList (front.map lowerAscii), verb) ∈ verbs
  part : ∀ c ∈ rest.head?, startsPart c = true

/-- how a name is read: its verb as it is shown, what stands for it in the name, and the rest -/
inductive Reads (name : List Char) : (verb : String) → (front rest : List Char) → Prop
  | nameless (h : name = []) : Reads name otherVerb [] []
  | listed {verb : String} {front rest : List Char} (h : Listed name verb front rest) : Reads name verb front rest
  | short {front rest : List Char} {c : Char} (hparts : name = front ++ c :: rest) (hlength : front.length = 3)
    (hc : isUppercase c = true) (hunlisted : ∀ verb front rest, ¬ Listed name verb front rest) :
    Reads name otherVerb front (c :: rest)

theorem afterVerb_eq_some_iff {verb : String} {name rest : List Char} :
    afterVerb verb name = some rest ↔ ∃ front, name = front ++ rest ∧ String.ofList (front.map lowerAscii) = verb := by
  rw [afterVerb]
  constructor
  · intro h
    split at h
    · rename_i hverb
      obtain rfl := Option.some.inj h
      refine ⟨name.take verb.length, (List.take_append_drop _ _).symm, ?_⟩
      rw [eq_of_beq hverb, String.ofList_toList]
    · cases h
  · rintro ⟨front, rfl, rfl⟩
    have hlength : (String.ofList (front.map lowerAscii)).length = front.length := by
      rw [String.length_ofList, List.length_map]
    rw [hlength, List.take_left, List.drop_left, String.toList_ofList, if_pos (beq_self_eq_true _)]

theorem labelBy_eq_some_iff {name : List Char} {entry : String × String} {text : String} :
    labelBy name entry = some text ↔ ∃ front rest, name = front ++ rest ∧
      String.ofList (front.map lowerAscii) = entry.1 ∧ (∀ c ∈ rest.head?, startsPart c = true) ∧
      text = withVerb entry.2 rest := by
  constructor
  · intro h
    rw [labelBy] at h
    split at h
    · rename_i hafter
      obtain ⟨front, hparts, hfront⟩ := afterVerb_eq_some_iff.1 hafter
      exact ⟨front, [], hparts, hfront, fun c hc => (nomatch hc), (Option.some.inj h).symm⟩
    · rename_i c rest hafter
      obtain ⟨front, hparts, hfront⟩ := afterVerb_eq_some_iff.1 hafter
      split at h
      · rename_i hc
        refine ⟨front, c :: rest, hparts, hfront, fun d hd => ?_, (Option.some.inj h).symm⟩
        exact Option.some.inj hd ▸ hc
      · cases h
    · cases h
  · rintro ⟨front, rest, hparts, hfront, hpart, rfl⟩
    rw [labelBy, afterVerb_eq_some_iff.2 ⟨front, hparts, hfront⟩]
    cases rest with
    | nil => rfl
    | cons c rest => exact if_pos (hpart c rfl)

/-- no listed verb begins with another one -/
theorem verbs_apart : ∀ e ∈ verbs, ∀ e' ∈ verbs, e.1.toList <+: e'.1.toList → e = e' := by
  decide

theorem Listed.unique {name front rest front' rest' : List Char} {verb verb' : String}
    (h : Listed name verb front rest) (h' : Listed name verb' front' rest') :
    verb = verb' ∧ front = front' ∧ rest = rest' := by
  have hsame : front ++ rest = front' ++ rest' := h.parts.symm.trans h'.parts
  have hbegins : ∀ {a b : List Char}, a <+: b →
      (String.ofList (a.map lowerAscii)).toList <+: (String.ofList (b.map lowerAscii)).toList := by
    intro a b hab
    rw [String.toList_ofList, String.toList_ofList]
    exact hab.map lowerAscii
  have hentry : (String.ofList (front.map lowerAscii), verb) = (String.ofList (front'.map lowerAscii), verb') := by
    rcases List.prefix_or_prefix_of_prefix ⟨rest, rfl⟩ ⟨rest', hsame.symm⟩ with hle | hle
    · exact verbs_apart _ h.listed _ h'.listed (hbegins hle)
    · exact (verbs_apart _ h'.listed _ h.listed (hbegins hle)).symm
  obtain ⟨hfront, hverb⟩ := Prod.mk.inj hentry
  have hlength : front.length = front'.length := by
    have := congrArg String.length hfront
    simpa using this
  obtain ⟨hfront, hrest⟩ := List.append_inj hsame hlength
  exact ⟨hverb, hfront, hrest⟩

theorem not_listed_nil (verb : String) (front rest : List Char) : ¬ Listed [] verb front rest := by
  intro h
  obtain ⟨rfl, rfl⟩ := List.append_eq_nil_iff.1 h.parts.symm
  have hnone : ∀ e ∈ verbs, e.1 ≠ "" := by decide
  exact hnone _ h.listed rfl

/-- the label of a name with a listed verb -/
theorem findSome?_labelBy {name front rest : List Char} {verb : String} (h : Listed name verb front rest) :
    verbs.findSome? (labelBy name) = some (withVerb verb rest) := by
  cases hfind : verbs.findSome? (labelBy name) with
  | none =>
    have hnone := List.findSome?_eq_none_iff.1 hfind _ h.listed
    rw [labelBy_eq_some_iff.2 ⟨front, rest, h.parts, rfl, h.part, rfl⟩] at hnone
    cases hnone
  | some text =>
    obtain ⟨⟨_, verb'⟩, hentry, htext⟩ := List.exists_of_findSome?_eq_some hfind
    obtain ⟨front', rest', hparts, rfl, hpart, rfl⟩ := labelBy_eq_some_iff.1 htext
    obtain ⟨rfl, -, rfl⟩ := h.unique ⟨hparts, hentry, hpart⟩
    rfl

theorem findSome?_labelBy_eq_none {name : List Char} (h : ∀ verb front rest, ¬ Listed name verb front rest) :
    verbs.findSome? (labelBy name) = none := by
  refine List.findSome?_eq_none_iff.2 fun ⟨_, verb⟩ hentry => Option.eq_none_iff_forall_ne_some.2 fun text htext => ?_
  obtain ⟨front, rest, hparts, rfl, hpart, -⟩ := labelBy_eq_some_iff.1 htext
  exact h verb front rest ⟨hparts, hentry, hpart⟩

/-- **A name that is read has its verb and the rest as its label.** -/
theorem label_of_reads {m verb : String} {front rest : List Char} (h : Reads (trim m.toList) verb front rest) :
    label m = withVerb verb rest := by
  unfold label
  cases h with
  | nameless h => rw [h]; rfl
  | listed h =>
    have hne : trim m.toList ≠ [] := fun hnil => not_listed_nil _ _ _ (hnil ▸ h)
    rw [if_neg (by simpa using hne), findSome?_labelBy h, Option.getD_some]
  | @short front rest c hparts hlength hc hunlisted =>
    have hdrop : (trim m.toList).drop 3 = c :: rest := by rw [hparts, ← hlength, List.drop_left]
    rw [if_neg (by simp [hparts]), findSome?_labelBy_eq_none hunlisted, Option.getD_none, hdrop]
    exact if_pos hc

/-- **Every other name is its own label.** -/
theorem label_of_not_reads {m : String} (h : ∀ verb front rest, ¬ Reads (trim m.toList) verb front rest) :
    label m = trimmed m := by
  have hunlisted : ∀ verb front rest, ¬ Listed (trim m.toList) verb front rest :=
    fun verb front rest hlisted => h verb front rest (.listed hlisted)
  have hne : trim m.toList ≠ [] := fun hnil => h _ _ _ (.nameless hnil)
  unfold label
  rw [if_neg (by simpa using hne), findSome?_labelBy_eq_none hunlisted, Option.getD_none]
  cases hdrop : (trim m.toList).drop 3 with
  | nil => rfl
  | cons c rest =>
    refine if_neg fun hc => ?_
    have hparts : trim m.toList = (trim m.toList).take 3 ++ c :: rest := by rw [← hdrop, List.take_append_drop]
    have hlength : ((trim m.toList).take 3).length = 3 := by
      have := congrArg List.length hdrop
      rw [List.length_drop, List.length_cons] at this
      rw [List.length_take]
      omega
    exact h _ _ _ (.short hparts hlength hc hunlisted)

theorem Reads.parts {name front rest : List Char} {verb : String} (h : Reads name verb front rest) :
    name = front ++ rest := by
  cases h with
  | nameless h => exact h
  | listed h => exact h.parts
  | short h => exact h

theorem Reads.shown {name front rest : List Char} {verb : String} (h : Reads name verb front rest) :
    verb ∈ shownVerbs := by
  cases h with
  | nameless => exact List.mem_cons_self
  | listed h => exact List.mem_cons_of_mem _ (List.mem_map_of_mem h.listed)
  | short => exact List.mem_cons_self

/-! ## Labels of labels -/

/-- a shown verb alone is its own label -/
theorem label_shownVerb : ∀ verb ∈ shownVerbs, label verb = verb := by
  decide +kernel

/-- no listed verb has a space, and one with which a shown verb begins is as long as it -/
theorem listed_in_shown : ∀ e ∈ verbs, ' ' ∉ e.1.toList ∧
    ∀ verb ∈ shownVerbs, e.1.toList <+: verb.toList.map lowerAscii → e.1.length = verb.length := by
  decide

/-- before a space the fourth character of a shown verb is not in upper case -/
theorem fourth_of_shown : ∀ verb ∈ shownVerbs, (verb.toList ++ [' '])[3]?.map isUppercase = some false := by
  decide +kernel

/-- a shown verb begins with a character that is no blank -/
theorem head_of_shown : ∀ verb ∈ shownVerbs, verb.toList.head?.map isBlank = some false := by
  decide +kernel

/-- behind a shown verb and a space no listed verb ends where a part could begin -/
theorem not_listed_shown {verb : String} (hverb : verb ∈ shownVerbs) {rest : List Char} (verb' : String)
    (front' rest' : List Char) : ¬ Listed (verb.toList ++ ' ' :: rest) verb' front' rest' := by
  intro h
  obtain ⟨hspace, hbegins⟩ := listed_in_shown _ h.listed
  rw [String.toList_ofList] at hspace hbegins
  -- the listed verb has no space, so it ends before the one behind the shown verb
  rcases List.append_eq_append_iff.1 h.parts with ⟨more, rfl, hmore⟩ | ⟨more, hshown, hmore⟩
  · cases more with
    | nil =>
      rw [List.nil_append] at hmore
      exact absurd (h.part ' ' (by rw [← hmore]; rfl)) (by decide +kernel)
    | cons d more =>
      obtain ⟨rfl, -⟩ := List.cons.inj hmore
      exact hspace (List.mem_map.2 ⟨' ', by simp, rfl⟩)
  · have hlength := hbegins verb hverb (by rw [hshown, List.map_append]; exact List.prefix_append _ _)
    rw [String.length_ofList, List.length_map, ← String.length_toList, hshown, List.length_append] at hlength
    obtain rfl := List.eq_nil_of_length_eq_zero (show more.length = 0 by omega)
    rw [List.nil_append] at hmore
    exact absurd (h.part ' ' (by rw [hmore]; rfl)) (by decide +kernel)

/-- a shown verb with a space behind it is not read as a verb again -/
theorem not_reads_shown {verb : String} (hverb : verb ∈ shownVerbs) (rest : List Char) (verb' : String)
    (front' rest' : List Char) : ¬ Reads (verb.toList ++ ' ' :: rest) verb' front' rest' := by
  intro h
  cases h with
  | nameless h => simp at h
  | listed h => exact not_listed_shown hverb _ _ _ h
  | @short front rest' c hparts hlength hc hunlisted =>
    obtain ⟨d, hd, hlower⟩ := Option.map_eq_some_iff.1 (fourth_of_shown verb hverb)
    have hsame : (verb.toList ++ ' ' :: rest)[3]? = some d := by
      rw [← hd, List.append_cons, List.getElem?_append_left]
      exact (List.getElem?_eq_some_iff.1 hd).1
    rw [hparts, ← hlength, List.getElem?_append_right (Nat.le_refl _), Nat.sub_self] at hsame
    obtain rfl : c = d := by simpa using hsame
    rw [hc] at hlower
    cases hlower

theorem toList_withVerb {verb : String} {rest : List Char} (h : rest ≠ []) :
    (withVerb verb rest).toList = verb.toList ++ ' ' :: rest := by
  cases rest with
  | nil => exact absurd rfl h
  | cons c rest => simp [withVerb]

/-- **A label is its own label.** -/
theorem label_label (m : String) : label (label m) = label m := by
  by_cases hreads : ∃ verb front rest, Reads (trim m.toList) verb front rest
  · obtain ⟨verb, front, rest, h⟩ := hreads
    rw [label_of_reads h]
    by_cases hrest : rest = []
    · subst hrest
      exact label_shownVerb verb h.shown
    · have htrim : trim (withVerb verb rest).toList = verb.toList ++ ' ' :: rest := by
        rw [toList_withVerb hrest]
        apply trim_of_ends
        · obtain ⟨c, hc, hblank⟩ := Option.map_eq_some_iff.1 (head_of_shown verb h.shown)
          intro d hd
          rw [List.head?_append, hc] at hd
          exact Option.some.inj hd ▸ hblank
        · intro d hd
          refine trim_last m.toList d ?_
          rw [h.parts, List.getLast?_append_of_ne_nil _ hrest]
          rw [List.append_cons, List.getLast?_append_of_ne_nil _ hrest] at hd
          exact hd
      rw [label_of_not_reads, trimmed, htrim, ← toList_withVerb hrest, String.ofList_toList]
      intro verb' front' rest'
      rw [htrim]
      exact not_reads_shown h.shown rest verb' front' rest'
  · have hnone : ∀ verb front rest, ¬ Reads (trim m.toList) verb front rest :=
      fun verb front rest h => hreads ⟨verb, front, rest, h⟩
    have htrim : trim (trimmed m).toList = trim m.toList := by rw [trimmed, String.toList_ofList, trim_trim]
    rw [label_of_not_reads hnone, label_of_not_reads (by rwa [htrim]), trimmed, htrim, ← trimmed]

/-! ## Bytes -/

/-- the byte in lower case, if it is an upper-case letter of ASCII -/
def lowerByte (b : UInt8) : UInt8 := if 65 ≤ b && b ≤ 90 then b + 32 else b

/-- the bytes of the name begin with those of the verb, up to the case of ASCII letters -/
def BeginsBytes (name verb : List Char) : Prop :=
  ((encodeChars name).take (encodeChars verb).length).map lowerByte = encodeChars verb

theorem lowerByte_ascii : ∀ n < 128, lowerByte (UInt8.ofNat n) = UInt8.ofNat (lowerAscii (Char.ofNat n)).toNat ∧
    (lowerAscii (Char.ofNat n)).toNat < 128 := by
  decide +kernel

theorem lowerByte_beyond {b : UInt8} (h : 128 ≤ b.toNat) : lowerByte b = b := by
  refine if_neg fun hupper => ?_
  have := (between_iff 65 90 b).1 hupper
  simp at this
  omega

theorem lowerAscii_beyond {c : Char} (h : 128 ≤ c.toNat) : lowerAscii c = c := by
  refine if_neg fun hupper => ?_
  have hle : c ≤ 'Z' := by
    simp only [isAsciiUpper, Bool.and_eq_true, decide_eq_true_eq] at hupper
    exact hupper.2
  have : c.toNat ≤ 90 := hle
  omega

theorem verbs_ascii : ∀ e ∈ verbs, ∀ c ∈ e.1.toList, c.toNat < 128 := by
  decide

theorem length_encodeChars_ascii {cs : List Char} (h : ∀ c ∈ cs, c.toNat < 128) :
    (encodeChars cs).length = cs.length := by
  induction cs with
  | nil => rfl
  | cons c cs ih =>
    obtain ⟨hc, hcs⟩ := List.forall_mem_cons.1 h
    rw [encodeChars_cons, utf8EncodeChar_ascii hc, List.length_append, ih hcs, List.length_cons, List.length_cons]
    simp [Nat.add_comm]

/-- **The bytes of a name begin with those of an ASCII word only where its characters do**, so they are parted between
two characters. The induction is on the word. -/
theorem beginsBytes_iff {name verb : List Char} (hverb : ∀ c ∈ verb, c.toNat < 128) :
    BeginsBytes name verb ↔ ∃ front rest, name = front ++ rest ∧ front.map lowerAscii = verb := by
  rw [BeginsBytes, length_encodeChars_ascii hverb]
  induction verb generalizing name with
  | nil =>
    simp only [List.length_nil, List.take_zero, List.map_nil]
    exact ⟨fun _ => ⟨[], name, rfl, rfl⟩, fun _ => rfl⟩
  | cons v verb ih =>
    obtain ⟨hv, hverb⟩ := List.forall_mem_cons.1 hverb
    rw [encodeChars_cons, utf8EncodeChar_ascii hv, List.length_cons, List.singleton_append]
    cases name with
    | nil => simp [encodeChars]
    | cons c name =>
      -- the first byte decides the first character, since a character beyond ASCII has no byte of ASCII
      have hfirst : ((∃ front rest, c :: name = front ++ rest ∧ front.map lowerAscii = v :: verb) ↔
          lowerAscii c = v ∧ ∃ front rest, name = front ++ rest ∧ front.map lowerAscii = verb) := by
        constructor
        · rintro ⟨front, rest, hname, hfront⟩
          obtain ⟨d, others, rfl, hd, hothers⟩ := List.map_eq_cons_iff.1 hfront
          obtain ⟨rfl, hrest⟩ := List.cons.inj hname
          exact ⟨hd, others, rest, hrest, hothers⟩
        · rintro ⟨hc, front, rest, rfl, rfl⟩
          exact ⟨c :: front, rest, rfl, by rw [List.map_cons, hc]⟩
      rw [hfirst, ← ih hverb]
      by_cases hc : c.toNat < 128
      · obtain ⟨hbyte, hlower⟩ := lowerByte_ascii _ hc
        rw [Char.ofNat_toNat] at hbyte hlower
        have hsame : UInt8.ofNat (lowerAscii c).toNat = UInt8.ofNat v.toNat ↔ lowerAscii c = v := by
          rw [← UInt8.toNat_inj, toNat_byte (by omega), toNat_byte (by omega), Char.toNat_inj]
        rw [encodeChars_cons, utf8EncodeChar_ascii hc, List.singleton_append, List.take_succ_cons, List.map_cons, hbyte,
          List.cons.injEq, hsame]
      · obtain ⟨b, bs, hform, -⟩ := utf8EncodeChar_cons c
        have hb : 128 ≤ b.toNat := beyond_of_mem_utf8EncodeChar (Nat.not_lt.1 hc) (hform ▸ List.mem_cons_self)
        have hbyte : lowerByte b ≠ UInt8.ofNat v.toNat := by
          intro heq
          rw [lowerByte_beyond hb, ← UInt8.toNat_inj, toNat_byte (by omega)] at heq
          omega
        have hchar : lowerAscii c ≠ v := by
          rw [lowerAscii_beyond (Nat.not_lt.1 hc)]
          rintro rfl
          exact hc hv
        rw [encodeChars_cons, hform, List.cons_append, List.take_succ_cons, List.map_cons, List.cons.injEq]
        simp [hbyte, hchar]

/-! ## The label of every name -/

/-- **The label of every name.** Labelling a label changes nothing. A name that is read as a verb and a rest has the
verb as its label, one of the shown ones, with a space and the rest byte by byte behind it unless the name ends there;
what is left of the name is all of it from the cut on. A name that is not read so is its own label without blanks around
it. Where the bytes of a name begin with those of a listed verb in any case, the cut behind them falls between two
characters. -/
theorem label_reads (m : String) :
    label (label m) = label m ∧
    (∀ verb front rest, Reads (trim m.toList) verb front rest →
      verb ∈ shownVerbs ∧ trim m.toList = front ++ rest ∧
      (rest = [] → label m = verb) ∧
      (rest ≠ [] → encode (label m) =
        encode verb ++ 0x20 :: (encode (trimmed m)).drop (encodeChars front).length)) ∧
    ((∀ verb front rest, ¬ Reads (trim m.toList) verb front rest) → label m = trimmed m) ∧
    ∀ entry ∈ verbs, BeginsBytes (trim m.toList) entry.1.toList → ∃ front rest,
      trim m.toList = front ++ rest ∧ String.ofList (front.map lowerAscii) = entry.1 ∧
      encodeChars front = (encode (trimmed m)).take (encode entry.1).length ∧
      encodeChars rest = (encode (trimmed m)).drop (encode entry.1).length := by
  refine ⟨label_label m, ?_, label_of_not_reads, ?_⟩
  · intro verb front rest h
    refine ⟨h.shown, h.parts, ?_, ?_⟩
    · rintro rfl
      exact label_of_reads h
    · intro hrest
      have hbehind : (encode (trimmed m)).drop (encodeChars front).length = encodeChars rest := by
        rw [encode, trimmed, String.toList_ofList, h.parts, encodeChars_append, List.drop_left]
      have hspace : String.utf8EncodeChar ' ' = [0x20] := by decide
      rw [hbehind, label_of_reads h, encode, toList_withVerb hrest, encodeChars_append, encodeChars_cons, hspace]
      rfl
  · intro entry hentry hbytes
    have hascii := verbs_ascii entry hentry
    obtain ⟨front, rest, hparts, hfront⟩ := (beginsBytes_iff hascii).1 hbytes
    have hfrontAscii : ∀ c ∈ front, c.toNat < 128 := by
      intro c hc
      by_contra hbeyond
      have hlower : lowerAscii c = c := lowerAscii_beyond (Nat.not_lt.1 hbeyond)
      exact hbeyond (hascii c (hfront ▸ List.mem_map.2 ⟨c, hc, hlower⟩))
    have hcut : (encode entry.1).length = (encodeChars front).length := by
      rw [encode, length_encodeChars_ascii hascii, length_encodeChars_ascii hfrontAscii, ← hfront, List.length_map]
    refine ⟨front, rest, hparts, by rw [hfront, String.ofList_toList], ?_, ?_⟩
    · rw [hcut, encode, trimmed, String.toList_ofList, hparts, encodeChars_append, List.take_left]
    · rw [hcut, encode, trimmed, String.toList_ofList, hparts, encodeChars_append, List.drop_left]

/-- a listed verb with no new part behind it, and an upper-case fourth character in it -/
example : label " fetCHits" = "execute CHits" := by decide +kernel

end CodeSurvey.Names
