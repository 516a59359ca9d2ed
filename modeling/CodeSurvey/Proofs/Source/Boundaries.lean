/-
Places between the characters of a text.

A span can be cut out of a text when its ends are in order, within the text and between characters (`Span.Cuts`);
`cuts_encode_iff` says the same by characters: it is the span of a part of the text. Places are found in the masked
bytes. Those show each character whole or blank it whole, so a place is between characters unless both bytes around it
are spaces or both lie beyond ASCII (`isBoundary_of_masked`).
-/
import CodeSurvey.Proofs.Source.Agreement
import CodeSurvey.Proofs.Source.Extents

namespace CodeSurvey.Source

open Text

/-! ## Boundaries -/

/-- no character of the bytes goes on over the place -/
def isBoundary (bs : Bytes) (n : Nat) : Bool :=
  match bs[n]? with
  | some b => !isContinuation b
  | none => n = bs.length

/-- the first byte of a character continues none, and all others do -/
theorem utf8EncodeChar_continuation (c : Char) :
    ∃ b bs, String.utf8EncodeChar c = b :: bs ∧ isContinuation b = false ∧ ∀ b' ∈ bs, isContinuation b' = true := by
  have hvalid : c.val.toNat < 0x110000 := by
    rcases c.valid with h | h
    · exact Nat.lt_trans h (by decide)
    · exact h.2
  have hcontinues : ∀ n, isContinuation (UInt8.ofNat (n % 64 + 128)) = true := fun n =>
    isContinuation_of (toNat_byte (by omega))
  have hstarts : ∀ n, n < 128 ∨ 192 ≤ n → n < 256 → isContinuation (UInt8.ofNat n) = false := by
    intro n hn hlt
    rw [isContinuation, Bool.and_eq_false_iff, decide_eq_false_iff_not, decide_eq_false_iff_not,
      UInt8.le_iff_toNat_le, UInt8.le_iff_toNat_le, toNat_byte hlt]
    simp only [UInt8.reduceToNat]
    omega
  unfold String.utf8EncodeChar
  generalize c.val.toNat = v at hvalid
  dsimp only
  split
  · exact ⟨_, _, rfl, hstarts _ (by omega) (by omega), fun b' hb' => absurd hb' List.not_mem_nil⟩
  split
  · exact ⟨_, _, rfl, hstarts _ (by omega) (by omega), List.forall_mem_singleton.2 (hcontinues _)⟩
  split
  · exact ⟨_, _, rfl, hstarts _ (by omega) (by omega),
      List.forall_mem_cons.2 ⟨hcontinues _, List.forall_mem_singleton.2 (hcontinues _)⟩⟩
  · exact ⟨_, _, rfl, hstarts _ (by omega) (by omega), List.forall_mem_cons.2 ⟨hcontinues _,
      List.forall_mem_cons.2 ⟨hcontinues _, List.forall_mem_singleton.2 (hcontinues _)⟩⟩⟩

theorem isBoundary_append (front back : Bytes) (n : Nat) :
    isBoundary (front ++ back) (front.length + n) = isBoundary back n := by
  rw [isBoundary, isBoundary, List.getElem?_append_right (Nat.le_add_right _ _), Nat.add_sub_cancel_left,
    List.length_append]
  cases back[n]? with
  | some b => rfl
  | none => simp

/-- A place is a boundary if and only if characters of the text end there. -/
theorem isBoundary_encodeChars_iff {cs : List Char} {n : Nat} :
    isBoundary (encodeChars cs) n = true ↔ ∃ front back, cs = front ++ back ∧ (encodeChars front).length = n := by
  induction cs generalizing n with
  | nil =>
    constructor
    · intro h
      exact ⟨[], [], rfl, (of_decide_eq_true h).symm⟩
    · rintro ⟨front, back, hsplit, rfl⟩
      rw [(List.append_eq_nil_iff.1 hsplit.symm).1]
      rfl
  | cons c cs ih =>
    obtain ⟨b, bs, hform, hfirst, hothers⟩ := utf8EncodeChar_continuation c
    rw [encodeChars_cons]
    constructor
    · intro h
      by_cases hlt : n < (String.utf8EncodeChar c).length
      · -- within a character only its first byte is one that starts a character
        cases n with
        | zero => exact ⟨[], c :: cs, rfl, rfl⟩
        | succ n =>
          rw [isBoundary, List.getElem?_append_left hlt, hform, List.getElem?_cons_succ] at h
          rw [hform, List.length_cons] at hlt
          have hn : n < bs.length := Nat.lt_of_succ_lt_succ hlt
          have hinside : isContinuation bs[n] = true := hothers _ (List.getElem_mem hn)
          rw [List.getElem?_eq_getElem hn] at h
          exact absurd h (by simp [hinside])
      · obtain ⟨m, rfl⟩ := Nat.exists_eq_add_of_le (Nat.not_lt.1 hlt)
        rw [isBoundary_append, ih] at h
        obtain ⟨front, back, rfl, rfl⟩ := h
        exact ⟨c :: front, back, rfl, by rw [encodeChars_cons, List.length_append]⟩
    · rintro ⟨front, back, hsplit, rfl⟩
      cases front with
      | nil =>
        rw [isBoundary, hform]
        simpa [encodeChars] using hfirst
      | cons c' front =>
        obtain ⟨rfl, rfl⟩ := List.cons.inj hsplit
        rw [encodeChars_cons, List.length_append, isBoundary_append, ih]
        exact ⟨front, back, rfl, rfl⟩

/-- the span can be cut out of the bytes of a text -/
structure Span.Cuts (bs : Bytes) (s : Span) : Prop where
  ordered : s.start ≤ s.stop
  within : s.stop ≤ bs.length
  start : isBoundary bs s.start = true
  stop : isBoundary bs s.stop = true

instance (bs : Bytes) (s : Span) : Decidable (s.Cuts bs) :=
  decidable_of_iff
    (s.start ≤ s.stop ∧ s.stop ≤ bs.length ∧ isBoundary bs s.start = true ∧ isBoundary bs s.stop = true)
    ⟨fun ⟨ordered, within, start, stop⟩ => ⟨ordered, within, start, stop⟩,
      fun h => ⟨h.ordered, h.within, h.start, h.stop⟩⟩

theorem append_inj_of_encode {as bs cs ds : List Char} (h : as ++ bs = cs ++ ds)
    (hle : (encodeChars as).length ≤ (encodeChars cs).length) : ∃ part, cs = as ++ part ∧ bs = part ++ ds := by
  rcases List.append_eq_append_iff.1 h with ⟨part, hcs, hbs⟩ | ⟨part, rfl, hds⟩
  · exact ⟨part, hcs, hbs⟩
  · -- what has no bytes has no characters
    have hpart : part = [] := by
      cases part with
      | nil => rfl
      | cons c part =>
        obtain ⟨b, bs', hform, -⟩ := utf8EncodeChar_cons c
        rw [encodeChars_append, encodeChars_cons, hform] at hle
        simp only [List.length_append, List.length_cons] at hle
        omega
    subst hpart
    exact ⟨[], by simp, by simpa using hds.symm⟩

/-- **A span can be cut out of a text if and only if it is the span of a part of it**, which is then what is cut out. -/
theorem cuts_encode_iff {text : String} {s : Span} :
    s.Cuts (encode text) ↔ ∃ front part back : List Char, text.toList = front ++ part ++ back ∧
      s.start = (encodeChars front).length ∧ s.stop = (encodeChars (front ++ part)).length ∧
        spanText (encode text) s = String.ofList part := by
  constructor
  · intro h
    obtain ⟨front, back, hfront, hstart⟩ := isBoundary_encodeChars_iff.1 h.start
    obtain ⟨upTo, after, hupTo, hstop⟩ := isBoundary_encodeChars_iff.1 h.stop
    obtain ⟨part, rfl, rfl⟩ := append_inj_of_encode (hfront.symm.trans hupTo) (by have := h.ordered; omega)
    refine ⟨front, part, after, hupTo, hstart.symm, hstop.symm, ?_⟩
    have hbytes : encode text = encodeChars front ++ encodeChars part ++ encodeChars after := by
      rw [encode, hupTo, encodeChars_append, encodeChars_append]
    rw [spanText, hbytes, Span.of_append _ _ _ hstart.symm (by rw [← hstop, encodeChars_append, List.length_append]),
      decodeLossy_encodeChars]
  · rintro ⟨front, part, back, htext, hstart, hstop, -⟩
    refine ⟨?_, ?_, ?_, ?_⟩
    · rw [hstart, hstop, encodeChars_append, List.length_append]
      exact Nat.le_add_right _ _
    · rw [hstop, encode, htext, encodeChars_append (front ++ part), List.length_append]
      exact Nat.le_add_right _ _
    · exact isBoundary_encodeChars_iff.2 ⟨front, part ++ back, by rw [htext, List.append_assoc], hstart.symm⟩
    · exact isBoundary_encodeChars_iff.2 ⟨front ++ part, back, htext, hstop.symm⟩

/-- what is cut out has the bytes of the span -/
theorem Span.Cuts.encode_spanText {text : String} {s : Span} (h : s.Cuts (encode text)) :
    encode (spanText (encode text) s) = s.of (encode text) := by
  obtain ⟨front, part, back, htext, hstart, hstop, hpart⟩ := cuts_encode_iff.1 h
  have hbytes : encode text = encodeChars front ++ encodeChars part ++ encodeChars back := by
    rw [encode, htext, encodeChars_append, encodeChars_append]
  rw [hpart, hbytes, Span.of_append _ _ _ hstart (by rw [hstop, encodeChars_append, List.length_append]), encode,
    String.toList_ofList]

/-! ## Boundaries in the masked copy -/

/-- the two bytes are not both spaces, and do not both lie beyond ASCII -/
def Differ (a b : UInt8) : Prop := ¬ (a = space ∧ b = space) ∧ ¬ (128 ≤ a.toNat ∧ 128 ≤ b.toNat)

theorem Differ.symm {a b : UInt8} (h : Differ a b) : Differ b a :=
  ⟨fun hspace => h.1 hspace.symm, fun hbeyond => h.2 hbeyond.symm⟩

/-- a byte of ASCII that is no space differs from every byte -/
theorem differ_of_ascii {a : UInt8} (hspace : a ≠ space) (hlow : a.toNat < 128) (b : UInt8) : Differ a b :=
  ⟨fun h => hspace h.1, fun h => absurd hlow (Nat.not_lt.2 h.1)⟩

theorem differ_of_ident {a b : UInt8} (ha : isIdentByte a = true) (hb : isIdentByte b = false) : Differ a b := by
  refine ⟨?_, fun h => ?_⟩
  · rintro ⟨rfl, -⟩
    exact absurd ha (by decide)
  · have hbeyond := (classes_beyond b.toNat b.toNat_lt h.2).1
    rw [UInt8.ofNat_toNat, hb] at hbeyond
    exact absurd hbeyond Bool.false_ne_true

/-- bytes next to each other in one character do not differ -/
theorem not_differ_of_shownChar {blank : Bool} {c : Char} {front back : Bytes} {a b : UInt8}
    (h : shownChar blank c = front ++ [a] ++ b :: back) : ¬ Differ a b := by
  have hmem : a ∈ shownChar blank c ∧ b ∈ shownChar blank c := by simp [h]
  rintro ⟨hspace, hbeyond⟩
  cases blank with
  | true => exact hspace ⟨List.eq_of_mem_replicate hmem.1, List.eq_of_mem_replicate hmem.2⟩
  | false =>
    by_cases hc : c.toNat < 128
    · have hone : shownChar false c = [UInt8.ofNat c.toNat] := utf8EncodeChar_ascii hc
      rw [hone] at h
      have hlength := congrArg List.length h
      simp only [List.length_append, List.length_cons, List.length_nil] at hlength
      omega
    · exact hbeyond ⟨beyond_of_mem_utf8EncodeChar (Nat.not_lt.1 hc) hmem.1,
        beyond_of_mem_utf8EncodeChar (Nat.not_lt.1 hc) hmem.2⟩

/-- **Characters end in the masked copy where the bytes around a place differ.** -/
theorem exists_split {m : MaskMode} {cs : List Char} {front back : Bytes}
    (h : maskFrom m (encodeChars cs) = front ++ back)
    (hdiffer : ∀ a ∈ front.getLast?, ∀ b ∈ back.head?, Differ a b) :
    ∃ cs₁ cs₂, cs = cs₁ ++ cs₂ ∧ (encodeChars cs₁).length = front.length := by
  induction cs generalizing m front with
  | nil =>
    have hnil : front = [] := (List.append_eq_nil_iff.1 h.symm).1
    exact ⟨[], [], rfl, by rw [hnil]; rfl⟩
  | cons c cs ih =>
    have hlength : (shownChar (m.blanks c) c).length = (String.utf8EncodeChar c).length := by
      rw [shownChar]
      split
      · exact List.length_replicate
      · rfl
    rw [encodeChars_cons, maskFrom_char] at h
    rcases List.append_eq_append_iff.1 h with ⟨later, rfl, hrest⟩ | ⟨part, hchar, rfl⟩
    · obtain ⟨cs₁, cs₂, rfl, hcs⟩ := ih hrest fun a ha b hb =>
        hdiffer a (by rw [List.getLast?_append, Option.mem_def.1 ha]; rfl) b hb
      exact ⟨c :: cs₁, cs₂, rfl, by rw [encodeChars_cons, List.length_append, List.length_append, hcs, hlength]⟩
    · rcases List.eq_nil_or_concat front with rfl | ⟨init, a, rfl⟩
      · exact ⟨[], c :: cs, rfl, rfl⟩
      cases part with
      | nil => exact ⟨[c], cs, rfl, by rw [encodeChars_singleton, ← hlength, hchar, List.append_nil]⟩
      | cons b part =>
        rw [List.concat_eq_append] at hchar
        exact absurd (hdiffer a (by simp) b (by simp)) (not_differ_of_shownChar hchar)

theorem isBoundary_of_masked {text : String} {front back : Bytes} (h : mask (encode text) = front ++ back)
    (hdiffer : ∀ a ∈ front.getLast?, ∀ b ∈ back.head?, Differ a b) : isBoundary (encode text) front.length = true := by
  obtain ⟨cs₁, cs₂, hsplit, hlength⟩ := exists_split h hdiffer
  exact isBoundary_encodeChars_iff.2 ⟨cs₁, cs₂, hsplit, hlength⟩

/-- before and behind a delimiter no character goes on -/
theorem isBoundary_delimiter {text : String} {front back : Bytes} {d : UInt8}
    (h : mask (encode text) = front ++ d :: back) (hspace : d ≠ space) (hlow : d.toNat < 128) :
    isBoundary (encode text) front.length = true ∧ isBoundary (encode text) (front.length + 1) = true := by
  have hd := differ_of_ascii hspace hlow
  constructor
  · refine isBoundary_of_masked h fun a _ b hb => ?_
    obtain rfl : d = b := Option.some.inj hb
    exact (hd a).symm
  · have hsplit : mask (encode text) = (front ++ [d]) ++ back := by rw [h, List.append_assoc, List.singleton_append]
    have hlength : (front ++ [d]).length = front.length + 1 := by simp
    rw [← hlength]
    refine isBoundary_of_masked hsplit fun a ha b _ => ?_
    obtain rfl : d = a := by simpa using ha
    exact hd b

end CodeSurvey.Source
