/-
Readers, the bytes they take, and the entries of the pool.

`Reads p G` ties a reader to byte strings: `p` gives `x` exactly by taking bytes that `G` allows for `x`, and hands on
what stands behind them. It is kept by sequencing (`reads_bind`), so a reader made of readers has a lemma of this form
from those of its parts. `reads_take`, `reads_twoBytes` and `reads_byte` are the smallest ones.

`reads_constant`: an entry is read exactly from its bytes, a tag and what stands behind it. The tags of names and
classes are tested first, and `payload_eq_some_iff` says that the table for all other tags is that of `ValueKind`.
-/
import CodeSurvey.Error
import CodeSurvey.Proofs.Classes.Layout
import CodeSurvey.Proofs.Text.Utf8

namespace CodeSurvey.ClassFile

open Text

/-! ## Readers and the bytes they take -/

/-- `p` gives `x` exactly by taking bytes that `G` allows for it -/
def Reads {α : Type} (p : Step α) (G : α → Bytes → Prop) : Prop :=
  ∀ c x c', p c = .ok (x, c') ↔
    ∃ bs, G x bs ∧ c.rest = bs ++ c'.rest ∧ c'.position = c.position + bs.length

/-- one reader after another -/
def Step.bind {α β : Type} (p : Step α) (q : α → Step β) : Step β := fun c => do
  let (x, c) ← p c
  q x c

/-- a result that takes no bytes -/
def Step.lift {α : Type} (x : Except Fault α) : Step α := fun c => do
  let x ← x
  .ok (x, c)

variable {α β : Type}

theorem Step.bind_assoc {γ : Type} (p : Step α) (q : α → Step β) (r : β → Step γ) :
    (p.bind q).bind r = p.bind fun x => (q x).bind r := by
  funext c
  unfold Step.bind
  cases p c <;> rfl

theorem lift_bind (x : Except Fault α) (q : α → Step β) : (Step.lift x).bind q = fun c => x >>= fun a => q a c := by
  cases x <;> rfl

theorem reads_bind {p : Step α} {q : α → Step β} {G : α → Bytes → Prop} {H : α → β → Bytes → Prop} (hp : Reads p G)
    (hq : ∀ x, Reads (q x) (H x)) :
    Reads (p.bind q) fun y bs => ∃ x first second, G x first ∧ H x y second ∧ bs = first ++ second := by
  intro c y c'
  constructor
  · intro h
    obtain ⟨⟨x, d⟩, hx, hy⟩ := bind_ok_iff.1 h
    obtain ⟨first, hG, hrest, hpos⟩ := (hp c x d).1 hx
    obtain ⟨second, hH, hrest', hpos'⟩ := (hq x d y c').1 hy
    refine ⟨first ++ second, ⟨x, first, second, hG, hH, rfl⟩, ?_, ?_⟩
    · rw [hrest, hrest', List.append_assoc]
    · rw [hpos', hpos, List.length_append, Nat.add_assoc]
  · rintro ⟨_, ⟨x, first, second, hG, hH, rfl⟩, hrest, hpos⟩
    let d : ByteCursor := ⟨c.position + first.length, second ++ c'.rest⟩
    have hx : p c = .ok (x, d) := (hp c x d).2 ⟨first, hG, by rw [hrest, List.append_assoc], rfl⟩
    have hy : q x d = .ok (y, c') :=
      (hq x d y c').2 ⟨second, hH, rfl, by rw [hpos, List.length_append, Nat.add_assoc]⟩
    exact bind_ok_iff.2 ⟨(x, d), hx, hy⟩

theorem reads_lift (x : Except Fault α) : Reads (Step.lift x) fun y bs => x = .ok y ∧ bs = [] := by
  intro c y c'
  cases x with
  | error fault => simp [Step.lift, bind, Except.bind]
  | ok a =>
    simp only [Step.lift, bind, Except.bind, Except.ok.injEq, Prod.mk.injEq]
    constructor
    · rintro ⟨rfl, rfl⟩
      exact ⟨[], ⟨rfl, rfl⟩, rfl, rfl⟩
    · rintro ⟨bs, ⟨rfl, rfl⟩, hrest, hpos⟩
      refine ⟨rfl, ?_⟩
      obtain ⟨position, rest⟩ := c
      obtain ⟨position', rest'⟩ := c'
      simp_all

theorem Reads.congr {p : Step α} {G H : α → Bytes → Prop} (h : Reads p G) (hGH : ∀ x bs, G x bs ↔ H x bs) :
    Reads p H := by
  intro c x c'
  rw [h c x c']
  exact exists_congr fun bs => and_congr_left fun _ => hGH x bs

theorem reads_take (n : Nat) : Reads (take n) fun x bs => x = bs ∧ bs.length = n := by
  intro c x c'
  unfold take
  split
  · rename_i hlen
    simp only [Except.ok.injEq, Prod.mk.injEq]
    constructor
    · rintro ⟨rfl, rfl⟩
      exact ⟨_, ⟨rfl, hlen⟩, (List.take_append_drop n c.rest).symm, by rw [hlen]⟩
    · rintro ⟨bs, ⟨rfl, rfl⟩, hrest, hpos⟩
      refine ⟨by rw [hrest, List.take_left], ?_⟩
      obtain ⟨position', rest'⟩ := c'
      simp only [ByteCursor.mk.injEq]
      exact ⟨hpos.symm, by rw [hrest, List.drop_left]⟩
  · rename_i hlen
    refine ⟨fun h => by simp at h, ?_⟩
    rintro ⟨bs, ⟨rfl, rfl⟩, hrest, -⟩
    exact absurd (by rw [hrest, List.take_left]) hlen

theorem bigEndian_two (a b : UInt8) : bigEndian [a, b] = a.toNat * 256 + b.toNat := by
  simp [bigEndian]

theorem bigEndian_twoBytes (n : UInt16) : bigEndian (twoBytes n) = n.toNat := by
  have hn : n.toNat < 65536 := n.toNat_lt
  rw [twoBytes, bigEndian_two, toNat_byte (by omega), toNat_byte (by omega)]
  omega

/-- two bytes write one number -/
theorem eq_twoBytes {bs : Bytes} (h : bs.length = 2) : bs = twoBytes (UInt16.ofNat (bigEndian bs)) := by
  match bs, h with
  | [a, b], _ =>
    have ha := a.toNat_lt
    have hb := b.toNat_lt
    have hn : (UInt16.ofNat (bigEndian [a, b])).toNat = a.toNat * 256 + b.toNat := by
      rw [bigEndian_two, UInt16.toNat_ofNat_of_lt' (show _ < 65536 by omega)]
    have hhigh : (a.toNat * 256 + b.toNat) / 256 = a.toNat := by omega
    have hlow : (a.toNat * 256 + b.toNat) % 256 = b.toNat := by omega
    rw [twoBytes, hn, hhigh, hlow, UInt8.ofNat_toNat, UInt8.ofNat_toNat]

theorem readNumber_eq (n : Nat) : readNumber n = (take n).bind fun bs => Step.lift (.ok (bigEndian bs)) := rfl

theorem reads_number (n : Nat) : Reads (readNumber n) fun x bs => bs.length = n ∧ x = bigEndian bs := by
  rw [readNumber_eq]
  refine (reads_bind (reads_take n) fun bs => reads_lift _).congr fun x bs => ?_
  constructor
  · rintro ⟨first, _, _, ⟨rfl, hlen⟩, ⟨hx, rfl⟩, rfl⟩
    obtain rfl := Except.ok.inj hx
    simpa using hlen
  · rintro ⟨hlen, rfl⟩
    exact ⟨bs, bs, [], ⟨rfl, hlen⟩, ⟨rfl, rfl⟩, by simp⟩

theorem reads_twoBytes : Reads (readNumber 2) fun x bs => ∃ n : UInt16, x = n.toNat ∧ bs = twoBytes n := by
  refine (reads_number 2).congr fun x bs => ?_
  constructor
  · rintro ⟨hlen, rfl⟩
    have hbs := eq_twoBytes hlen
    refine ⟨UInt16.ofNat (bigEndian bs), ?_, hbs⟩
    rw [← bigEndian_twoBytes, ← hbs]
  · rintro ⟨n, rfl, rfl⟩
    exact ⟨rfl, (bigEndian_twoBytes n).symm⟩

theorem reads_byte : Reads (readNumber 1) fun x bs => ∃ b : UInt8, x = b.toNat ∧ bs = [b] := by
  refine (reads_number 1).congr fun x bs => ?_
  constructor
  · rintro ⟨hlen, rfl⟩
    obtain ⟨b, rfl⟩ := List.length_eq_one_iff.1 hlen
    exact ⟨b, by simp [bigEndian], rfl⟩
  · rintro ⟨b, rfl, rfl⟩
    exact ⟨rfl, by simp [bigEndian]⟩

/-! ## What an entry is read as -/

/-- what the reader puts at the next number, when it belongs to a wide value before it -/
def pending (second : Bool) : List Constant := if second then [.unusable] else []

namespace Entry

/-- what the reader makes of the entry -/
def constant : Entry → Constant
  | name bs _ => .name (decodeLossy bs)
  | classAt n => .classAt n.toNat
  | value kind _ _ => if kind.width = 2 then .wideValue else .value

/-- the constants at the numbers of the entry -/
def constants (e : Entry) : List Constant := e.constant :: pending (e.constant == .wideValue)

theorem length_constants (e : Entry) : e.constants.length = e.width := by
  cases e with
  | name bs fits => rfl
  | classAt n => rfl
  | value kind payload sized => cases kind <;> rfl

theorem width_pos (e : Entry) : 0 < e.width := by
  rw [← e.length_constants]
  exact Nat.succ_pos _

end Entry

theorem constant_eq_classAt {e : Entry} {target : Nat} :
    e.constant = .classAt target ↔ ∃ n : UInt16, e = .classAt n ∧ n.toNat = target := by
  cases e with
  | name bs fits => simp [Entry.constant]
  | classAt n => simp [Entry.constant]
  | value kind payload sized => cases kind <;> simp [Entry.constant, ValueKind.width]

theorem constant_eq_name {e : Entry} {s : String} :
    e.constant = .name s ↔ ∃ bs fits, e = .name bs fits ∧ decodeLossy bs = s := by
  cases e with
  | name bs fits => simp [Entry.constant, fits]
  | classAt n => simp [Entry.constant]
  | value kind payload sized => cases kind <;> simp [Entry.constant, ValueKind.width]

/-! ## Tags -/

/-- the reader's table of payloads is that of the kinds of constants -/
theorem payload_eq_some_iff (tag length : Nat) (wide : Bool) :
    payload? tag = some (length, wide) ↔
      ∃ kind : ValueKind, kind.tag.toNat = tag ∧ kind.size = length ∧ decide (kind.width = 2) = wide := by
  constructor
  · intro h
    unfold payload? at h
    split at h
    · rename_i htag
      obtain ⟨rfl, rfl⟩ := Prod.mk.inj (Option.some.inj h)
      simp only [List.contains_cons, List.contains_nil, Bool.or_false, Bool.or_eq_true, beq_iff_eq] at htag
      rcases htag with rfl | rfl | rfl | rfl | rfl | rfl | rfl | rfl
      · exact ⟨.int, rfl, rfl, rfl⟩
      · exact ⟨.float, rfl, rfl, rfl⟩
      · exact ⟨.field, rfl, rfl, rfl⟩
      · exact ⟨.method, rfl, rfl, rfl⟩
      · exact ⟨.interfaceMethod, rfl, rfl, rfl⟩
      · exact ⟨.nameAndType, rfl, rfl, rfl⟩
      · exact ⟨.dynamic, rfl, rfl, rfl⟩
      · exact ⟨.invokeDynamic, rfl, rfl, rfl⟩
    split at h
    · rename_i htag
      obtain ⟨rfl, rfl⟩ := Prod.mk.inj (Option.some.inj h)
      simp only [List.contains_cons, List.contains_nil, Bool.or_false, Bool.or_eq_true, beq_iff_eq] at htag
      rcases htag with rfl | rfl
      · exact ⟨.long, rfl, rfl, rfl⟩
      · exact ⟨.double, rfl, rfl, rfl⟩
    split at h
    · rename_i htag
      obtain ⟨rfl, rfl⟩ := Prod.mk.inj (Option.some.inj h)
      simp only [List.contains_cons, List.contains_nil, Bool.or_false, Bool.or_eq_true, beq_iff_eq] at htag
      rcases htag with rfl | rfl | rfl | rfl
      · exact ⟨.string, rfl, rfl, rfl⟩
      · exact ⟨.methodType, rfl, rfl, rfl⟩
      · exact ⟨.moduleName, rfl, rfl, rfl⟩
      · exact ⟨.packageName, rfl, rfl, rfl⟩
    split at h
    · rename_i htag
      obtain ⟨rfl, rfl⟩ := Prod.mk.inj (Option.some.inj h)
      exact ⟨.methodHandle, htag.symm, rfl, rfl⟩
    · simp at h
  · rintro ⟨kind, rfl, rfl, rfl⟩
    cases kind <;> rfl

theorem tag_ne (kind : ValueKind) : kind.tag.toNat ≠ 1 ∧ kind.tag.toNat ≠ 7 := by
  cases kind <;> decide

theorem tag_eq_one {e : Entry} : e.tag.toNat = 1 ↔ ∃ bs fits, e = .name bs fits := by
  cases e with
  | name bs fits => exact ⟨fun _ => ⟨bs, fits, rfl⟩, fun _ => rfl⟩
  | classAt n => simp [Entry.tag]
  | value kind payload sized => simp [Entry.tag, (tag_ne kind).1]

theorem tag_eq_seven {e : Entry} : e.tag.toNat = 7 ↔ ∃ n, e = .classAt n := by
  cases e with
  | name bs fits => simp [Entry.tag]
  | classAt n => exact ⟨fun _ => ⟨n, rfl⟩, fun _ => rfl⟩
  | value kind payload sized => simp [Entry.tag, (tag_ne kind).2]

/-- every other tag is that of a value -/
theorem value_of_tag {e : Entry} {tag : Nat} (h : e.tag.toNat = tag) (hname : tag ≠ 1) (hclass : tag ≠ 7) :
    ∃ kind payload sized, e = .value kind payload sized ∧ kind.tag.toNat = tag := by
  cases e with
  | name bs fits => exact absurd h.symm hname
  | classAt n => exact absurd h.symm hclass
  | value kind payload sized => exact ⟨kind, payload, sized, rfl, h⟩

/-! ## Reading an entry -/

def readName : Step Constant :=
  (readNumber 2).bind fun length => (take length).bind fun bytes => Step.lift (.ok (.name (decodeLossy bytes)))

def readClassAt : Step Constant := (readNumber 2).bind fun target => Step.lift (.ok (.classAt target))

def readValue (number tag : Nat) : Step Constant :=
  match payload? tag with
  | some (length, wide) => (take length).bind fun _ => Step.lift (.ok (if wide then .wideValue else .value))
  | none => fun _ => .error (.unknownTag tag number)

/-- what the reader does after the tag -/
def readTagged (number tag : Nat) : Step Constant :=
  if tag = 1 then readName else if tag = 7 then readClassAt else readValue number tag

theorem readConstant_eq (number : Nat) : readConstant number = (readNumber 1).bind (readTagged number) := by
  funext c
  unfold readConstant Step.bind readTagged
  congr 1
  funext ⟨tag, d⟩
  dsimp only
  by_cases hname : tag = 1
  · rw [if_pos hname, if_pos hname]
    rfl
  by_cases hclass : tag = 7
  · rw [if_neg hname, if_neg hname, if_pos hclass, if_pos hclass]
    rfl
  rw [if_neg hname, if_neg hname, if_neg hclass, if_neg hclass, readValue]
  cases payload? tag <;> rfl

theorem reads_name : Reads readName fun k bs => ∃ e : Entry, e.tag.toNat = 1 ∧ e.content = bs ∧ e.constant = k := by
  refine (reads_bind reads_twoBytes fun length => reads_bind (reads_take length) fun bytes =>
    reads_lift _).congr fun k bs => ?_
  constructor
  · rintro ⟨_, _, _, ⟨n, rfl, rfl⟩, ⟨bytes, _, _, ⟨rfl, hlen⟩, ⟨hk, rfl⟩, rfl⟩, rfl⟩
    refine ⟨.name bytes (hlen ▸ n.toNat_lt), rfl, ?_, Except.ok.inj hk⟩
    rw [Entry.content, hlen, UInt16.ofNat_toNat, List.append_nil]
  · rintro ⟨e, htag, rfl, rfl⟩
    obtain ⟨bytes, hfits, rfl⟩ := tag_eq_one.1 htag
    refine ⟨_, _, bytes, ⟨UInt16.ofNat bytes.length, rfl, rfl⟩, ⟨bytes, bytes, [], ⟨rfl, ?_⟩, ⟨rfl, rfl⟩, ?_⟩, rfl⟩
    · rw [UInt16.toNat_ofNat_of_lt' hfits]
    · rw [List.append_nil]

theorem reads_classAt :
    Reads readClassAt fun k bs => ∃ e : Entry, e.tag.toNat = 7 ∧ e.content = bs ∧ e.constant = k := by
  refine (reads_bind reads_twoBytes fun target => reads_lift _).congr fun k bs => ?_
  constructor
  · rintro ⟨_, _, _, ⟨n, rfl, rfl⟩, ⟨hk, rfl⟩, rfl⟩
    exact ⟨.classAt n, rfl, (List.append_nil _).symm, Except.ok.inj hk⟩
  · rintro ⟨e, htag, rfl, rfl⟩
    obtain ⟨n, rfl⟩ := tag_eq_seven.1 htag
    exact ⟨_, _, [], ⟨n, rfl, rfl⟩, ⟨rfl, rfl⟩, (List.append_nil _).symm⟩

theorem reads_payload (length : Nat) (k : Constant) :
    Reads ((take length).bind fun _ => Step.lift (.ok k)) fun k' bs => k' = k ∧ bs.length = length := by
  refine (reads_bind (reads_take length) fun _ => reads_lift _).congr fun k' bs => ?_
  constructor
  · rintro ⟨_, _, _, ⟨rfl, hlen⟩, ⟨hk, rfl⟩, rfl⟩
    exact ⟨(Except.ok.inj hk).symm, by rw [List.append_nil, hlen]⟩
  · rintro ⟨rfl, hlen⟩
    exact ⟨bs, bs, [], ⟨rfl, hlen⟩, ⟨rfl, rfl⟩, (List.append_nil _).symm⟩

theorem reads_value (number : Nat) {tag : Nat} (hname : tag ≠ 1) (hclass : tag ≠ 7) :
    Reads (readValue number tag) fun k bs => ∃ e : Entry, e.tag.toNat = tag ∧ e.content = bs ∧ e.constant = k := by
  unfold readValue
  cases hp : payload? tag with
  | none =>
    intro c k c'
    refine ⟨fun h => by simp at h, ?_⟩
    rintro ⟨bs, ⟨e, htag, -, -⟩, -⟩
    obtain ⟨kind, payload, sized, -, hkind⟩ := value_of_tag htag hname hclass
    have hsome := (payload_eq_some_iff tag _ _).2 ⟨kind, hkind, rfl, rfl⟩
    simp [hp] at hsome
  | some p =>
    obtain ⟨length, wide⟩ := p
    obtain ⟨kind, hkind, hsize, hwide⟩ := (payload_eq_some_iff tag length wide).1 hp
    refine (reads_payload length _).congr fun k bs => ?_
    constructor
    · rintro ⟨rfl, hlen⟩
      refine ⟨.value kind bs (hlen.trans hsize.symm), hkind, rfl, ?_⟩
      simp only [Entry.constant, ← hwide, decide_eq_true_eq]
    · rintro ⟨e, htag, rfl, rfl⟩
      obtain ⟨kind', payload, sized, rfl, hkind'⟩ := value_of_tag htag hname hclass
      have hsame := (payload_eq_some_iff tag _ _).2 ⟨kind', hkind', rfl, rfl⟩
      rw [hp] at hsame
      obtain ⟨rfl, rfl⟩ := Prod.mk.inj (Option.some.inj hsame)
      exact ⟨by simp only [Entry.constant, decide_eq_true_eq], sized⟩

/-- After a tag, the reader takes what an entry with this tag holds. -/
theorem reads_tagged (number tag : Nat) : Reads (readTagged number tag) fun k bs =>
    ∃ e : Entry, e.tag.toNat = tag ∧ e.content = bs ∧ e.constant = k := by
  unfold readTagged
  by_cases hname : tag = 1
  · rw [if_pos hname, hname]
    exact reads_name
  by_cases hclass : tag = 7
  · rw [if_neg hname, if_pos hclass, hclass]
    exact reads_classAt
  · rw [if_neg hname, if_neg hclass]
    exact reads_value number hname hclass

/-- **An entry is read exactly from its bytes.** -/
theorem reads_constant (number : Nat) :
    Reads (readConstant number) fun k bs => ∃ e : Entry, e.bytes = bs ∧ e.constant = k := by
  rw [readConstant_eq]
  refine (reads_bind reads_byte fun tag => reads_tagged number tag).congr fun k bs => ?_
  constructor
  · rintro ⟨_, _, _, ⟨b, rfl, rfl⟩, ⟨e, htag, rfl, rfl⟩, rfl⟩
    refine ⟨e, ?_, rfl⟩
    rw [Entry.bytes, UInt8.toNat_inj.1 htag]
    rfl
  · rintro ⟨e, rfl, rfl⟩
    exact ⟨_, [e.tag], e.content, ⟨e.tag, rfl, rfl⟩, ⟨e, rfl, rfl, rfl⟩, rfl⟩

end CodeSurvey.ClassFile
