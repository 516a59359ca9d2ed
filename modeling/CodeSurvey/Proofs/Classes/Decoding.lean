/-
Class files are decoded exactly where they are well formed.

`decode_eq_ok_iff`: bytes are decoded to a header exactly when they are the rendering of a layout that stands for it;
and a layout whose names are in UTF-8 is decoded to the header it stands for, whatever the order of its pool. Each
reader of the header has a lemma of its own (`reads_classRef`, `reads_superRef`, `reads_interfaces`), and `reads_header`
puts them together.
-/
import CodeSurvey.Proofs.Classes.Pool

namespace CodeSurvey.ClassFile

open Text

/-! ## References to classes -/

/-- what a number refers to is read with the two bytes of the number -/
theorem reads_reference {α : Type} (refersTo : Nat → Except Fault α) :
    Reads ((readNumber 2).bind fun number => Step.lift (refersTo number)) fun a bs =>
      ∃ number : UInt16, refersTo number.toNat = .ok a ∧ bs = twoBytes number := by
  refine (reads_bind reads_twoBytes fun number => reads_lift _).congr fun a bs => ?_
  constructor
  · rintro ⟨_, _, _, ⟨number, rfl, rfl⟩, ⟨ha, rfl⟩, rfl⟩
    exact ⟨number, ha, List.append_nil _⟩
  · rintro ⟨number, ha, rfl⟩
    exact ⟨_, _, [], ⟨number, rfl, rfl⟩, ⟨ha, rfl⟩, (List.append_nil _).symm⟩

/-- a number and the name of the class it is that of -/
def readClassRef (p : List Constant) : Step String := (readNumber 2).bind fun number => Step.lift (className p number)

theorem reads_classRef (p : List Constant) : Reads (readClassRef p) fun s bs =>
    ∃ number : UInt16, className p number.toNat = .ok s ∧ bs = twoBytes number :=
  reads_reference (className p)

/-- the superclass with the number -/
def superclassAt (p : List Constant) (above : Nat) : Except Fault (Option String) :=
  if above = 0 then .ok none else (className p above).map some

theorem superclassAt_eq_ok {p : List Constant} {above : Nat} {superclass : Option String} :
    superclassAt p above = .ok superclass ↔ match superclass with
      | none => above = 0
      | some s => above ≠ 0 ∧ className p above = .ok s := by
  unfold superclassAt
  by_cases habove : above = 0
  · cases superclass <;> simp [habove]
  · cases className p above <;> cases superclass <;> simp [habove, Except.map]
def readSuperRef (p : List Constant) : Step (Option String) :=
  (readNumber 2).bind fun above => Step.lift (superclassAt p above)

theorem reads_superRef (p : List Constant) : Reads (readSuperRef p) fun superclass bs =>
    ∃ above : UInt16, superclassAt p above.toNat = .ok superclass ∧ bs = twoBytes above :=
  reads_reference (superclassAt p)

theorem readClassNames_succ (p : List Constant) (n : Nat) : readClassNames p (n + 1) =
    (readClassRef p).bind fun name => (readClassNames p n).bind fun names => Step.lift (.ok (name :: names)) := by
  funext c
  unfold readClassRef
  simp only [Step.bind_assoc, lift_bind]
  rfl

theorem reads_classNames (p : List Constant) (n : Nat) : Reads (readClassNames p n) fun names bs =>
    ∃ numbers : List UInt16, numbers.length = n ∧ bs = numbers.flatMap twoBytes ∧
      List.Forall₂ (fun number s => className p number.toNat = .ok s) numbers names := by
  induction n with
  | zero =>
    have hzero : readClassNames p 0 = Step.lift (.ok []) := rfl
    rw [hzero]
    refine (reads_lift _).congr fun names bs => ?_
    constructor
    · rintro ⟨hnames, rfl⟩
      exact ⟨[], rfl, rfl, Except.ok.inj hnames ▸ .nil⟩
    · rintro ⟨numbers, hlen, rfl, hnames⟩
      obtain rfl := List.eq_nil_of_length_eq_zero hlen
      cases hnames
      exact ⟨rfl, rfl⟩
  | succ n ih =>
    rw [readClassNames_succ]
    refine (reads_bind (reads_classRef p) fun name => reads_bind ih fun names => reads_lift _).congr fun names bs => ?_
    constructor
    · rintro ⟨name, _, _, ⟨number, hname, rfl⟩, ⟨_, _, _, ⟨numbers, hlen, rfl, hnames⟩, ⟨hall, rfl⟩, rfl⟩, rfl⟩
      obtain rfl := Except.ok.inj hall
      refine ⟨number :: numbers, congrArg (· + 1) hlen, ?_, .cons hname hnames⟩
      rw [List.append_nil, List.flatMap_cons]
    · rintro ⟨numbers, hlen, rfl, hnames⟩
      cases hnames with
      | nil => simp at hlen
      | cons hname hnames =>
        rename_i number name numbers names
        refine ⟨name, _, _, ⟨number, hname, rfl⟩, ⟨names, _, [], ⟨numbers, Nat.succ.inj hlen, rfl, hnames⟩,
          ⟨rfl, rfl⟩, rfl⟩, ?_⟩
        rw [List.append_nil, List.flatMap_cons]

def readInterfaces (p : List Constant) : Step (List String) := (readNumber 2).bind (readClassNames p)

theorem reads_interfaces (p : List Constant) : Reads (readInterfaces p) fun names bs =>
    ∃ numbers : List UInt16, numbers.length < 65536 ∧
      List.Forall₂ (fun number s => className p number.toNat = .ok s) numbers names ∧
      bs = twoBytes (UInt16.ofNat numbers.length) ++ numbers.flatMap twoBytes := by
  refine (reads_bind reads_twoBytes fun count => reads_classNames p count).congr fun names bs => ?_
  constructor
  · rintro ⟨_, _, _, ⟨count, rfl, rfl⟩, ⟨numbers, hlen, rfl, hnames⟩, rfl⟩
    refine ⟨numbers, hlen ▸ count.toNat_lt, hnames, ?_⟩
    rw [hlen, UInt16.ofNat_toNat]
  · rintro ⟨numbers, hfit, hnames, rfl⟩
    have hcount : numbers.length = (UInt16.ofNat numbers.length).toNat := (UInt16.toNat_ofNat_of_lt' hfit).symm
    exact ⟨_, _, _, ⟨_, rfl, rfl⟩, ⟨numbers, hcount, rfl, hnames⟩, rfl⟩

/-! ## The header -/

theorem readPool_eq : readPool = (readNumber 2).bind fun count => (readConstants 1 false (count - 1)).bind fun ks =>
    Step.lift (.ok (.unusable :: ks)) := rfl

theorem reads_pool : Reads readPool fun p bs => ∃ (count : UInt16) (es : List Entry), Fills (count.toNat - 1) es ∧
    bs = twoBytes count ++ es.flatMap Entry.bytes ∧ p = pool (count.toNat - 1) es := by
  rw [readPool_eq]
  refine (reads_bind reads_twoBytes fun count => reads_bind (reads_constants (count - 1) 1 false) fun ks =>
    reads_lift _).congr fun p bs => ?_
  constructor
  · rintro ⟨_, _, _, ⟨count, rfl, rfl⟩, ⟨_, _, _, ⟨es, hfills, rfl, rfl⟩, ⟨hp, rfl⟩, rfl⟩, rfl⟩
    exact ⟨count, es, hfills, by rw [List.append_nil], (Except.ok.inj hp).symm⟩
  · rintro ⟨count, es, hfills, rfl, rfl⟩
    exact ⟨_, _, _, ⟨count, rfl, rfl⟩, ⟨_, _, [], ⟨es, hfills, rfl, rfl⟩, ⟨rfl, rfl⟩, (List.append_nil _).symm⟩, rfl⟩
/-- what stands behind the pool -/
def readBelow (p : List Constant) : Step ClassHeader :=
  (readNumber 2).bind fun flags => (readClassRef p).bind fun name => (readSuperRef p).bind fun superclass =>
    (readInterfaces p).bind fun interfaces => Step.lift (.ok ⟨UInt16.ofNat flags, name, superclass, interfaces⟩)

def readMagic : Step Unit := (readNumber 4).bind fun magic =>
  Step.lift (if magic = magicNumber then .ok () else .error (.badMagic magic))
theorem readHeader_eq :
    readHeader = readMagic.bind fun _ => (take 4).bind fun _ => readPool.bind readBelow := by
  funext c
  unfold readHeader readMagic readBelow readClassRef readSuperRef readInterfaces
  simp only [Step.bind_assoc, lift_bind]
  simp only [Step.bind]
  congr 1
  funext ⟨magic, d⟩
  by_cases hmagic : magic = magicNumber
  · rw [if_pos hmagic, if_neg (not_not.2 hmagic)]
    refine bind_congr fun _ => bind_congr fun _ => bind_congr fun _ => bind_congr fun _ => bind_congr fun _ =>
      bind_congr fun _ => ?_
    unfold superclassAt
    split <;> rfl
  · rw [if_neg hmagic, if_pos hmagic]
    exact Eq.trans (b := .error (.badMagic magic)) rfl rfl

theorem bigEndian_eq_magicNumber {bs : Bytes} (h : bs.length = 4) :
    bigEndian bs = magicNumber ↔ bs = [0xCA, 0xFE, 0xBA, 0xBE] := by
  match bs, h with
  | [a, b, c, d], _ =>
    constructor
    · intro hmagic
      have ha := a.toNat_lt
      have hb := b.toNat_lt
      have hc := c.toNat_lt
      have hd := d.toNat_lt
      simp only [bigEndian, List.foldl_cons, List.foldl_nil, magicNumber] at hmagic
      have : a = 0xCA ∧ b = 0xFE ∧ c = 0xBA ∧ d = 0xBE := by
        simp only [← UInt8.toNat_inj, UInt8.reduceToNat]
        omega
      obtain ⟨rfl, rfl, rfl, rfl⟩ := this
      rfl
    · intro hbs
      rw [hbs]
      rfl

theorem reads_magic : Reads readMagic fun _ bs => bs = [0xCA, 0xFE, 0xBA, 0xBE] := by
  refine (reads_bind (reads_number 4) fun magic => reads_lift _).congr fun _ bs => ?_
  constructor
  · rintro ⟨_, first, _, ⟨hlen, rfl⟩, ⟨hmagic, rfl⟩, rfl⟩
    rw [List.append_nil]
    refine (bigEndian_eq_magicNumber hlen).1 (not_not.1 fun h => ?_)
    rw [if_neg h] at hmagic
    exact nomatch hmagic
  · rintro rfl
    exact ⟨_, [0xCA, 0xFE, 0xBA, 0xBE], [], ⟨rfl, rfl⟩, ⟨if_pos ((bigEndian_eq_magicNumber rfl).2 rfl), rfl⟩, rfl⟩

/-- the bytes behind the pool, and the header that they and the pool stand for -/
structure Below (p : List Constant) (h : ClassHeader) (flags this above : UInt16) (interfaces : List UInt16) :
    Prop where
  flags : h.flags = flags
  name : className p this.toNat = .ok h.name
  superclass : superclassAt p above.toNat = .ok h.superclass
  interfaces : List.Forall₂ (fun number s => className p number.toNat = .ok s) interfaces h.interfaces
theorem reads_below (p : List Constant) : Reads (readBelow p) fun h bs =>
    ∃ (flags this above : UInt16) (interfaces : List UInt16), Below p h flags this above interfaces ∧
      interfaces.length < 65536 ∧
      bs = twoBytes flags ++ (twoBytes this ++ (twoBytes above ++
        (twoBytes (UInt16.ofNat interfaces.length) ++ interfaces.flatMap twoBytes))) := by
  refine (reads_bind reads_twoBytes fun flags => reads_bind (reads_classRef p) fun name =>
    reads_bind (reads_superRef p) fun superclass => reads_bind (reads_interfaces p) fun interfaces =>
      reads_lift _).congr fun h bs => ?_
  constructor
  · rintro ⟨_, _, _, ⟨flags, rfl, rfl⟩, ⟨name, _, _, ⟨this, hname, rfl⟩, ⟨superclass, _, _, ⟨above, hsuper, rfl⟩,
      ⟨names, _, _, ⟨interfaces, hfit, hnames, rfl⟩, ⟨hh, rfl⟩, rfl⟩, rfl⟩, rfl⟩, rfl⟩
    obtain rfl := Except.ok.inj hh
    refine ⟨flags, this, above, interfaces, ⟨UInt16.ofNat_toNat, hname, hsuper, hnames⟩, hfit, ?_⟩
    rw [List.append_nil]
  · rintro ⟨flags, this, above, interfaces, hbelow, hfit, rfl⟩
    refine ⟨_, _, _, ⟨flags, rfl, rfl⟩, ⟨h.name, _, _, ⟨this, hbelow.name, rfl⟩, ⟨h.superclass, _, _,
      ⟨above, hbelow.superclass, rfl⟩, ⟨h.interfaces, _, [], ⟨interfaces, hfit, hbelow.interfaces, rfl⟩, ⟨?_, rfl⟩,
        rfl⟩, rfl⟩, rfl⟩, ?_⟩
    · rw [UInt16.ofNat_toNat, ← hbelow.flags]
    · rw [List.append_nil]

theorem superclassAt_pool {n : Nat} {es : List Entry} (hfills : Fills n es) (above : UInt16)
    (superclass : Option String) : superclassAt (pool n es) above.toNat = .ok superclass ↔ match superclass with
      | none => above = 0
      | some s => above ≠ 0 ∧ Leads es Decoded above s := by
  have hzero : above.toNat = 0 ↔ above = 0 := by rw [← UInt16.toNat_inj]; rfl
  rw [superclassAt_eq_ok]
  cases superclass with
  | none => exact hzero
  | some s => exact and_congr (not_congr hzero) (className_pool hfills above s)

/-- what the reader finds behind the pool is what the layout stands for -/
theorem below_iff_names (l : Layout) (h : ClassHeader) :
    Below (pool (l.count.toNat - 1) l.entries) h l.flags l.this l.above l.interfaces ↔ l.Names Decoded h := by
  have hname := className_pool l.fills
  have hsuper := superclassAt_pool l.fills l.above h.superclass
  constructor
  · intro hbelow
    refine ⟨hbelow.flags, (hname _ _).1 hbelow.name, hsuper.1 hbelow.superclass, ?_⟩
    exact hbelow.interfaces.imp fun number s => (hname number s).1
  · intro hnames
    refine ⟨hnames.flags, (hname _ _).2 hnames.name, hsuper.2 hnames.superclass, ?_⟩
    exact hnames.interfaces.imp fun number s => (hname number s).2

/-- A header is read exactly from the heads of the layouts that stand for it. -/
theorem reads_header : Reads readHeader fun h bs => ∃ l : Layout, l.head = bs ∧ l.Names Decoded h := by
  rw [readHeader_eq]
  refine (reads_bind reads_magic fun _ => reads_bind (reads_take 4) fun _ =>
    reads_bind reads_pool reads_below).congr fun h bs => ?_
  constructor
  · rintro ⟨_, _, _, rfl, ⟨version, _, _, ⟨rfl, hversion⟩, ⟨_, _, _, ⟨count, es, hfills, rfl, rfl⟩,
      ⟨flags, this, above, interfaces, hbelow, hfit, rfl⟩, rfl⟩, rfl⟩, rfl⟩
    let l : Layout := ⟨version, count, es, flags, this, above, interfaces, [], hversion, hfills, hfit⟩
    exact ⟨l, rfl, (below_iff_names l h).1 hbelow⟩
  · rintro ⟨l, rfl, hnames⟩
    exact ⟨(), _, _, rfl, ⟨l.version, _, _, ⟨rfl, l.version_length⟩, ⟨_, _, _, ⟨l.count, l.entries, l.fills, rfl, rfl⟩,
      ⟨l.flags, l.this, l.above, l.interfaces, (below_iff_names l h).2 hnames, l.interfaces_fit, rfl⟩, rfl⟩, rfl⟩, rfl⟩

/-- how a writer puts a text into the bytes of a name -/
def Encoded (bs : Bytes) (s : String) : Prop := bs = encode s

theorem Leads.decoded {es : List Entry} {number : UInt16} {s : String} (h : Leads es Encoded number s) :
    Leads es Decoded number s := by
  obtain ⟨target, bs, fits, hnumber, htarget, rfl⟩ := h
  exact ⟨target, _, fits, hnumber, htarget, decodeLossy_encode s⟩

theorem Layout.Names.decoded {l : Layout} {h : ClassHeader} (hnames : l.Names Encoded h) : l.Names Decoded h := by
  refine ⟨hnames.flags, hnames.name.decoded, ?_, hnames.interfaces.imp fun number s => Leads.decoded⟩
  have hsuper := hnames.superclass
  cases hs : h.superclass with
  | none => simpa only [hs] using hsuper
  | some s =>
    simp only [hs] at hsuper
    exact ⟨hsuper.1, hsuper.2.decoded⟩

theorem decode_eq_ok {bs : Bytes} {h : ClassHeader} :
    decode bs = .ok h ↔ ∃ l : Layout, l.render = bs ∧ l.Names Decoded h := by
  have hread : decode bs = .ok h ↔ ∃ c', readHeader ⟨0, bs⟩ = .ok (h, c') := by
    unfold decode
    cases hr : readHeader ⟨0, bs⟩ with
    | error fault => simp [Except.map]
    | ok r =>
      obtain ⟨h', c'⟩ := r
      simp [Except.map]
  rw [hread]
  constructor
  · rintro ⟨c', hc'⟩
    obtain ⟨_, ⟨l, rfl, hnames⟩, hbs, -⟩ := (reads_header _ _ _).1 hc'
    let l' : Layout := { l with rest := c'.rest }
    exact ⟨l', hbs.symm, ⟨hnames.flags, hnames.name, hnames.superclass, hnames.interfaces⟩⟩
  · rintro ⟨l, rfl, hnames⟩
    exact ⟨⟨l.head.length, l.rest⟩, (reads_header _ _ _).2 ⟨_, ⟨l, rfl, hnames⟩, rfl, (Nat.zero_add _).symm⟩⟩

/-- **Bytes are decoded exactly where they write a layout, to the header it stands for.** With names in UTF-8, every
layout gives its header, wherever its names stand in the pool. -/
theorem decode_eq_ok_iff :
    (∀ bs h, decode bs = .ok h ↔ ∃ l : Layout, l.render = bs ∧ l.Names Decoded h) ∧
      ∀ (l : Layout) (h : ClassHeader), l.Names Encoded h → decode l.render = .ok h := by
  refine ⟨fun bs h => decode_eq_ok, fun l h hnames => ?_⟩
  exact decode_eq_ok.2 ⟨l, rfl, hnames.decoded⟩

/-- a long before the names, the class's name behind its class and the superclass's name before its own -/
def acrossWide : Layout where
  version := [0, 0, 0, 52]
  count := 7
  entries := [.value .long [0, 0, 0, 0, 0, 0, 0, 1] rfl, .classAt 4, .name (encode "p/A") (by decide +kernel),
    .name (encode "p/B") (by decide +kernel), .classAt 5]
  flags := 0x21
  this := 3
  above := 6
  interfaces := [6]
  rest := [0]
  version_length := rfl
  fills := ⟨by decide, by
    rintro before e after hsplit
    have hused : used before + e.width + used after = 6 := by
      rw [Nat.add_assoc, ← used_cons, ← used_append, ← hsplit]
      rfl
    have hwidth := e.width_pos
    show used before < 6
    omega⟩
  interfaces_fit := by decide

theorem decode_acrossWide : decode acrossWide.render = .ok ⟨0x21, "p/A", some "p/B", ["p/B"]⟩ := by
  have hA : Leads acrossWide.entries Encoded 3 "p/A" :=
    ⟨4, _, _, ⟨[_], _, rfl, rfl⟩, ⟨[_, _], _, rfl, rfl⟩, rfl⟩
  have hB : Leads acrossWide.entries Encoded 6 "p/B" :=
    ⟨5, _, _, ⟨[_, _, _, _], _, rfl, rfl⟩, ⟨[_, _, _], _, rfl, rfl⟩, rfl⟩
  exact decode_eq_ok_iff.2 acrossWide _ ⟨rfl, hA, ⟨by decide, hB⟩, .cons hB .nil⟩

end CodeSurvey.ClassFile
