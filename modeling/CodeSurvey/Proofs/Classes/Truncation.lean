/-
Class files cut short, or with more behind the header.

A reader is `Sequential` when all that counts for it is the bytes it takes, and when it stops for want of bytes as soon
as some of them are missing: it never decides earlier, whatever it looks up between two reads. `sequential_bind` is the
one step: bytes cut short end within what the first reader takes, or the first reader takes all it needs and they end
within what the second one takes. So every reader of the header is sequential because its parts are, with an induction
where it repeats. Main statement: `decode_consumed`.
-/
import CodeSurvey.Proofs.Classes.Decoding

namespace CodeSurvey.ClassFile

open Text

variable {α β : Type}

/-! ## Readers that take bytes in turn -/

/-- **Only the bytes that a reader takes count for it**: before other bytes that start with them it does the same. -/
theorem Reads.over {p : Step α} {G : α → Bytes → Prop} (h : Reads p G) {c c' : ByteCursor} {x : α}
    (hx : p c = .ok (x, c')) {bs : Bytes} (hbs : c.rest.take (c'.position - c.position) <+: bs) :
    p ⟨c.position, bs⟩ = .ok (x, ⟨c'.position, bs.drop (c'.position - c.position)⟩) := by
  obtain ⟨taken, hG, hrest, hposition⟩ := (h c x c').1 hx
  have hlength : c'.position - c.position = taken.length := by omega
  rw [hlength, hrest, List.take_left] at hbs
  obtain ⟨back, rfl⟩ := hbs
  rw [hlength, List.drop_left]
  exact (h _ _ _).2 ⟨taken, hG, rfl, hposition⟩

theorem Reads.consumed {p : Step α} {G : α → Bytes → Prop} (h : Reads p G) {c c' : ByteCursor} {x : α}
    (hx : p c = .ok (x, c')) : ∃ n ≤ c.rest.length, c' = ⟨c.position + n, c.rest.drop n⟩ := by
  obtain ⟨taken, -, hrest, hposition⟩ := (h c x c').1 hx
  refine ⟨taken.length, by rw [hrest, List.length_append]; exact Nat.le_add_right _ _, ?_⟩
  rw [hrest, List.drop_left, ← hposition]

/-- only the bytes that the reader takes count for it, and it wants every one of them -/
structure Sequential (p : Step α) : Prop where
  reads : ∃ G, Reads p G
  /-- of fewer bytes than it takes the reader says that they end too early -/
  wants : ∀ {c c' : ByteCursor} {x : α}, p c = .ok (x, c') → ∀ m < c'.position - c.position,
    ∃ k ≤ c.position + m, p ⟨c.position, c.rest.take m⟩ = .error (.truncated k)

theorem sequential_lift (x : Except Fault α) : Sequential (Step.lift x) where
  reads := ⟨_, reads_lift x⟩
  wants := by
    intro c c' y hy m hm
    obtain ⟨_, ⟨-, rfl⟩, -, hposition⟩ := (reads_lift x c y c').1 hy
    rw [List.length_nil] at hposition
    omega

theorem sequential_take (n : Nat) : Sequential (take n) where
  reads := ⟨_, reads_take n⟩
  wants := by
    intro c c' y hy m hm
    obtain ⟨taken, ⟨-, hlength⟩, -, hposition⟩ := (reads_take n c y c').1 hy
    have hshort : ((c.rest.take m).take n).length ≠ n := by
      rw [List.length_take, List.length_take]
      omega
    exact ⟨c.position, Nat.le_add_right _ _, if_neg hshort⟩

/-- **Sequencing**: bytes cut short end within what the first reader takes, or within what the second one takes. -/
theorem sequential_bind {p : Step α} {q : α → Step β} (hp : Sequential p) (hq : ∀ x, Sequential (q x)) :
    Sequential (p.bind q) := by
  obtain ⟨G, hG⟩ := hp.reads
  choose H hH using fun x => (hq x).reads
  refine ⟨⟨_, reads_bind hG hH⟩, fun {c c' y} hy m hm => ?_⟩
  obtain ⟨⟨x, d⟩, hx, hy⟩ := bind_ok_iff.1 hy
  obtain ⟨first, hfirst, hd⟩ := hG.consumed hx
  subst hd
  by_cases hcut : m < first
  · obtain ⟨k, hk, hstop⟩ := hp.wants hx m (by dsimp only; omega)
    refine ⟨k, hk, ?_⟩
    rw [Step.bind, hstop]
    rfl
  · -- the first reader does what it did, and the second one finds the bytes cut short
    have hwhole : c.rest.take (c.position + first - c.position) <+: c.rest.take m := by
      rw [Nat.add_sub_cancel_left]
      exact List.take_prefix_take_left (Nat.le_of_not_lt hcut)
    have hsame := hG.over hx hwhole
    obtain ⟨k, hk, hstop⟩ := (hq x).wants hy (m - first) (by dsimp only; omega)
    refine ⟨k, by dsimp only at hk; omega, ?_⟩
    have hrest : (c.rest.take m).drop (c.position + first - c.position) = (c.rest.drop first).take (m - first) := by
      rw [Nat.add_sub_cancel_left, List.drop_take]
    rw [Step.bind, hsame, hrest]
    exact hstop

/-! ## The readers of the header -/

theorem sequential_number (n : Nat) : Sequential (readNumber n) := by
  rw [readNumber_eq]
  exact sequential_bind (sequential_take n) fun _ => sequential_lift _

theorem sequential_value (number tag : Nat) : Sequential (readValue number tag) := by
  unfold readValue
  cases payload? tag with
  | none => exact sequential_lift (.error (.unknownTag tag number))
  | some p => exact sequential_bind (sequential_take p.1) fun _ => sequential_lift _

theorem sequential_constant (number : Nat) : Sequential (readConstant number) := by
  rw [readConstant_eq]
  refine sequential_bind (sequential_number 1) fun tag => ?_
  unfold readTagged
  split
  · exact sequential_bind (sequential_number 2) fun length =>
      sequential_bind (sequential_take length) fun _ => sequential_lift _
  split
  · exact sequential_bind (sequential_number 2) fun _ => sequential_lift _
  · exact sequential_value number tag

theorem sequential_constants (n number : Nat) (second : Bool) : Sequential (readConstants number second n) := by
  induction n generalizing number second with
  | zero => exact sequential_lift (.ok [])
  | succ n ih =>
    cases second with
    | true =>
      rw [readConstants_second]
      exact sequential_bind (ih _ _) fun _ => sequential_lift _
    | false =>
      rw [readConstants_next]
      exact sequential_bind (sequential_constant number) fun _ =>
        sequential_bind (ih _ _) fun _ => sequential_lift _

theorem sequential_pool : Sequential readPool := by
  rw [readPool_eq]
  exact sequential_bind (sequential_number 2) fun count =>
    sequential_bind (sequential_constants (count - 1) 1 false) fun _ => sequential_lift _

theorem sequential_classRef (pool : List Constant) : Sequential (readClassRef pool) :=
  sequential_bind (sequential_number 2) fun _ => sequential_lift _

theorem sequential_classNames (pool : List Constant) (n : Nat) : Sequential (readClassNames pool n) := by
  induction n with
  | zero => exact sequential_lift (.ok [])
  | succ n ih =>
    rw [readClassNames_succ]
    exact sequential_bind (sequential_classRef pool) fun _ => sequential_bind ih fun _ => sequential_lift _

theorem sequential_below (pool : List Constant) : Sequential (readBelow pool) := by
  have hsuper : Sequential (readSuperRef pool) := sequential_bind (sequential_number 2) fun _ => sequential_lift _
  have hinterfaces : Sequential (readInterfaces pool) :=
    sequential_bind (sequential_number 2) (sequential_classNames pool)
  exact sequential_bind (sequential_number 2) fun _ => sequential_bind (sequential_classRef pool) fun _ =>
    sequential_bind hsuper fun _ => sequential_bind hinterfaces fun _ => sequential_lift _

theorem sequential_header : Sequential readHeader := by
  have hmagic : Sequential readMagic := sequential_bind (sequential_number 4) fun _ => sequential_lift _
  rw [readHeader_eq]
  exact sequential_bind hmagic fun _ => sequential_bind (sequential_take 4) fun _ =>
    sequential_bind sequential_pool sequential_below

/-! ## Decoding -/

theorem decode_of_readHeader {bs : Bytes} {h : ClassHeader} {c : ByteCursor} (hread : readHeader ⟨0, bs⟩ = .ok (h, c)) :
    decode bs = .ok h := by
  rw [decode, hread]
  rfl

theorem exists_readHeader {bs : Bytes} {h : ClassHeader} (hok : decode bs = .ok h) :
    ∃ c, readHeader ⟨0, bs⟩ = .ok (h, c) := by
  unfold decode at hok
  cases hread : readHeader ⟨0, bs⟩ with
  | error fault =>
    rw [hread] at hok
    exact nomatch hok
  | ok r =>
    rw [hread] at hok
    obtain rfl : r.1 = h := Except.ok.inj hok
    exact ⟨r.2, rfl⟩

/-- **The bytes up to the interfaces decide**: of a class file that is decoded, those that were read give the same
header whatever stands behind them, and fewer of them are refused as cut short, at a byte within them. -/
theorem decode_consumed {bs : Bytes} {h : ClassHeader} (hok : decode bs = .ok h) :
    ∃ n ≤ bs.length, readHeader ⟨0, bs⟩ = .ok (h, ⟨n, bs.drop n⟩) ∧
      (∀ bs', bs.take n <+: bs' → decode bs' = .ok h) ∧
      ∀ m < n, ∃ k ≤ m, decode (bs.take m) = .error (.truncated k) := by
  obtain ⟨c, hread⟩ := exists_readHeader hok
  obtain ⟨n, hn, rfl⟩ := reads_header.consumed hread
  rw [Nat.zero_add] at hread
  refine ⟨n, hn, hread, fun bs' hbs' => ?_, fun m hm => ?_⟩
  · exact decode_of_readHeader (reads_header.over hread hbs')
  · obtain ⟨k, hk, hstop⟩ := sequential_header.wants hread m hm
    refine ⟨k, by simpa using hk, ?_⟩
    rw [decode, hstop]
    rfl

/-- an interface that extends another, with bytes of its methods behind the header -/
def portFile : Bytes :=
  [0xCA, 0xFE, 0xBA, 0xBE, 0, 0, 0, 52, 0, 9, 7, 0, 2, 1, 0, 1, 65, 5, 0, 0, 0, 0, 0, 0, 0, 42, 7, 0, 6, 1, 0, 1, 66,
    7, 0, 8, 1, 0, 1, 67, 6, 1, 0, 1, 0, 5, 0, 1, 0, 7, 0, 0, 0, 1]

theorem decode_portFile :
    decode portFile = .ok ⟨0x601, "A", some "B", ["C"]⟩ ∧
      ∃ n ≤ portFile.length, readHeader ⟨0, portFile⟩ = .ok (⟨0x601, "A", some "B", ["C"]⟩, ⟨n, portFile.drop n⟩) ∧
        (∀ bs', portFile.take n <+: bs' → decode bs' = .ok ⟨0x601, "A", some "B", ["C"]⟩) ∧
        ∀ m < n, ∃ k ≤ m, decode (portFile.take m) = .error (.truncated k) := by
  have hok : decode portFile = .ok ⟨0x601, "A", some "B", ["C"]⟩ := by decide +kernel
  exact ⟨hok, decode_consumed hok⟩

/-- within the name of the superclass, and between two numbers of classes -/
example : decode (portFile.take 32) = .error (.truncated 32) ∧ decode (portFile.take 45) = .error (.truncated 44) := by
  decide +kernel

end CodeSurvey.ClassFile
