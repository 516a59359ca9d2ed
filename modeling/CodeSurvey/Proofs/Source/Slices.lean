/-
Slices that the scan for declarations takes of a text.

The scan finds places in the masked bytes and cuts the text there. `scanMethods` is the scan with each cut made where
the scan needs it: it writes down the spans that it cuts out, also those of candidates that declare nothing in the end,
and has no result once a span cannot be cut out (`slice`).

`slices_cut`: for every text it has a result, which is the methods, and each span that it wrote down can be cut out.
`Yields` says so of a part of the scan and is kept by sequencing, so a proof follows the program. A name or a word ends
where only one of the bytes around is a byte of identifiers (`cuts_word`), and all other ends are beside a delimiter.
-/
import CodeSurvey.Proofs.Source.Boundaries

namespace CodeSurvey.Source

open Text

/-! ## The scan with its slices -/

/-- a scan of a text: it writes down the spans that it cuts out, and may fail to go on -/
abbrev Slicing (α : Type) := StateT (List Span) Option α

/-- the text of a span; none that cannot be cut out -/
def slice (bs : Bytes) (s : Span) : Slicing String := fun taken =>
  if s.Cuts bs then some (spanText bs s, taken ++ [s]) else none

/-- the word that the bytes, last first, end with -/
def sliceWord (bs before : Bytes) : Slicing (Option String) := do
  let start := (before.dropWhile isIdentByte).length
  if start < before.length then
    let word ← slice bs ⟨start, before.length⟩
    return some word
  else return none

/-- what stands before a method's name, last first, is a type and not the word that creates an object -/
def sliceType (bs beforeName : Bytes) : Slicing Bool := do
  let before := beforeName.dropWhile isBlankByte
  if before.head?.any endsType then
    let word ← sliceWord bs before
    return word != some "new"
  else return false

/-- the method whose header, name and parameters are known, and the place of its last byte; `rest` are the bytes from
the place on -/
def sliceEnd (bs : Bytes) (name header params : String) (place : Nat) (rest : Bytes) : Slicing (Option (Method × Nat)) :=
  match ending rest with
  | none => return none
  | some (gap, none) => return some (⟨name, trimmed header, params, none⟩, place + gap)
  | some (gap, some length) => do
    let body ← slice bs ⟨place + gap, place + gap + length⟩
    return some (⟨name, trimmed header, params, some body⟩, place + gap + length - 1)

/-- the method whose parameters open between the masked bytes `before`, last first, and `rest`, and the place of its last
byte -/
def sliceMethod (bs before rest : Bytes) : Slicing (Option (Method × Nat)) := do
  let upToName := before.dropWhile isBlankByte
  let beforeName := upToName.dropWhile isIdentByte
  if (nameAtEnd upToName).isNone then return none
  else
    let name ← slice bs ⟨beforeName.length, upToName.length⟩
    if notMethodNames.contains name then return none
    else
      let typed ← sliceType bs beforeName
      if !typed then return none
      else
        match closing parenOpen parenClose 0 (parenOpen :: rest) with
        | none => return none
        | some n =>
          let header ← slice bs ⟨beforeName.length - headerLength 0 beforeName, beforeName.length⟩
          let params ← slice bs ⟨before.length + 1, before.length + n⟩
          sliceEnd bs name header params (before.length + n + 1) (rest.drop n)

/-- the methods in masked bytes; `before` holds the bytes already passed, last first, and the next `skip` bytes belong to
the last method -/
def scanFrom (bs before : Bytes) (skip : Nat) : Bytes → Slicing (List Method)
  | [] => return []
  | b :: rest =>
    match skip with
    | n + 1 => scanFrom bs (b :: before) n rest
    | 0 =>
      if b = parenOpen then do
        match ← sliceMethod bs before rest with
        | some (m, last) =>
          let more ← scanFrom bs (b :: before) (last - before.length) rest
          return m :: more
        | none => scanFrom bs (b :: before) 0 rest
      else scanFrom bs (b :: before) 0 rest

/-- the methods of a text -/
def scanMethods (text : String) : Slicing (List Method) := scanFrom (encode text) [] 0 (mask (encode text))

/-- the body of the first method of the name that has one -/
def scanBody (text name : String) : Slicing (Option String) := do
  let found ← scanMethods text
  return bodyOf found name

/-! ## Results -/

/-- the scan has the result, and every span that it writes down on the way can be cut out -/
def Yields {α : Type} (bs : Bytes) (scan : Slicing α) (a : α) : Prop :=
  ∀ taken, ∃ more, (∀ s ∈ more, s.Cuts bs) ∧ scan.run taken = some (a, taken ++ more)

section

variable {α β : Type} {bs : Bytes}

theorem yields_pure (a : α) : Yields bs (pure a) a := fun _ => ⟨[], by simp, by simp⟩

theorem Yields.bind {scan : Slicing α} {next : α → Slicing β} {a : α} {b : β} (h : Yields bs scan a)
    (h' : Yields bs (next a) b) : Yields bs (scan >>= next) b := by
  intro taken
  obtain ⟨first, hfirst, hrun⟩ := h taken
  obtain ⟨more, hmore, hrun'⟩ := h' (taken ++ first)
  refine ⟨first ++ more, fun s hs => (List.mem_append.1 hs).elim (hfirst s) (hmore s), ?_⟩
  rw [StateT.run_bind, hrun]
  exact hrun'.trans (by rw [List.append_assoc])

theorem yields_slice {s : Span} (h : s.Cuts bs) : Yields bs (slice bs s) (spanText bs s) :=
  fun _ => ⟨[s], List.forall_mem_singleton.2 h, if_pos h⟩

end

/-! ## Words -/

/-- a span that the masked copy shows without spaces is shown as it is -/
theorem Span.of_mask {bs : Bytes} {s : Span} (h : ∀ b ∈ s.of (mask bs), b ≠ space) : s.of (mask bs) = s.of bs := by
  refine List.ext_getElem (Span.length_of_mask bs s) fun i hi hi' => ?_
  have hget := Span.getElem?_of_mask (List.getElem?_eq_getElem hi) (h _ (List.getElem_mem hi))
  rw [List.getElem?_eq_getElem hi'] at hget
  exact (Option.some.inj hget).symm

/-- the bytes up to a place, cut before the word at their end -/
theorem reverse_eq_word (before : Bytes) :
    before.reverse = (before.dropWhile isIdentByte).reverse ++ (before.takeWhile isIdentByte).reverse := by
  rw [← List.reverse_append, List.takeWhile_append_dropWhile]

theorem isIdentByte_of_mem_word {before : Bytes} {b : UInt8} (h : b ∈ before.takeWhile isIdentByte) :
    isIdentByte b = true := List.mem_takeWhile_imp h

section

variable {text : String} {before rest : Bytes} (h : mask (encode text) = before.reverse ++ rest)
  (hword : before.takeWhile isIdentByte ≠ []) (hrest : ∀ b ∈ rest.head?, isIdentByte b = false)

include h hword

theorem isBoundary_wordStart : isBoundary (encode text) (before.dropWhile isIdentByte).length = true := by
  rw [reverse_eq_word, List.append_assoc] at h
  rw [← List.length_reverse]
  refine isBoundary_of_masked h fun a ha b hb => (differ_of_ident (a := b) ?_ ?_).symm
  · obtain ⟨c, cs, hcs⟩ := List.exists_cons_of_ne_nil (mt List.reverse_eq_nil_iff.1 hword)
    rw [hcs] at hb
    obtain rfl := Option.some.inj hb
    exact isIdentByte_of_mem_word (List.mem_reverse.1 (hcs ▸ List.mem_cons_self))
  · have hhead := List.head?_dropWhile_not isIdentByte before
    rw [List.getLast?_reverse] at ha
    rw [Option.mem_def.1 ha] at hhead
    exact hhead

include hrest

theorem isBoundary_wordStop : isBoundary (encode text) before.length = true := by
  rw [← List.length_reverse]
  refine isBoundary_of_masked h fun a ha b hb => differ_of_ident ?_ (hrest b hb)
  obtain ⟨c, cs, hcs⟩ := List.exists_cons_of_ne_nil hword
  have hfirst : before.head? = some c := by
    rw [← List.takeWhile_append_dropWhile (p := isIdentByte) (l := before), hcs]
    rfl
  rw [List.getLast?_reverse, hfirst] at ha
  obtain rfl := Option.some.inj ha
  exact isIdentByte_of_mem_word (hcs ▸ List.mem_cons_self)

/-- **The word before a byte that is none of identifiers can be cut out**, and is shown as it is. -/
theorem cuts_word : (⟨(before.dropWhile isIdentByte).length, before.length⟩ : Span).Cuts (encode text) ∧
    encode (spanText (encode text) ⟨(before.dropWhile isIdentByte).length, before.length⟩) =
      (before.takeWhile isIdentByte).reverse := by
  have hlength := length_word before
  have hcuts : (⟨(before.dropWhile isIdentByte).length, before.length⟩ : Span).Cuts (encode text) := by
    refine ⟨hlength ▸ Nat.le_add_right _ _, ?_, isBoundary_wordStart h hword, isBoundary_wordStop h hword hrest⟩
    have hmask := congrArg List.length h
    rw [length_mask, List.length_append, List.length_reverse] at hmask
    exact hmask ▸ Nat.le_add_right _ _
  have hof : (⟨(before.dropWhile isIdentByte).length, before.length⟩ : Span).of (mask (encode text)) =
      (before.takeWhile isIdentByte).reverse := by
    rw [h, reverse_eq_word]
    refine Span.of_append _ _ _ (List.length_reverse).symm ?_
    rw [List.length_reverse, List.length_reverse]
    exact hlength
  refine ⟨hcuts, ?_⟩
  rw [hcuts.encode_spanText, ← Span.of_mask, hof]
  intro b hb
  rw [hof] at hb
  rintro rfl
  exact absurd (isIdentByte_of_mem_word (List.mem_reverse.1 hb)) (by decide)

end

/-- no identifier goes on over blanks, nor behind them if there are none -/
theorem head?_gap {before rest : Bytes}
    (hrest : before.takeWhile isBlankByte = [] → ∀ b ∈ rest.head?, isIdentByte b = false) :
    ∀ b ∈ ((before.takeWhile isBlankByte).reverse ++ rest).head?, isIdentByte b = false := by
  intro b hb
  cases hgap : (before.takeWhile isBlankByte).reverse with
  | nil =>
    rw [hgap] at hb
    exact hrest (List.reverse_eq_nil_iff.1 hgap) b hb
  | cons c cs =>
    rw [hgap] at hb
    obtain rfl : c = b := Option.some.inj hb
    have hblank : isBlankByte c = true :=
      List.mem_takeWhile_imp (List.mem_reverse.1 (hgap ▸ List.mem_cons_self : c ∈ _))
    rw [Bool.eq_false_iff]
    exact fun hident => absurd hblank (by simp [isBlankByte_of_ident hident])

theorem contains_map_encode (words : List String) (s : String) :
    (words.map encode).contains (encode s) = words.contains s := by
  rw [Bool.eq_iff_iff, List.contains_iff_mem, List.contains_iff_mem, List.mem_map]
  exact ⟨fun ⟨t, ht, heq⟩ => encode_injective heq ▸ ht, fun hs => ⟨s, hs, rfl⟩⟩

/-! ## The parts of a candidate -/

section

variable {text : String}

theorem yields_sliceWord {before rest : Bytes} (h : mask (encode text) = before.reverse ++ rest)
    (hrest : before.takeWhile isIdentByte ≠ [] → ∀ b ∈ rest.head?, isIdentByte b = false) :
    ∃ word, Yields (encode text) (sliceWord (encode text) before) word ∧
      (word != some "new") = ((before.takeWhile isIdentByte).reverse != encode "new") := by
  have hlength := length_word before
  unfold sliceWord
  dsimp only
  by_cases hword : before.takeWhile isIdentByte = []
  · refine ⟨none, ?_, by rw [hword]; decide⟩
    rw [if_neg (by rw [hlength, hword]; simp)]
    exact yields_pure none
  · obtain ⟨hcuts, hencode⟩ := cuts_word h hword (hrest hword)
    rw [if_pos (by have := List.length_pos_iff.2 hword; omega)]
    refine ⟨_, (yields_slice hcuts).bind (yields_pure _), ?_⟩
    rw [← hencode, Bool.eq_iff_iff, bne_iff_ne, bne_iff_ne]
    exact not_congr ⟨fun heq => congrArg encode (Option.some.inj heq), fun heq => congrArg some (encode_injective heq)⟩

/-- The slices before a name can be taken, and tell whether a type stands there. -/
theorem yields_sliceType {beforeName rest : Bytes} (h : mask (encode text) = beforeName.reverse ++ rest)
    (houtside : ∀ b ∈ beforeName.head?, isIdentByte b = false) :
    Yields (encode text) (sliceType (encode text) beforeName) (followsType beforeName) := by
  -- a word stands before blanks, since no byte of identifiers stands before the name
  have hbefore : mask (encode text) = (beforeName.dropWhile isBlankByte).reverse ++
      ((beforeName.takeWhile isBlankByte).reverse ++ rest) := by
    rw [h, ← List.append_assoc, ← List.reverse_append, List.takeWhile_append_dropWhile]
  have hrest : (beforeName.dropWhile isBlankByte).takeWhile isIdentByte ≠ [] →
      ∀ b ∈ ((beforeName.takeWhile isBlankByte).reverse ++ rest).head?, isIdentByte b = false := by
    intro hword
    refine head?_gap fun hnone => absurd ?_ hword
    have hsplit := List.takeWhile_append_dropWhile (p := isBlankByte) (l := beforeName)
    rw [hnone, List.nil_append] at hsplit
    rw [hsplit]
    cases beforeName with
    | nil => rfl
    | cons c cs => exact List.takeWhile_cons_of_neg (by simp [houtside c rfl])
  obtain ⟨word, hyields, hnew⟩ := yields_sliceWord hbefore hrest
  unfold sliceType followsType
  dsimp only
  cases hhead : (beforeName.dropWhile isBlankByte).head? with
  | none => exact yields_pure false
  | some b =>
    cases htype : endsType b with
    | false =>
      simp only [Option.any_some, htype, Bool.false_eq_true, if_false, Bool.false_and]
      exact yields_pure false
    | true =>
      simp only [Option.any_some, htype, if_true, Bool.true_and, ← hnew]
      exact hyields.bind (yields_pure _)

/-- what stands between ASCII delimiters can be cut out with them -/
theorem cuts_encloses {front part back : Bytes} {opening closer : UInt8}
    (h : mask (encode text) = front ++ part ++ back) (hpart : Encloses opening closer part)
    (hopening : opening ≠ space ∧ opening.toNat < 128) (hcloser : closer ≠ space ∧ closer.toNat < 128) :
    (⟨front.length, front.length + part.length⟩ : Span).Cuts (encode text) := by
  obtain ⟨more, hmore⟩ := List.head?_eq_some_iff.1 hpart.opens
  obtain ⟨init, hinit⟩ := List.getLast?_eq_some_iff.1 hpart.closes
  have hlength := congrArg List.length h
  rw [length_mask, List.length_append, List.length_append] at hlength
  constructor
  case ordered => exact Nat.le_add_right _ _
  case within => exact hlength ▸ Nat.le_add_right _ _
  case start =>
    rw [hmore, List.append_assoc, List.cons_append] at h
    exact (isBoundary_delimiter h hopening.1 hopening.2).1
  case stop =>
    rw [hinit, ← List.append_assoc, List.append_assoc, List.singleton_append] at h
    have hboundary := (isBoundary_delimiter h hcloser.1 hcloser.2).2
    rw [List.length_append] at hboundary
    rwa [hinit, List.length_append, ← Nat.add_assoc]

theorem yields_sliceEnd {front rest : Bytes} (h : mask (encode text) = front ++ rest) (name header params : String) :
    Yields (encode text) (sliceEnd (encode text) name header params front.length rest)
      ((ending rest).map fun e =>
        (⟨name, trimmed header, params,
            e.2.map fun length => spanText (encode text) ⟨front.length + e.1, front.length + e.1 + length⟩⟩,
          match e.2 with
          | some length => front.length + e.1 + length - 1
          | none => front.length + e.1)) := by
  unfold sliceEnd
  cases hending : ending rest with
  | none => exact yields_pure none
  | some e =>
    obtain ⟨gap, body⟩ := e
    cases body with
    | none => exact yields_pure _
    | some length =>
      obtain ⟨clause, last, after, rfl, rfl, ⟨hbody, -⟩ | ⟨hbody, hlast⟩⟩ := ending_parts hending
      · exact absurd hbody (Option.some_ne_none length)
      · obtain rfl := Option.some.inj hbody
        rw [List.append_assoc, ← List.append_assoc, ← List.append_assoc] at h
        have hcuts := cuts_encloses h hlast (by decide) (by decide)
        rw [List.length_append] at hcuts
        exact (yields_slice hcuts).bind (yields_pure _)

/-- a header starts at the front of the text or behind a stop -/
theorem isStopByte_of_headerLength {depth : Nat} {before : Bytes} :
    ∀ b ∈ (before.drop (headerLength depth before)).head?, isStopByte b = true := by
  induction before generalizing depth with
  | nil => exact fun b hb => absurd hb (by simp)
  | cons x before ih =>
    rw [headerLength]
    split
    · exact ih
    · split
      · exact ih
      · split
        · rename_i hstop
          intro b hb
          obtain rfl : x = b := Option.some.inj hb
          simp only [Bool.and_eq_true, Bool.or_eq_true, decide_eq_true_eq] at hstop
          rcases hstop.1 with (rfl | rfl) | rfl <;> rfl
        · exact ih

theorem cuts_header {beforeName rest : Bytes} (h : mask (encode text) = beforeName.reverse ++ rest)
    (hname : isBoundary (encode text) beforeName.length = true) :
    (⟨beforeName.length - headerLength 0 beforeName, beforeName.length⟩ : Span).Cuts (encode text) := by
  have hlength := congrArg List.length h
  rw [length_mask, List.length_append, List.length_reverse] at hlength
  constructor
  case ordered => exact Nat.sub_le _ _
  case within => exact hlength ▸ Nat.le_add_right _ _
  case stop => exact hname
  case start =>
    have hsplit : mask (encode text) = (beforeName.drop (headerLength 0 beforeName)).reverse ++
        ((beforeName.take (headerLength 0 beforeName)).reverse ++ rest) := by
      rw [h, ← List.append_assoc, ← List.reverse_append, List.take_append_drop]
    show isBoundary (encode text) (beforeName.length - headerLength 0 beforeName) = true
    rw [← List.length_drop, ← List.length_reverse]
    refine isBoundary_of_masked hsplit fun a ha b _ => ?_
    rw [List.getLast?_reverse] at ha
    have hstop := isStopByte_of_headerLength a ha
    simp only [isStopByte, Bool.or_eq_true, beq_iff_eq] at hstop
    rcases hstop with (rfl | rfl) | rfl <;> exact differ_of_ascii (by decide) (by decide) b

theorem cuts_params {before params tail : Bytes}
    (h : mask (encode text) = before.reverse ++ parenOpen :: (params ++ parenClose :: tail)) :
    (⟨before.length + 1, before.length + (params.length + 1)⟩ : Span).Cuts (encode text) := by
  have hclose : mask (encode text) = (before.reverse ++ parenOpen :: params) ++ parenClose :: tail := by
    rw [h, List.append_assoc, List.cons_append]
  have hplace : (before.reverse ++ parenOpen :: params).length = before.length + (params.length + 1) := by
    rw [List.length_append, List.length_reverse, List.length_cons]
  have hlength := congrArg List.length hclose
  rw [length_mask, List.length_append, hplace] at hlength
  constructor
  case ordered => exact Nat.add_le_add_left (Nat.le_add_left _ _) _
  case within => exact hlength ▸ Nat.le_add_right _ _
  case start => simpa using (isBoundary_delimiter h (by decide) (by decide)).2
  case stop => exact hplace ▸ (isBoundary_delimiter hclose (by decide) (by decide)).1

/-- The slices behind a name and its type can be taken, once its parameters are closed. -/
theorem yields_sliceParts {before beforeName rest back : Bytes} {n : Nat}
    (h : mask (encode text) = before.reverse ++ parenOpen :: rest)
    (hbeforeName : mask (encode text) = beforeName.reverse ++ back)
    (hstart : isBoundary (encode text) beforeName.length = true)
    (hclosing : closing parenOpen parenClose 0 (parenOpen :: rest) = some n) (name : String) :
    let header := (⟨beforeName.length - headerLength 0 beforeName, beforeName.length⟩ : Span)
    let params := (⟨before.length + 1, before.length + n⟩ : Span)
    let place := before.length + n + 1
    Yields (encode text)
      (do
        let headerText ← slice (encode text) header
        let paramsText ← slice (encode text) params
        sliceEnd (encode text) name headerText paramsText place (rest.drop n))
      ((ending (rest.drop n)).map fun e =>
        (⟨name, trimmed (spanText (encode text) header), spanText (encode text) params,
            e.2.map fun length => spanText (encode text) ⟨place + e.1, place + e.1 + length⟩⟩,
          match e.2 with
          | some length => place + e.1 + length - 1
          | none => place + e.1)) := by
  obtain ⟨params, tail, rfl, rfl, -⟩ := closing_encloses (by decide) hclosing
  have hclosed : mask (encode text) = (before.reverse ++ parenOpen :: (params ++ [parenClose])) ++ tail := by
    rw [h]
    simp only [List.append_assoc, List.cons_append, List.nil_append]
  have hplace : (before.reverse ++ parenOpen :: (params ++ [parenClose])).length =
      before.length + (params.length + 1) + 1 := by
    simp only [List.length_append, List.length_reverse, List.length_cons, List.length_nil]
    omega
  have htail : (params ++ parenClose :: tail).drop (params.length + 1) = tail := by
    rw [← List.drop_drop, List.drop_left, List.drop_one, List.tail_cons]
  have hend := fun header params => yields_sliceEnd hclosed name header params
  rw [hplace] at hend
  rw [htail]
  exact (yields_slice (cuts_header hbeforeName hstart)).bind ((yields_slice (cuts_params h)).bind (hend _ _))

/-! ## The run -/

/-- **At a parenthesis the scan takes its slices, and finds what it finds by places.** -/
theorem yields_sliceMethod {before rest : Bytes} (h : mask (encode text) = before.reverse ++ parenOpen :: rest) :
    Yields (encode text) (sliceMethod (encode text) before rest)
      ((declarationAt before rest).map fun d => (d.method (encode text), d.last)) := by
  unfold sliceMethod declarationAt
  dsimp only
  have hupToName : mask (encode text) = (before.dropWhile isBlankByte).reverse ++
      ((before.takeWhile isBlankByte).reverse ++ parenOpen :: rest) := by
    rw [h, ← List.append_assoc, ← List.reverse_append, List.takeWhile_append_dropWhile]
  have hgap : ∀ b ∈ ((before.takeWhile isBlankByte).reverse ++ parenOpen :: rest).head?, isIdentByte b = false :=
    head?_gap fun _ b hb => by
      obtain rfl : parenOpen = b := Option.some.inj hb
      rfl
  generalize before.dropWhile isBlankByte = upToName at hupToName
  cases hname : nameAtEnd upToName with
  | none => exact yields_pure none
  | some name =>
    obtain ⟨hreverse, hne⟩ := of_nameAtEnd hname
    have hword : upToName.takeWhile isIdentByte ≠ [] := fun hnil => hne (by rw [hreverse, hnil]; rfl)
    obtain ⟨hcuts, hencode⟩ := cuts_word hupToName hword hgap
    have hbeforeName : mask (encode text) = (upToName.dropWhile isIdentByte).reverse ++
        ((upToName.takeWhile isIdentByte).reverse ++ ((before.takeWhile isBlankByte).reverse ++ parenOpen :: rest)) := by
      rw [hupToName, reverse_eq_word, List.append_assoc]
    have houtside : ∀ b ∈ (upToName.dropWhile isIdentByte).head?, isIdentByte b = false := by
      intro b hb
      have hhead := List.head?_dropWhile_not isIdentByte upToName
      rw [Option.mem_def.1 hb] at hhead
      exact hhead
    have hstart := isBoundary_wordStart hupToName hword
    rw [← hreverse] at hencode
    simp only [Option.isNone_some, Bool.false_eq_true, if_false, Option.bind_some]
    refine (yields_slice hcuts).bind ?_
    rw [← hencode, contains_map_encode]
    generalize upToName.dropWhile isIdentByte = beforeName at hbeforeName houtside hstart
    generalize hnamed : spanText (encode text) ⟨beforeName.length, upToName.length⟩ = named
    cases notMethodNames.contains named with
    | true => exact yields_pure none
    | false =>
      refine (yields_sliceType hbeforeName houtside).bind ?_
      cases followsType beforeName with
      | false => exact yields_pure none
      | true =>
        cases hclosing : closing parenOpen parenClose 0 (parenOpen :: rest) with
        | none => exact yields_pure none
        | some n =>
          have hparts := yields_sliceParts h hbeforeName hstart hclosing named
          simp only [Bool.not_true, Bool.or_false, Bool.false_eq_true, if_false, Option.bind_some, Option.map_map]
          subst hnamed
          refine Eq.subst (motive := Yields _ _) (congrArg (Option.map · (ending _)) (funext fun e => ?_)) hparts
          obtain ⟨gap, body⟩ := e
          cases body <;> rfl

/-- **The scan takes its slices all through a text**, and finds the declarations that it finds by places. -/
theorem yields_scanFrom {before rest : Bytes} {n : Nat} (h : mask (encode text) = before.reverse ++ rest) :
    Yields (encode text) (scanFrom (encode text) before n rest)
      ((declarationsFrom before n rest).map (Declaration.method (encode text))) := by
  have hpassed : ∀ {b : UInt8} {before rest : Bytes}, mask (encode text) = before.reverse ++ b :: rest →
      mask (encode text) = (b :: before).reverse ++ rest := by
    intro b before rest h
    rw [h, List.reverse_cons, List.append_assoc, List.singleton_append]
  fun_induction declarationsFrom before n rest with
  | case1 => exact yields_pure []
  | case2 before b rest n ih => exact ih (hpassed h)
  | case3 before rest d hat ih =>
    have hmethod := yields_sliceMethod h
    rw [hat] at hmethod
    rw [scanFrom, if_pos rfl]
    exact hmethod.bind ((ih (hpassed h)).bind (yields_pure _))
  | case4 before rest hat ih =>
    have hmethod := yields_sliceMethod h
    rw [hat] at hmethod
    rw [scanFrom, if_pos rfl]
    exact hmethod.bind (ih (hpassed h))
  | case5 before b rest hb ih =>
    rw [scanFrom, if_neg hb]
    exact ih (hpassed h)

theorem yields_scanMethods (text : String) : Yields (encode text) (scanMethods text) (methods text) :=
  yields_scanFrom rfl

theorem yields_scanBody (text name : String) :
    Yields (encode text) (scanBody text name) (bodyOf (methods text) name) :=
  (yields_scanMethods text).bind (yields_pure _)

/-- **Every slice that the scan takes of a text can be taken, and the scan has a result for every text**: the methods,
and with them the body of each name. -/
theorem slices_cut (text : String) :
    (∃ taken, (scanMethods text).run [] = some (methods text, taken) ∧ ∀ s ∈ taken, s.Cuts (encode text)) ∧
      ∀ name, ∃ taken, (scanBody text name).run [] = some (bodyOf (methods text) name, taken) ∧
        ∀ s ∈ taken, s.Cuts (encode text) := by
  constructor
  · obtain ⟨taken, hcuts, hrun⟩ := yields_scanMethods text []
    exact ⟨taken, hrun, hcuts⟩
  · intro name
    obtain ⟨taken, hcuts, hrun⟩ := yields_scanBody text name []
    exact ⟨taken, hrun, hcuts⟩

end

end CodeSurvey.Source
