/-
The clauses in which a class names the interfaces that it implements.

`declaresImplements` splits a text at each `implements` and reads the names up to the next brace. The pattern
`implementsClause` matches the same stretches of the text, so the answer depends on its matches alone
(`declaresImplements_eq_any`): where a match starts the split has a part, and what stands from the brace on belongs to
later matches (`split_append`). The induction is over the text, with the characters of the last match skipped.
-/
import CodeSurvey.Proofs.Pattern.Versions
import CodeSurvey.Proofs.Source.Scan
import CodeSurvey.Trace.Tracer

namespace CodeSurvey

open Text

namespace Pattern

/-! ## A text and a run of characters -/

theorem ways_exactly_cons (x : Char) (xs : List Char) (c : Cursor) :
    ways (exactly (x :: xs)) c = (ways (char (· == x)) c).flatMap (ways (exactly xs)) := by
  cases xs with
  | nil => exact (List.flatMap_singleton' _).symm
  | cons y ys => rfl

/-- a text is taken in one way -/
theorem ways_exactly (cs rest : List Char) (lead : Option Char) (taken : Taken) (groups : List (Nat × Taken)) :
    ways (exactly cs) ⟨lead, taken, cs ++ rest, groups⟩ =
      [⟨lead, ⟨taken.count + cs.length, cs.reverse ++ taken.trail⟩, rest, groups⟩] := by
  induction cs generalizing taken with
  | nil => rfl
  | cons x xs ih =>
    have hchar : ways (char (· == x)) ⟨lead, taken, x :: xs ++ rest, groups⟩ =
        [⟨lead, taken.push x, xs ++ rest, groups⟩] := by
      simp [ways]
    rw [ways_exactly_cons, hchar, List.flatMap_singleton, ih]
    simp [Taken.push, Nat.add_comm, Nat.add_left_comm]

/-- where the text does not stand there is no way to take it -/
theorem ways_exactly_eq_nil {cs : List Char} {c : Cursor} (h : ¬ cs <+: c.rest) : ways (exactly cs) c = [] := by
  induction cs generalizing c with
  | nil => exact absurd List.nil_prefix h
  | cons x xs ih =>
    rw [ways_exactly_cons, ways]
    cases hrest : c.rest with
    | nil => rfl
    | cons y ys =>
      rw [hrest] at h
      dsimp only
      split
      · rename_i hxy
        obtain rfl : y = x := eq_of_beq hxy
        rw [List.flatMap_singleton]
        exact ih fun hxs => h ((List.prefix_cons_inj y).2 hxs)
      · rfl

/-- a greedy run takes all that passes the test first -/
theorem head?_spanWays {test : Char → Bool} {cs rest : List Char} (hcs : ∀ c ∈ cs, test c = true)
    (hrest : ∀ c ∈ rest.head?, test c = false) (taken : Taken) :
    (spanWays false test taken (cs ++ rest)).head? =
      some (⟨taken.count + cs.length, cs.reverse ++ taken.trail⟩, rest) := by
  induction cs generalizing taken with
  | nil =>
    cases rest with
    | nil => rfl
    | cons c rest =>
      have hc : ¬ test c = true := by simp [hrest c rfl]
      rw [List.nil_append, spanWays, if_neg hc]
      rfl
  | cons c cs ih =>
    have hhead := ih (fun d hd => hcs d (List.mem_cons_of_mem c hd)) (taken.push c)
    rw [List.cons_append, spanWays, if_pos (hcs c List.mem_cons_self), inOrder, if_neg Bool.false_ne_true,
      List.head?_append, hhead]
    simp [Taken.push, Nat.add_comm, Nat.add_left_comm]

end Pattern

namespace Tracer

/-- from the word that starts a list of interfaces to the next brace -/
def implementsClause : Pattern := .lit "implements" ++ .any0 (Pattern.except "\x7b")

theorem brace_iff (c : Char) : Pattern.except "\x7b" c = (c != '\x7b') := by
  by_cases h : c = '\x7b' <;> simp [Pattern.except, h]

/-- the brace that ends a clause, or the end of the text -/
def IsEnd (rest : List Char) : Prop := ∀ c ∈ rest.head?, c = '\x7b'

theorem matchHere_clause {names rest : List Char} (hnames : '\x7b' ∉ names) (hrest : IsEnd rest)
    (lead : Option Char) :
    implementsClause.matchHere lead ("implements".toList ++ (names ++ rest)) =
      some ⟨"implements".toList ++ names, []⟩ := by
  have hpass : ∀ c ∈ names, Pattern.except "\x7b" c = true := by
    intro c hc
    rw [brace_iff, bne_iff_ne]
    rintro rfl
    exact hnames hc
  have hstop : ∀ c ∈ rest.head?, Pattern.except "\x7b" c = false := by
    intro c hc
    rw [brace_iff, hrest c hc]
    rfl
  have hways : (implementsClause.ways ⟨lead, ⟨0, []⟩, "implements".toList ++ (names ++ rest), []⟩).head? =
      some ⟨lead, ⟨0 + "implements".toList.length + names.length, names.reverse ++ ("implements".toList.reverse ++ [])⟩,
        rest, []⟩ := by
    show (((Pattern.exactly "implements".toList).ways _).flatMap _).head? = _
    rw [Pattern.ways_exactly, List.flatMap_singleton, Pattern.any0, Pattern.ways, List.head?_map,
      Pattern.head?_spanWays hpass hstop]
    rfl
  have htake : (names.reverse ++ ("implements".toList.reverse ++ [])).take
      (0 + "implements".toList.length + names.length) = names.reverse ++ ("implements".toList.reverse ++ []) := by
    refine List.take_of_length_le ?_
    simp only [List.length_append, List.length_reverse, List.length_nil]
    omega
  rw [Pattern.matchHere_eq, hways, Option.map_some, Cursor.found, Taken.text, htake]
  simp

theorem matchHere_of_not_clause {text : List Char} (h : ¬ "implements".toList <+: text) (lead : Option Char) :
    implementsClause.matchHere lead text = none := by
  have hways : implementsClause.ways ⟨lead, ⟨0, []⟩, text, []⟩ = [] := by
    show ((Pattern.exactly "implements".toList).ways _).flatMap _ = _
    rw [Pattern.ways_exactly_eq_nil h]
    rfl
  rw [Pattern.matchHere_eq, hways]
  rfl

/-! ## The split -/

theorem split_ne_nil (sep cs : List Char) (skip : Nat) : splitAtText sep skip cs ≠ [] := by
  induction cs generalizing skip with
  | nil => exact List.cons_ne_nil _ _
  | cons c cs ih =>
    cases skip with
    | succ n => exact ih n
    | zero =>
      rw [splitAtText]
      split
      · exact List.cons_ne_nil _ _
      · split
        · exact List.cons_ne_nil _ _
        · exact List.cons_ne_nil _ _

theorem split_skip (sep front rest : List Char) :
    splitAtText sep front.length (front ++ rest) = splitAtText sep 0 rest := by
  induction front with
  | nil => rfl
  | cons c front ih => exact ih

theorem split_word {sep cs : List Char} {c : Char} (h : sep <+: c :: cs) :
    splitAtText sep 0 (c :: cs) = [] :: splitAtText sep (sep.length - 1) cs := by
  rw [splitAtText, if_pos (List.isPrefixOf_iff_prefix.2 h)]

theorem split_other {sep cs : List Char} {c : Char} (h : ¬ sep <+: c :: cs) :
    ∃ first others, splitAtText sep 0 cs = first :: others ∧ splitAtText sep 0 (c :: cs) = (c :: first) :: others := by
  obtain ⟨first, others, hsplit⟩ := List.exists_cons_of_ne_nil (split_ne_nil sep cs 0)
  refine ⟨first, others, hsplit, ?_⟩
  rw [splitAtText, if_neg (by rwa [List.isPrefixOf_iff_prefix]), hsplit]

/-- the word does not reach over the brace that ends a clause -/
theorem not_prefix_append {cs rest : List Char} (hrest : IsEnd rest) (h : ¬ "implements".toList <+: cs) :
    ¬ "implements".toList <+: cs ++ rest := by
  intro happend
  rcases Nat.le_total "implements".toList.length cs.length with hle | hle
  · exact h (List.prefix_of_prefix_length_le happend (List.prefix_append cs rest) hle)
  · obtain ⟨more, hmore⟩ := List.prefix_of_prefix_length_le (List.prefix_append cs rest) happend hle
    cases more with
    | nil => exact h ⟨[], by rw [← hmore, List.append_nil, List.append_nil]⟩
    | cons d ds =>
      rw [← hmore, List.prefix_append_right_inj] at happend
      obtain ⟨tail, rfl⟩ := happend
      have hbrace : d = '\x7b' := hrest d rfl
      have hmem : d ∈ "implements".toList := hmore ▸ List.mem_append_right _ List.mem_cons_self
      rw [hbrace] at hmem
      exact absurd hmem (by decide)

/-- Behind a clause the split goes on with what stands there, in its last part. -/
theorem split_append {rest : List Char} (hrest : IsEnd rest) (names : List Char) {skip : Nat}
    (hskip : skip ≤ names.length) :
    ∃ front last first others, splitAtText "implements".toList skip names = front ++ [last] ∧
      splitAtText "implements".toList 0 rest = first :: others ∧ IsEnd first ∧
      splitAtText "implements".toList skip (names ++ rest) = front ++ (last ++ first) :: others := by
  induction names generalizing skip with
  | nil =>
    obtain rfl := Nat.le_zero.1 hskip
    cases rest with
    | nil => exact ⟨[], [], [], [], rfl, rfl, hrest, rfl⟩
    | cons c rest =>
      obtain rfl : c = '\x7b' := hrest c rfl
      have hword : ¬ "implements".toList <+: '\x7b' :: rest :=
        not_prefix_append hrest (show ¬ "implements".toList <+: [] by decide)
      obtain ⟨first, others, -, hsplit⟩ := split_other hword
      exact ⟨[], [], _, others, rfl, hsplit, hrest, hsplit⟩
  | cons c names ih =>
    rw [List.cons_append]
    cases skip with
    | succ n => exact ih (Nat.le_of_succ_le_succ hskip)
    | zero =>
      by_cases hword : "implements".toList <+: c :: names
      · have hlength : "implements".toList.length - 1 ≤ names.length := by
          have := hword.length_le
          rw [List.length_cons] at this
          omega
        obtain ⟨front, last, first, others, hnames, hsplit, hend, hall⟩ := ih hlength
        refine ⟨[] :: front, last, first, others, ?_, hsplit, hend, ?_⟩
        · rw [split_word hword, hnames, List.cons_append]
        · have hword' : "implements".toList <+: c :: (names ++ rest) := hword.trans (List.prefix_append _ rest)
          rw [split_word hword', hall, List.cons_append]
      · obtain ⟨front, last, first, others, hnames, hsplit, hend, hall⟩ := ih (Nat.zero_le _)
        obtain ⟨part, parts, hfirst, hnames'⟩ := split_other hword
        have hword' : ¬ "implements".toList <+: c :: (names ++ rest) := not_prefix_append hrest hword
        obtain ⟨part', parts', hfirst', hall'⟩ := split_other hword'
        rw [hnames] at hfirst
        rw [hall] at hfirst'
        -- the character joins the first part, which may be the last one as well
        cases front with
        | nil =>
          obtain ⟨rfl, rfl⟩ := List.cons.inj hfirst
          obtain ⟨rfl, rfl⟩ := List.cons.inj hfirst'
          exact ⟨[], c :: last, first, others, hnames', hsplit, hend, hall'⟩
        | cons f front =>
          obtain ⟨rfl, rfl⟩ := List.cons.inj hfirst
          obtain ⟨rfl, rfl⟩ := List.cons.inj hfirst'
          exact ⟨(c :: f) :: front, last, first, others, hnames', hsplit, hend, hall'⟩

/-! ## Names -/

/-- the interface is one of the names up to the next brace -/
def namesIn (interface : String) (tail : List Char) : Bool :=
  (splitBy (fun c => !(isAlphanumeric c || c == '_' || c == '.')) (tail.takeWhile (· != '\x7b'))).any fun token =>
    afterLast (String.ofList token) '.' == interface

/-- the text names the interface behind some `implements` -/
def declaredIn (interface : String) (text : List Char) : Bool :=
  ((splitAtText "implements".toList 0 text).drop 1).any (namesIn interface)

theorem declaresImplements_eq (text interface : String) :
    declaresImplements text interface = declaredIn interface text.toList := rfl

theorem namesIn_append (interface : String) {rest : List Char} (hrest : IsEnd rest) (names : List Char) :
    namesIn interface (names ++ rest) = namesIn interface names := by
  have hbrace : ∀ c ∈ rest.head?, (c != '\x7b') = false := by
    intro c hc
    rw [hrest c hc]
    rfl
  rw [namesIn, Source.takeWhile_append_of_head hbrace, namesIn]

theorem declaredIn_other (interface : String) {c : Char} {cs : List Char} (h : ¬ "implements".toList <+: c :: cs) :
    declaredIn interface (c :: cs) = declaredIn interface cs := by
  obtain ⟨first, others, hcs, hall⟩ := split_other h
  rw [declaredIn, hall, declaredIn, hcs]
  rfl

/-- A clause declares what it names, and what stands behind it goes on for itself. -/
theorem declaredIn_clause (interface : String) {rest : List Char} (hrest : IsEnd rest) (names : List Char) :
    declaredIn interface ("implements".toList ++ (names ++ rest)) =
      (declaredIn interface ("implements".toList ++ names) || declaredIn interface rest) := by
  have hword : ∀ tail, splitAtText "implements".toList 0 ("implements".toList ++ tail) =
      [] :: splitAtText "implements".toList 0 tail := by
    intro tail
    rw [← split_skip "implements".toList "mplements".toList tail]
    exact split_word (show "implements".toList <+: 'i' :: ("mplements".toList ++ tail) from List.prefix_append _ tail)
  obtain ⟨front, last, first, others, hnames, hsplit, hend, hall⟩ := split_append hrest names (Nat.zero_le _)
  simp only [declaredIn, hword, hnames, hsplit, hall, List.drop_one, List.tail_cons, List.any_append, List.any_cons,
    List.any_nil, namesIn_append interface hend, Bool.or_false, Bool.or_assoc]

/-! ## Clauses -/

theorem any_findAllFrom (interface : String) (lead : Option Char) (skip : Nat) (text : List Char) :
    ((implementsClause.findAllFrom lead skip text).any fun m => declaredIn interface m.text) =
      declaredIn interface (text.drop skip) := by
  induction text generalizing lead skip with
  | nil =>
    have hnone : implementsClause.matchHere lead [] = none := matchHere_of_not_clause (by decide) lead
    rw [Pattern.findAllFrom, hnone, List.drop_nil]
    split <;> rfl
  | cons c cs ih =>
    cases skip with
    | succ n => exact ih (some c) n
    | zero =>
      rw [Pattern.findAllFrom, List.drop_zero]
      by_cases hword : "implements".toList <+: c :: cs
      · obtain ⟨tail, htail⟩ := hword
        have hsplit := List.takeWhile_append_dropWhile (p := (· != '\x7b')) (l := tail)
        have hnames : '\x7b' ∉ tail.takeWhile (· != '\x7b') := fun hmem =>
          absurd (List.mem_takeWhile_imp hmem) (by decide)
        have hrest : IsEnd (tail.dropWhile (· != '\x7b')) := by
          intro d hd
          have := List.head?_dropWhile_not (· != '\x7b') tail
          rw [hd] at this
          simpa using this
        generalize tail.takeWhile (· != '\x7b') = names at hsplit hnames
        generalize tail.dropWhile (· != '\x7b') = rest at hsplit hrest
        have hmatch := matchHere_clause hnames hrest lead
        rw [hsplit, htail] at hmatch
        have hcs : cs.drop (("implements".toList ++ names).length - 1) = rest := by
          have hdrop : (c :: cs).drop ("implements".toList ++ names).length = rest := by
            rw [← htail, ← hsplit, ← List.append_assoc, List.drop_left]
          obtain ⟨n, hn⟩ : ∃ n, ("implements".toList ++ names).length = n + 1 := ⟨_, rfl⟩
          rw [hn] at hdrop ⊢
          exact hdrop
        rw [hmatch, List.any_cons, ih, hcs, ← htail, ← hsplit, declaredIn_clause interface hrest]
      · rw [matchHere_of_not_clause hword, declaredIn_other interface hword, ← List.drop_zero (l := cs)]
        exact ih (some c) 0

/-- **A text declares what one of its clauses declares.** -/
theorem declaresImplements_eq_any (text interface : String) :
    declaresImplements text interface =
      (implementsClause.findAll text).any fun m => declaredIn interface m.text := by
  rw [declaresImplements_eq, Pattern.findAll, any_findAllFrom, List.drop_zero]

end Tracer

end CodeSurvey
