/-
Markers before a parameter do not change what a parameter list declares.

Two lists are `Spaced` if the one has blanks more where a parameter starts. Erasing the annotations of a list with
markers leaves the blanks behind them (`spaced_annotationsReplaced`), a round that removes type arguments keeps the
relation or removes the blanks with an argument (`Spaced.round`), and cutting at the commas and taking words does not
see blanks before a parameter (`Spaced.parameters`). The loop over rounds may end earlier for one list than for the other,
but a round without anything to remove changes nothing (`dropTypeArguments_rounds`). Main statement: `parameters_marked`.
-/
import CodeSurvey.Proofs.Trace.Parameters

namespace CodeSurvey.Injection

open Text
open Tracer (head_mark span_unique)

/-- a parameter starts behind the text: blanks at the start of a list, or behind a comma -/
inductive StartsParameter : List Char → Prop
  | first {gap : List Char} (h : Blank gap) : StartsParameter gap
  | next {front gap : List Char} (h : Blank gap) : StartsParameter (front ++ ',' :: gap)

/-- the second text has blanks more before a parameter, if it differs from the first -/
inductive Spaced : List Char → List Char → Prop
  | same (text : List Char) : Spaced text text
  | more {front gap rest : List Char} (hfront : StartsParameter front) (hgap : Blank gap) :
    Spaced (front ++ rest) (front ++ (gap ++ rest))

/-! ## Cutting at the commas -/

theorem parameter?_gap {gap : List Char} (h : Blank gap) (text : List Char) :
    parameter? (gap ++ text) = parameter? text := by
  rw [parameter?, words_gap h, parameter?]

theorem splitBy_gap {gap : List Char} (h : Blank gap) (rest : List Char) :
    ∃ first others, splitBy (· == ',') rest = first :: others ∧
      splitBy (· == ',') (gap ++ rest) = (gap ++ first) :: others := by
  obtain ⟨first, others, hrest⟩ : ∃ first others, splitBy (· == ',') rest = first :: others :=
    List.exists_cons_of_ne_nil (splitBy_ne_nil rest)
  refine ⟨first, others, hrest, ?_⟩
  induction gap with
  | nil => exact hrest
  | cons b gap ih =>
    obtain ⟨hb, hgap⟩ := List.forall_mem_cons.1 h
    refine splitBy_cons ?_ (ih hgap)
    exact beq_eq_false_iff_ne.2 fun heq => absurd (heq ▸ hb) (by decide)

theorem filterMap_parameter?_gap {gap : List Char} (h : Blank gap) (rest : List Char) :
    (splitBy (· == ',') (gap ++ rest)).filterMap parameter? = (splitBy (· == ',') rest).filterMap parameter? := by
  obtain ⟨first, others, hrest, hspaced⟩ := splitBy_gap h rest
  rw [hrest, hspaced, List.filterMap_cons, List.filterMap_cons, parameter?_gap h]

theorem Spaced.parameters {text text' : List Char} (h : Spaced text text') :
    (splitBy (· == ',') text).filterMap parameter? = (splitBy (· == ',') text').filterMap parameter? := by
  cases h with
  | same => rfl
  | @more front gap rest hfront hgap =>
    cases hfront with
    | first hlead => rw [filterMap_parameter?_gap hlead, filterMap_parameter?_gap hlead, filterMap_parameter?_gap hgap]
    | @next front lead hlead =>
      have hsplit : ∀ back, splitBy (· == ',') (front ++ ',' :: lead ++ back) =
          splitBy (· == ',') front ++ splitBy (· == ',') (lead ++ back) := by
        intro back
        rw [List.append_assoc, List.cons_append]
        exact splitBy_append (by decide) _ _
      rw [hsplit, hsplit, List.filterMap_append, List.filterMap_append, filterMap_parameter?_gap hlead,
        filterMap_parameter?_gap hlead, filterMap_parameter?_gap hgap]

/-! ## Rounds -/

theorem innermostRemoved_bare {front : List Char} (h : Bare front) (rest : List Char) :
    innermostRemoved (front ++ rest) = front ++ innermostRemoved rest := by
  induction front with
  | nil => rfl
  | cons c front ih =>
    obtain ⟨hc, hfront⟩ := List.forall_mem_cons.1 h
    have hne : c ≠ '<' := by
      rintro rfl
      exact absurd hc (by decide)
    rw [List.cons_append, innermostRemoved_other hne, ih hfront, List.cons_append]

/-- the first bracket of the text closes -/
def Closes (text : List Char) : Prop := ∃ inner back, Bare inner ∧ text = inner ++ '>' :: back

theorem closes_append (front back : List Char) : Closes (front ++ back) ↔ Closes front ∨ Bare front ∧ Closes back := by
  constructor
  · rintro ⟨inner, rest, hinner, htext⟩
    rcases List.append_eq_append_iff.1 htext with ⟨middle, rfl, hback⟩ | ⟨middle, rfl, hback⟩
    · obtain ⟨hfront, hmiddle⟩ := List.forall_mem_append.1 hinner
      exact .inr ⟨hfront, middle, rest, hmiddle, hback⟩
    · cases middle with
      | nil => exact .inr ⟨by rwa [List.append_nil], [], rest, nofun, hback.symm⟩
      | cons c middle =>
        obtain ⟨rfl, -⟩ := List.cons.inj hback
        exact .inl ⟨inner, middle, hinner, rfl⟩
  · rintro (⟨inner, rest, hinner, rfl⟩ | ⟨hfront, inner, rest, hinner, rfl⟩)
    · exact ⟨inner, rest ++ back, hinner, by rw [List.append_assoc, List.cons_append]⟩
    · exact ⟨front ++ inner, rest, List.forall_mem_append.2 ⟨hfront, hinner⟩, (List.append_assoc _ _ _).symm⟩

/-- characters without brackets say nothing of the first one -/
theorem closes_bare_append {front : List Char} (h : Bare front) (back : List Char) :
    Closes (front ++ back) ↔ Closes back := by
  rw [closes_append, and_iff_right h, or_iff_right]
  rintro ⟨inner, rest, -, rfl⟩
  exact absurd (h '>' (by simp)) (by decide)

theorem innermostRemoved_open {text : List Char} (h : ¬ Closes text) :
    innermostRemoved ('<' :: text) = '<' :: innermostRemoved text := by
  refine Pattern.replacedBy_other rfl [] (Option.eq_none_iff_forall_ne_some.2 fun m hm => h ?_)
  obtain ⟨inner, back, htext, hinner⟩ := exists_typeArguments hm
  exact ⟨inner, back, hinner, (List.cons.inj htext).2⟩

/-- the texts differ at one place, where the one has the first middle and the other one the second -/
def DifferBy (middle middle' text text' : List Char) : Prop :=
  ∃ front rest, text = front ++ (middle ++ rest) ∧ text' = front ++ (middle' ++ rest)

theorem DifferBy.cons {middle middle' text text' : List Char} (h : DifferBy middle middle' text text') (c : Char) :
    DifferBy middle middle' (c :: text) (c :: text') := by
  obtain ⟨front, rest, rfl, rfl⟩ := h
  exact ⟨c :: front, rest, rfl, rfl⟩

/-- **Where two texts differ by characters without brackets, they do so after a round**, unless the place is removed with
an argument. -/
theorem round_differBy {middle middle' : List Char} (hmiddle : Bare middle) (hmiddle' : Bare middle')
    (front rest : List Char) :
    innermostRemoved (front ++ (middle ++ rest)) = innermostRemoved (front ++ (middle' ++ rest)) ∨
      DifferBy middle middle' (innermostRemoved (front ++ (middle ++ rest)))
        (innermostRemoved (front ++ (middle' ++ rest))) := by
  induction hlength : front.length using Nat.strongRecOn generalizing front with
  | _ length ih =>
    cases front with
    | nil =>
      exact .inr ⟨[], innermostRemoved rest, innermostRemoved_bare hmiddle rest, innermostRemoved_bare hmiddle' rest⟩
    | cons c front =>
      rw [List.length_cons] at hlength
      rw [List.cons_append, List.cons_append]
      have hkept := (ih front.length (by omega) front rfl).imp (congrArg (c :: ·)) fun h => h.cons c
      by_cases hc : c = '<'
      · subst hc
        by_cases hfront : Closes front
        · -- the argument ends before the place
          obtain ⟨inner, back, hinner, rfl⟩ := hfront
          rw [List.length_append, List.length_cons] at hlength
          have hremoved : ∀ text, innermostRemoved ('<' :: (inner ++ '>' :: back ++ text)) =
              innermostRemoved (back ++ text) := by
            intro text
            rw [List.append_assoc, List.cons_append]
            exact innermostRemoved_arguments hinner (back ++ text)
          rw [hremoved, hremoved]
          exact ih back.length (by omega) back rfl
        · by_cases hrest : Bare front ∧ Closes rest
          · -- the argument goes over the place
            obtain ⟨hbare, inner, back, hinner, rfl⟩ := hrest
            have hremoved : ∀ middle, Bare middle →
                innermostRemoved ('<' :: (front ++ (middle ++ (inner ++ '>' :: back)))) = innermostRemoved back := by
              intro middle hmiddle
              rw [← List.append_assoc middle, ← List.append_assoc front]
              exact innermostRemoved_arguments
                (List.forall_mem_append.2 ⟨hbare, List.forall_mem_append.2 ⟨hmiddle, hinner⟩⟩) back
            exact .inl ((hremoved _ hmiddle).trans (hremoved _ hmiddle').symm)
          · have hopen : ∀ middle, Bare middle → ¬ Closes (front ++ (middle ++ rest)) := by
              intro middle hmiddle
              rw [closes_append, closes_bare_append hmiddle]
              exact fun h => h.elim hfront hrest
            rw [innermostRemoved_open (hopen _ hmiddle), innermostRemoved_open (hopen _ hmiddle')]
            exact hkept
      · rw [innermostRemoved_other hc, innermostRemoved_other hc]
        exact hkept

theorem bare_of_blank {gap : List Char} (h : Blank gap) : Bare gap := by
  have hblank := WordsOnly.of_blank h
  intro c hc
  simp [isBracket, hblank.ne '<' (by decide) (by decide) c hc, hblank.ne '>' (by decide) (by decide) c hc]

theorem Spaced.round {text text' : List Char} (h : Spaced text text') :
    Spaced (innermostRemoved text) (innermostRemoved text') := by
  cases h with
  | same => exact .same _
  | @more front gap rest hfront hgap =>
    cases hfront with
    | first hlead =>
      rw [innermostRemoved_bare (bare_of_blank hlead), innermostRemoved_bare (bare_of_blank hlead),
        innermostRemoved_bare (bare_of_blank hgap)]
      exact .more (.first hlead) hgap
    | @next front lead hlead =>
      have hcomma : Bare (',' :: lead) := List.forall_mem_cons.2 ⟨by decide, bare_of_blank hlead⟩
      have hspaced : Bare (',' :: lead ++ gap) := List.forall_mem_append.2 ⟨hcomma, bare_of_blank hgap⟩
      have hround := round_differBy hcomma hspaced front rest
      rw [List.append_assoc (',' :: lead)] at hround
      rw [List.append_assoc, List.append_assoc]
      rcases hround with hsame | ⟨front', rest', h, h'⟩
      · rw [hsame]
        exact .same _
      · rw [h, h', List.append_assoc (',' :: lead), ← List.append_assoc front', ← List.append_assoc front']
        exact .more (.next hlead) hgap

/-! ## The loop -/

theorem oneRound_of_not_occurs {s : String} (h : typeArguments.occurs s = false) : oneRound s = s := by
  rw [← String.toList_inj, toList_oneRound]
  exact Pattern.replacedBy_of_not_occurs rfl [] h

theorem iterate_oneRound_toList (text : List Char) (n : Nat) :
    (oneRound^[n] (String.ofList text)).toList = innermostRemoved^[n] text := by
  induction n with
  | zero => exact String.toList_ofList
  | succ n ih => rw [Function.iterate_succ_apply', Function.iterate_succ_apply', toList_oneRound, ih]

theorem Spaced.rounds {text text' : List Char} (h : Spaced text text') (n : Nat) :
    Spaced (innermostRemoved^[n] text) (innermostRemoved^[n] text') := by
  induction n with
  | zero => exact h
  | succ n ih =>
    rw [Function.iterate_succ_apply', Function.iterate_succ_apply']
    exact ih.round

/-- more rounds than the loop makes change nothing -/
theorem dropTypeArguments_rounds (s : String) :
    ∃ n, ∀ k, n ≤ k → dropTypeArguments s.length s = oneRound^[k] s := by
  obtain ⟨n, -, -, hend, hdrop⟩ := dropTypeArguments_ends s
  refine ⟨n, fun k hk => ?_⟩
  rw [hdrop s.length (Nat.le_refl _)]
  obtain ⟨j, rfl⟩ := Nat.exists_eq_add_of_le hk
  clear hk
  induction j with
  | zero => rfl
  | succ j ih => rw [← Nat.add_assoc, Function.iterate_succ_apply', ← ih, oneRound_of_not_occurs hend]

theorem Spaced.dropped {text text' : List Char} (h : Spaced text text') :
    Spaced (dropTypeArguments text.length (String.ofList text)).toList
      (dropTypeArguments text'.length (String.ofList text')).toList := by
  obtain ⟨n, hn⟩ := dropTypeArguments_rounds (String.ofList text)
  obtain ⟨n', hn'⟩ := dropTypeArguments_rounds (String.ofList text')
  rw [String.length_ofList] at hn hn'
  rw [hn (max n n') (Nat.le_max_left n n'), hn' (max n n') (Nat.le_max_right n n'), iterate_oneRound_toList,
    iterate_oneRound_toList]
  exact h.rounds _

/-! ## Erasing the annotations -/

/-- without a word behind it the mark of annotations is none -/
theorem annotationsReplaced_lone (image : List Char) {rest : List Char} (h : ∀ c ∈ rest.head?, isWord c = false) :
    annotationsReplaced image ('@' :: rest) = '@' :: annotationsReplaced image rest := by
  refine Pattern.replacedBy_other rfl image (Option.eq_none_iff_forall_ne_some.2 fun m hm => ?_)
  rw [Pattern.matchHere, run_annotationUse] at hm
  obtain ⟨mark, c₁, hmark, -, hm⟩ := Pattern.exists_of_run_char hm
  obtain ⟨word, c₂, hword, hne, hchars, -⟩ := Pattern.exists_of_run_some1 hm
  obtain ⟨w, ws, rfl⟩ := List.exists_cons_of_ne_nil hne
  have hrest : rest = w :: (ws ++ c₂.rest) := (List.cons.inj hmark).2.trans hword
  exact absurd (hchars w List.mem_cons_self) (by simp [h w (by rw [hrest]; rfl)])

/-- without a closing parenthesis an annotation is its mark and its word -/
theorem annotationsReplaced_word (image : List Char) {word rest : List Char} (hword : IsIdentifier word)
    (hrest : ∀ c ∈ rest.head?, isWord c = false) (hclosed : ')' ∉ rest) :
    annotationsReplaced image ('@' :: (word ++ rest)) = image ++ annotationsReplaced image rest := by
  have hmark := annotationsReplaced_text image (Mark.wellFormed_marker hword) (Mark.plain_marker word)
    (fun _ => ⟨hrest, not_opensArguments_of_not_mem hclosed⟩)
  rwa [Mark.text_marker] at hmark

/-- **What stands before a comma has its annotations erased by itself**, where no parenthesis closes. -/
theorem annotationsReplaced_comma (image : List Char) {front : List Char} (hfront : ')' ∉ front) :
    ∃ front', ∀ rest, ')' ∉ rest →
      annotationsReplaced image (front ++ ',' :: rest) = front' ++ ',' :: annotationsReplaced image rest := by
  induction hlength : front.length using Nat.strongRecOn generalizing front with
  | _ length ih =>
    cases front with
    | nil => exact ⟨[], fun rest _ => annotationsReplaced_other image (by decide) rest⟩
    | cons c front =>
      rw [List.length_cons] at hlength
      obtain ⟨-, hothers⟩ := not_or.1 (List.mem_cons.not.1 hfront)
      by_cases hc : c = '@'
      · subst hc
        obtain ⟨word, back, rfl, hword, hstop⟩ := exists_span isWord front
        have hback : ∀ rest, ∀ c ∈ (back ++ ',' :: rest).head?, isWord c = false := by
          cases back with
          | nil => exact fun rest => head_mark (by decide) rest
          | cons => exact fun _ => hstop
        have hlt : back.length < length := by
          rw [List.length_append] at hlength
          omega
        have hclosed : ')' ∉ back := fun hmem => hothers (List.mem_append_right _ hmem)
        obtain ⟨back', hback'⟩ := ih back.length hlt hclosed rfl
        cases word with
        | nil =>
          refine ⟨'@' :: back', fun rest hrest => ?_⟩
          rw [List.nil_append, List.cons_append, annotationsReplaced_lone image (hback rest), hback' rest hrest]
          rfl
        | cons w word =>
          refine ⟨image ++ back', fun rest hrest => ?_⟩
          have hbehind : ')' ∉ back ++ ',' :: rest := by
            simpa [hclosed] using hrest
          rw [List.cons_append, List.append_assoc,
            annotationsReplaced_word image ⟨List.cons_ne_nil _ _, hword⟩ (hback rest) hbehind, hback' rest hrest,
            List.append_assoc]
      · obtain ⟨front', hfront'⟩ := ih front.length (by omega) hothers rfl
        refine ⟨c :: front', fun rest hrest => ?_⟩
        rw [List.cons_append, annotationsReplaced_other image hc, hfront' rest hrest]
        rfl

/-- a word ends before blanks -/
theorem head_of_blanks {gap : List Char} (hne : gap ≠ []) (h : Blank gap) (rest : List Char) :
    ∀ c ∈ (gap ++ rest).head?, isWord c = false := by
  obtain ⟨b, gap, rfl⟩ := List.exists_cons_of_ne_nil hne
  exact head_mark (isWord_of_isBlank (h b List.mem_cons_self)) _

/-- markers before a parameter, each with the blanks behind it -/
def markersText (markers : List (Mark × List Char)) : List Char := markers.flatMap fun x => x.1.text ++ x.2

/-- markers with blanks between them and what follows -/
def Markers (markers : List (Mark × List Char)) : Prop :=
  ∀ x ∈ markers, (x.1.WellFormed ∧ x.1.IsMarker) ∧ x.2 ≠ [] ∧ Blank x.2

/-- markers are written with their marks, word characters and blanks -/
theorem Markers.chars {markers : List (Mark × List Char)} (h : Markers markers) :
    ∀ c ∈ markersText markers, c = '@' ∨ isWord c = true ∨ isBlank c = true := by
  intro c hc
  obtain ⟨⟨⟨name, arguments⟩, gap⟩, hx, hc⟩ := List.mem_flatMap.1 hc
  obtain ⟨⟨hmark, rfl⟩, -, hgap⟩ := h _ hx
  rw [Mark.text_marker] at hc
  rcases List.mem_append.1 hc with hc | hc
  · exact (List.mem_cons.1 hc).imp_right fun hc => .inl (hmark.name.chars c hc)
  · exact .inr (.inr (hgap c hc))

theorem Markers.not_mem {markers : List (Mark × List Char)} (h : Markers markers) {c : Char} (hmark : c ≠ '@')
    (hword : isWord c = false) (hblank : isBlank c = false) : c ∉ markersText markers := by
  intro hc
  rcases h.chars c hc with hc | hc | hc
  · exact hmark hc
  · exact Bool.false_ne_true (hword.symm.trans hc)
  · exact Bool.false_ne_true (hblank.symm.trans hc)

theorem annotationsReplaced_markers {markers : List (Mark × List Char)} (h : Markers markers) {rest : List Char}
    (hrest : ')' ∉ rest) : annotationsReplaced [] (markersText markers ++ rest) =
      markers.flatMap (·.2) ++ annotationsReplaced [] rest := by
  induction markers with
  | nil => rfl
  | cons x markers ih =>
    obtain ⟨⟨⟨hmark, hmarker⟩, hne, hgap⟩, hothers⟩ := List.forall_mem_cons.1 h
    have hclosed : ')' ∉ x.2 ++ (markersText markers ++ rest) := by
      simp only [List.mem_append, not_or]
      refine ⟨fun hmem => absurd (hgap _ hmem) (by decide), Markers.not_mem hothers ?_ ?_ ?_, hrest⟩ <;> decide
    have hend : x.1.EndsAt (x.2 ++ (markersText markers ++ rest)) :=
      fun _ => ⟨head_of_blanks hne hgap _, not_opensArguments_of_not_mem hclosed⟩
    rw [markersText, List.flatMap_cons, ← markersText, List.flatMap_cons, List.append_assoc, List.append_assoc,
      annotationsReplaced_text [] hmark hmarker.plain hend, annotationsReplaced_append [] (not_at_of_blank hgap),
      ih hothers, List.append_assoc]
    rfl

/-- **Erasing the annotations leaves the blanks behind markers.** -/
theorem spaced_annotationsReplaced {front rest : List Char} {markers : List (Mark × List Char)}
    (hfront : StartsParameter front) (h : Markers markers) (hclosed : ')' ∉ front ++ rest) :
    Spaced (annotationsReplaced [] (front ++ rest))
      (annotationsReplaced [] (front ++ (markersText markers ++ rest))) := by
  obtain ⟨hopen, hrest⟩ := not_or.1 (List.mem_append.not.1 hclosed)
  have hmarkers := annotationsReplaced_markers h hrest
  have hgaps : Blank (markers.flatMap (·.2)) := by
    intro c hc
    obtain ⟨x, hx, hc⟩ := List.mem_flatMap.1 hc
    exact (h x hx).2.2 c hc
  cases hfront with
  | first hlead =>
    rw [annotationsReplaced_append [] (not_at_of_blank hlead), annotationsReplaced_append [] (not_at_of_blank hlead),
      hmarkers]
    exact .more (.first hlead) hgaps
  | @next front lead hlead =>
    have hclosed' : ')' ∉ markersText markers ++ rest := by
      rw [List.mem_append, not_or]
      exact ⟨h.not_mem (by decide) (by decide) (by decide), hrest⟩
    obtain ⟨front', hfront'⟩ := annotationsReplaced_comma [] fun hmem => hopen (List.mem_append_left _ hmem)
    have hlead' : ∀ back, ')' ∉ back → annotationsReplaced [] (front ++ ',' :: lead ++ back) =
        front' ++ ',' :: lead ++ annotationsReplaced [] back := by
      intro back hback
      have hblank : ')' ∉ lead := fun hmem => absurd (hlead _ hmem) (by decide)
      rw [List.append_assoc, List.cons_append, hfront' _ (by simp [hblank, hback]),
        annotationsReplaced_append [] (not_at_of_blank hlead), List.append_assoc, List.cons_append]
    rw [hlead' _ hrest, hlead' _ hclosed', hmarkers]
    exact .more (.next hlead) hgaps

/-- **Markers before a parameter do not change what a list declares**, if no parenthesis closes in the list. -/
theorem parameters_marked {front rest : List Char} {markers : List (Mark × List Char)} (hfront : StartsParameter front)
    (h : Markers markers) (hclosed : ')' ∉ front ++ rest) :
    parameters (String.ofList (front ++ (markersText markers ++ rest))) = parameters (String.ofList (front ++ rest)) := by
  rw [parameters_ofList, parameters_ofList]
  exact (spaced_annotationsReplaced hfront h hclosed).dropped.parameters.symm

end CodeSurvey.Injection
