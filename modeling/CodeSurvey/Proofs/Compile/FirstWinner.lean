/-
Which strategies a compilation runs, and what comes of it.

A `Run` is a strategy on the disk that it finds. `course` lists the runs that a chain makes when no run ends it: each
strategy that applies, on the disk that the runs before it leave. A run wins when it succeeds and leaves compiled
classes.

`compile_eq`: a compilation makes the runs of the course up to and with the first winner, in the order of the chain,
each once, and no other; a strategy that applies on what a front of the chain without a winner leaves is among them
(`ran_append`). The disk at the end is the one that just these runs leave; since strategies are arbitrary
functions of the disk, it shows a run too many or one too few. The result is the winner's name and classes; without a
winner it is a failure with one attempt for each run, or with the one that says that no strategy applies.
-/
import CodeSurvey.Compile.Cascade

namespace CodeSurvey.Cascade

/-! ## Runs -/

/-- a strategy on the disk that it finds -/
structure Run where
  strategy : Strategy
  disk : Disk

namespace Run

variable (depth : Nat) (root : FilePath)

def outcome (r : Run) : Except SurveyError Unit := (r.strategy.run r.disk root).1

/-- the disk that the run leaves -/
def left (r : Run) : Disk := (r.strategy.run r.disk root).2

/-- where compiled classes lie after the run -/
def directories (r : Run) : List FilePath := (r.left root).classDirectories root depth

/-- the run succeeds and leaves compiled classes -/
def wins (r : Run) : Bool := (r.outcome root).toBool && !(r.directories depth root).isEmpty

/-- what is told of a run that does not win -/
def complaint (r : Run) : String :=
  match r.outcome root with
  | .error e => r.strategy.name ++ ": " ++ e.message
  | .ok () => r.strategy.name ++ ": no compiled classes produced"

end Run

/-- every strategy of the chain that applies, on the disk that those before it leave -/
def course (root : FilePath) : List Strategy → Disk → List Run
  | [], _ => []
  | s :: rest, d =>
    if s.applies d root then ⟨s, d⟩ :: course root rest (Run.left root ⟨s, d⟩) else course root rest d

/-- the runs up to and with the first winner, all of them where none wins -/
def upToWinner (depth : Nat) (root : FilePath) : List Run → List Run
  | [] => []
  | r :: rest => if r.wins depth root then [r] else r :: upToWinner depth root rest

/-- the disk after the strategies of the runs have run on it, one after the other -/
def leftBy (root : FilePath) (d : Disk) (rs : List Run) : Disk := rs.foldl (fun d r => (r.strategy.run d root).2) d

/-! ## Runs in the order of the chain -/

variable (depth : Nat) (root : FilePath)

theorem course_sublist (strategies : List Strategy) (d : Disk) :
    ((course root strategies d).map Run.strategy).Sublist strategies := by
  induction strategies generalizing d with
  | nil => exact .slnil
  | cons s rest ih =>
    unfold course
    split
    · exact (ih _).cons_cons s
    · exact (ih d).cons s

/-- Each run of the course starts on the disk that those before it leave, and its strategy applies there. -/
theorem course_chained {strategies : List Strategy} {d : Disk} {before after : List Run} {r : Run}
    (h : course root strategies d = before ++ r :: after) :
    r.disk = leftBy root d before ∧ r.strategy.applies r.disk root = true := by
  induction strategies generalizing d before with
  | nil => simp [course] at h
  | cons s rest ih =>
    unfold course at h
    split at h
    · rename_i happlies
      obtain ⟨rfl, hfirst⟩ | ⟨before, rfl, hrest⟩ := List.cons_eq_append_iff.1 h
      · obtain ⟨rfl, -⟩ := List.cons.inj hfirst
        exact ⟨rfl, happlies⟩
      · have hchained := ih hrest
        exact hchained
    · exact ih h

theorem upToWinner_isFront (rs : List Run) : upToWinner depth root rs <+: rs := by
  induction rs with
  | nil => exact List.prefix_rfl
  | cons r rest ih =>
    unfold upToWinner
    split
    · exact ⟨rest, rfl⟩
    · exact (List.prefix_cons_inj r).2 ih

/-- Before the last run none wins. -/
theorem wins_of_before {rs before after : List Run} {r : Run}
    (h : upToWinner depth root rs = before ++ r :: after) : ∀ b ∈ before, b.wins depth root = false := by
  induction rs generalizing before with
  | nil => simp [upToWinner] at h
  | cons first rest ih =>
    unfold upToWinner at h
    obtain rfl | ⟨b, before, rfl⟩ : before = [] ∨ ∃ b bs, before = b :: bs := by
      cases before <;> simp
    · exact fun b hb => nomatch hb
    · split at h
      · simp at h
      · rename_i hlost
        obtain ⟨rfl, hrest⟩ : first = b ∧ upToWinner depth root rest = before ++ r :: after := List.cons.inj h
        intro b hb
        rcases List.mem_cons.1 hb with rfl | hb
        · simpa using hlost
        · exact ih hrest b hb

/-- the runs that a compilation makes -/
def ran (strategies : List Strategy) (d : Disk) : List Run := upToWinner depth root (course root strategies d)

theorem ran_pass {s : Strategy} {d : Disk} (h : s.applies d root = false) (rest : List Strategy) :
    ran depth root (s :: rest) d = ran depth root rest d := by
  simp [ran, course, h]

theorem ran_run {s : Strategy} {d : Disk} (h : s.applies d root = true) (rest : List Strategy) :
    ran depth root (s :: rest) d =
      if Run.wins depth root ⟨s, d⟩ then [⟨s, d⟩] else ⟨s, d⟩ :: ran depth root rest (Run.left root ⟨s, d⟩) := by
  simp [ran, course, h, upToWinner]

/-- Where the front of the chain has no winner, the rest of it runs on what the front leaves. -/
theorem ran_append (front rest : List Strategy) (d : Disk)
    (h : ∀ r ∈ ran depth root front d, r.wins depth root = false) :
    ran depth root (front ++ rest) d =
      ran depth root front d ++ ran depth root rest (leftBy root d (ran depth root front d)) := by
  induction front generalizing d with
  | nil => rfl
  | cons s front ih =>
    rw [List.cons_append]
    cases happlies : s.applies d root with
    | false =>
      rw [ran_pass depth root happlies] at h ⊢
      rw [ran_pass depth root happlies, ih d h]
    | true =>
      rw [ran_run depth root happlies] at h ⊢
      rw [ran_run depth root happlies]
      cases hwins : Run.wins depth root ⟨s, d⟩ with
      | true =>
        rw [hwins, if_pos rfl] at h
        exact absurd hwins (by simp [h _ (List.mem_singleton_self _)])
      | false =>
        rw [hwins, if_neg Bool.false_ne_true] at h
        rw [if_neg Bool.false_ne_true, if_neg Bool.false_ne_true, ih _ fun r hr => h r (List.mem_cons_of_mem _ hr)]
        rfl

theorem ran_sublist (strategies : List Strategy) (d : Disk) :
    ((ran depth root strategies d).map Run.strategy).Sublist strategies :=
  ((upToWinner_isFront depth root _).sublist.map _).trans (course_sublist root strategies d)

/-! ## One run -/

/-- the result after runs, behind the attempts that failed before them -/
def resultOf (attempts : List String) (rs : List Run) : Except SurveyError CompiledOutput :=
  match rs.find? (·.wins depth root) with
  | some r => .ok ⟨r.strategy.name, r.directories depth root⟩
  | none => .error (failure (attempts ++ rs.map (Run.complaint root)))

variable {depth root}

theorem resultOf_lost {r : Run} (h : r.wins depth root = false) (attempts : List String) (rs : List Run) :
    resultOf depth root attempts (r :: rs) = resultOf depth root (attempts ++ [r.complaint root]) rs := by
  unfold resultOf
  rw [List.find?_cons_of_neg (by simp [h]), List.map_cons, List.append_assoc, List.singleton_append]

/-- A strategy that applies ends the cascade when its run wins, and adds its complaint when not. -/
theorem tryAll_run {s : Strategy} {d : Disk} (h : s.applies d root = true) (attempts : List String)
    (rest : List Strategy) : tryAll depth root attempts (s :: rest) d =
      if Run.wins depth root ⟨s, d⟩ then
        (.ok ⟨s.name, Run.directories depth root ⟨s, d⟩⟩, Run.left root ⟨s, d⟩)
      else tryAll depth root (attempts ++ [Run.complaint root ⟨s, d⟩]) rest (Run.left root ⟨s, d⟩) := by
  unfold Run.wins Run.complaint Run.directories Run.left Run.outcome
  rw [tryAll, if_neg (by simp [h])]
  cases s.run d root with
  | mk outcome left =>
    cases outcome with
    | error e => rfl
    | ok _ =>
      cases hd : left.classDirectories root depth with
      | nil => simp [Except.toBool, hd]
      | cons first others => simp [Except.toBool, hd]

/-! ## A whole chain -/

/-- A cascade makes the runs up to the first winner and no other. -/
theorem tryAll_eq (strategies : List Strategy) (attempts : List String) (d : Disk) :
    tryAll depth root attempts strategies d =
      (resultOf depth root attempts (ran depth root strategies d), leftBy root d (ran depth root strategies d)) := by
  induction strategies generalizing attempts d with
  | nil =>
    unfold tryAll resultOf
    simp [ran, course, upToWinner, leftBy]
  | cons s rest ih =>
    cases h : s.applies d root with
    | false =>
      have hskip : tryAll depth root attempts (s :: rest) d = tryAll depth root attempts rest d := by simp [tryAll, h]
      rw [ran_pass depth root h, hskip, ih]
    | true =>
      rw [tryAll_run h, ran_run depth root h]
      cases hwins : Run.wins depth root ⟨s, d⟩ with
      | true =>
        rw [if_pos rfl, if_pos rfl, resultOf, List.find?_cons_of_pos hwins]
        rfl
      | false =>
        rw [if_neg Bool.false_ne_true, if_neg Bool.false_ne_true, ih, resultOf_lost hwins]
        rfl

/-- **A compilation makes the runs up to the first winner.** They stand in the order of the chain, each on the disk that
those before it leave, and no run before the last one wins; a strategy that applies behind a front without a winner is
run; and the result and the disk are what these runs make. -/
theorem compile_eq (strategies : List Strategy) (depth : Nat) (root : FilePath) (d : Disk)
    (h : d.isDirectory root = true) :
    let made := ran depth root strategies d
    (made.map Run.strategy).Sublist strategies ∧
      (∀ before r after, made = before ++ r :: after →
        r.disk = leftBy root d before ∧ r.strategy.applies r.disk root = true ∧
          ∀ b ∈ before, b.wins depth root = false) ∧
      (∀ front s rest, strategies = front ++ s :: rest → (∀ r ∈ ran depth root front d, r.wins depth root = false) →
        s.applies (leftBy root d (ran depth root front d)) root = true →
          ⟨s, leftBy root d (ran depth root front d)⟩ ∈ made) ∧
      compile strategies depth root d =
        (match made.find? (·.wins depth root) with
          | some r => .ok ⟨r.strategy.name, r.directories depth root⟩
          | none => .error (.compilationFailed (if made = [] then [noStrategy] else made.map (Run.complaint root))),
        leftBy root d made) := by
  refine ⟨ran_sublist depth root strategies d, ?_, ?_, ?_⟩
  · intro before r after hmade
    obtain ⟨later, hcourse⟩ := upToWinner_isFront depth root (course root strategies d)
    rw [show upToWinner depth root (course root strategies d) = before ++ r :: after from hmade, List.append_assoc,
      List.cons_append] at hcourse
    obtain ⟨hdisk, happlies⟩ := course_chained root hcourse.symm
    exact ⟨hdisk, happlies, wins_of_before depth root hmade⟩
  · intro front s rest hchain hlost happlies
    have hsplit : ran depth root strategies d = ran depth root front d ++
        ran depth root (s :: rest) (leftBy root d (ran depth root front d)) := by
      rw [hchain, ran_append depth root front (s :: rest) d hlost]
    rw [hsplit, ran_run depth root happlies]
    apply List.mem_append_right
    split
    · exact List.mem_singleton_self _
    · exact List.mem_cons_self
  · rw [compile, if_pos h, tryAll_eq]
    unfold resultOf failure
    simp

/-! ## A chain of four -/

/-- a disk with a module and nothing in it -/
def bareDisk : Disk where
  tree := ⟨Ordered.empty.insert ["m"] .directory⟩
  here := []
  home := none
  programs := []
  temp := []
  executable := []

def bareModule : FilePath := .ofText "m"

/-- the disk with an empty file at the place -/
def withFile (d : Disk) (place : Place) : Disk := { d with tree := d.tree.put place (.file []) }

/-- the disk with a class in the module -/
def withClass (d : Disk) : Disk :=
  let tree := (d.tree.put ["m", "target"] .directory).put ["m", "target", "classes"] .directory
  withFile { d with tree } ["m", "target", "classes", "A.class"]

/-- the first strategy never applies; the second leaves a note and fails; the third applies where the note is and leaves
a class; the fourth would remove the note -/
def noteChain : List Strategy :=
  [⟨"absent", fun _ _ => false, fun d _ => (.ok (), d)⟩,
    ⟨"broken", fun _ _ => true, fun d _ => (.error (.buildAttempt "no"), withFile d ["m", "note"])⟩,
    ⟨"late", fun d _ => (d.tree.entryAt? ["m", "note"]).isSome, fun d _ => (.ok (), withClass d)⟩,
    ⟨"last", fun _ _ => true, fun d _ => (.ok (), { d with tree := d.tree.cut ["m", "note"] })⟩]

theorem compile_noteChain :
    bareDisk.isDirectory bareModule = true ∧
      ((ran 4 bareModule noteChain bareDisk).map fun r => r.strategy.name) = ["broken", "late"] ∧
      compile noteChain 4 bareModule bareDisk =
        (.ok ⟨"late", [bareModule.descend ["target", "classes"]]⟩,
          leftBy bareModule bareDisk (ran 4 bareModule noteChain bareDisk)) := by
  have hroot : bareDisk.isDirectory bareModule = true := by decide +kernel
  have hwinner : ((ran 4 bareModule noteChain bareDisk).find? (·.wins 4 bareModule)).map
      (fun r => CompiledOutput.mk r.strategy.name (r.directories 4 bareModule)) =
        some ⟨"late", [bareModule.descend ["target", "classes"]]⟩ := by decide +kernel
  obtain ⟨r, hr, houtput⟩ := Option.map_eq_some_iff.1 hwinner
  obtain ⟨-, -, -, hcompile⟩ := compile_eq noteChain 4 bareModule bareDisk hroot
  refine ⟨hroot, by decide +kernel, ?_⟩
  rw [hcompile, hr, ← houtput]

end CodeSurvey.Cascade
