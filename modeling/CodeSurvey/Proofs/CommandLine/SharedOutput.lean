/-
Reports of several projects in one output directory.

Each project of a run gets a directory below the common one, named by the last name of the place that the project's path
leads to (`isName_projectName`, `IsTurn.place_eq`). A handoff writes a `report.json` there and at no other place
one level below the common directory (`report_writeTo`), so while builds leave these files alone, the report of a
project stands until a project of the same name is handed over (`kept_of_names`).

`execute_reports_iff`: every project of a run that succeeds has a directory and its own report in it just when the
projects have different names. Different places are not enough: `execute_sameName` is a run over two of them.
-/
import CodeSurvey.CommandLine.Outcome
import CodeSurvey.Proofs.Analysis.Effects
import CodeSurvey.Proofs.Report.Artifacts

namespace CodeSurvey

open Text

/-! ## Names of projects -/

namespace FilePath

theorem name_of_mem_components {p : FilePath} (hnames : ∀ name ∈ p.names, IsName name) {name : String}
    (h : .name name ∈ p.components) : IsName name := by
  rcases List.mem_append.1 h with hhead | hbelow
  · simp only [componentsOfText] at hhead
    have hstep : .name name ∈ (split p.head '/').filterMap component? := by
      split at hhead
      · simpa using hhead
      · split at hhead
        · simpa using hhead
        · exact hhead
    exact isName_of_mem_split (List.mem_filterMap.1 hstep)
  · obtain ⟨below, hmem, heq⟩ := List.mem_map.1 hbelow
    obtain rfl : below = name := by simpa using heq
    exact hnames below hmem

end FilePath

namespace Disk

theorem mem_foldl_stepTarget {steps : List Component} {place : Place} {name : String}
    (h : name ∈ steps.foldl stepTarget place) : name ∈ place ∨ .name name ∈ steps := by
  induction steps generalizing place with
  | nil => exact .inl h
  | cons c steps ih =>
    rcases ih h with hplace | hsteps
    · cases c with
      | root => cases hplace
      | here => exact .inl hplace
      | up => exact .inl (List.mem_of_mem_dropLast hplace)
      | name s =>
        rcases List.mem_append.1 hplace with hold | hnew
        · exact .inl hold
        · exact .inr (List.mem_singleton.1 hnew ▸ List.mem_cons_self)
    · exact .inr (List.mem_cons_of_mem _ hsteps)

end Disk

namespace CommandLine

open FilePath (IsName)

/-- a path that is made of names, read in a directory that is reached by names -/
structure Named (d : Disk) (p : FilePath) : Prop where
  here : ∀ name ∈ d.here, IsName name
  below : ∀ name ∈ p.names, IsName name

/-- The name of a project is a plain name. -/
theorem isName_projectName {d : Disk} {p : FilePath} (h : Named d p) : IsName (projectName d p) := by
  have hfile : IsName (p.fileName.getD "project") := by
    cases hname : p.fileName with
    | none => decide
    | some name =>
      refine FilePath.name_of_mem_components h.below ?_
      unfold FilePath.fileName at hname
      split at hname
      · rename_i s hlast
        obtain rfl := Option.some.inj hname
        exact List.mem_of_getLast? hlast
      · cases hname
  unfold projectName
  dsimp only
  split
  · cases hplace : d.locate p with
    | error fault => exact hfile
    | ok place =>
      cases hlast : place.getLast? with
      | none => simpa [hplace, Except.toOption, hlast] using hfile
      | some name =>
        have hmem : name ∈ d.target p := (Disk.target_of_locate hplace) ▸ List.mem_of_getLast? hlast
        have hname : IsName name :=
          (Disk.mem_foldl_stepTarget hmem).elim (h.here name) (FilePath.name_of_mem_components h.below)
        simpa [hplace, Except.toOption, hlast] using hname
  · exact hfile

theorem target_join_name (d : Disk) (base : FilePath) {name : String} (h : IsName name) :
    d.target (base.join name) = d.target base ++ [name] := by
  rw [Disk.target_join (by rw [h.split_eq]; simpa using h.1), h.split_eq]

/-! ## Turns of a run -/

/-- one project's turn in a run -/
structure Turn where
  root : FilePath
  /-- the disk before the turn -/
  before : Disk
  /-- the disk after the analysis -/
  analyzed : Disk
  report : Report
  /-- the disk after the handoff -/
  left : Disk

namespace Turn

/-- the name that the project's directory gets -/
def name (t : Turn) : String := projectName t.analyzed t.root

/-- the directory of the project's report -/
def directory (base : FilePath) (t : Turn) : FilePath := reportDirectory t.analyzed base true t.root

theorem directory_eq (base : FilePath) (t : Turn) : t.directory base = base.join t.name := by
  rw [directory, reportDirectory, if_pos rfl]
  rfl

/-- the place of the project's directory -/
def place (base : FilePath) (t : Turn) : Place := t.analyzed.target (t.directory base)

end Turn

/-- the turn of a project, if its analysis and its handoff succeed -/
def turn? (base : FilePath) (options : RunOptions) (s : Surveyor) (d : Disk) (p : FilePath) : Option Turn :=
  match s.analyze d p options with
  | (.error _, _, _) => none
  | (.ok r, _, analyzed) =>
    match r.writeTo (reportDirectory analyzed base true p) analyzed with
    | (.error _, _) => none
    | (.ok (), left) => some ⟨p, d, analyzed, r, left⟩

/-- the turns of a run over several projects, up to the first one that fails -/
def turns (base : FilePath) (options : RunOptions) : List FilePath → Surveyor → Disk → List Turn
  | [], _, _ => []
  | p :: more, s, d =>
    match turn? base options s d p with
    | none => []
    | some t => t :: turns base options more (s.record p) t.left

/-- a turn starts on the disk, analyzes the project and hands its report over -/
structure IsTurn (base : FilePath) (options : RunOptions) (s : Surveyor) (d : Disk) (t : Turn) : Prop where
  before : t.before = d
  analysis : s.analyze d t.root options = (.ok t.report, s.record t.root, t.analyzed)
  handoff : t.report.writeTo (t.directory base) t.analyzed = (.ok (), t.left)

/-- A run that succeeds has a turn for its first project, and the rest of it succeeds. -/
theorem exists_turn {base : FilePath} {options : RunOptions} {printed : String} {p : FilePath} {more : List FilePath}
    {s : Surveyor} {d : Disk} (h : (analyzeAll base true options printed (p :: more) s d).status = 0) :
    ∃ t printed', t.root = p ∧ IsTurn base options s d t ∧
      turns base options (p :: more) s d = t :: turns base options more (s.record p) t.left ∧
      analyzeAll base true options printed (p :: more) s d =
        analyzeAll base true options printed' more (s.record p) t.left := by
  have hsurveyor : (s.analyze d p options).2.1 = s.record p := s.analyze_surveyor d p options
  cases hanalysis : s.analyze d p options with
  | mk outcome rest =>
    obtain ⟨next, analyzed⟩ := rest
    rw [hanalysis] at hsurveyor
    obtain rfl : next = s.record p := hsurveyor
    cases outcome with
    | error e => simp [analyzeAll, hanalysis, Outcome.failure] at h
    | ok r =>
      cases hhandoff : r.writeTo (reportDirectory analyzed base true p) analyzed with
      | mk written left =>
        cases written with
        | error e => simp [analyzeAll, hanalysis, hhandoff, Outcome.failure] at h
        | ok u =>
          have hturn : turn? base options s d p = some ⟨p, d, analyzed, r, left⟩ := by
            simp only [turn?, hanalysis, hhandoff]
          refine ⟨⟨p, d, analyzed, r, left⟩, printed ++ summary r, rfl, ⟨rfl, hanalysis, hhandoff⟩, ?_, ?_⟩
          · rw [turns, hturn]
          · simp only [analyzeAll, hanalysis, hhandoff]

/-! ## Reports below the common directory -/

/-- what stands as the report of a name -/
def reportAt (base : FilePath) (d : Disk) (name : String) : Option Entry :=
  d.artifact? (base.child name) "report.json"

theorem reportAt_eq (base : FilePath) (d : Disk) (name : String) :
    reportAt base d name = d.tree.entryAt? (d.target base ++ [name] ++ ["report.json"]) := by
  rw [reportAt, Disk.artifact?, Report.target_child, Report.target_child]

/-- Of the documents of a report only the report itself has its name. -/
theorem documentsAt_report (d : Disk) (r : Report) (output : FilePath) (q : Place) :
    HandoffStep.documentsAt d (q ++ ["report.json"]) (r.handoff output) =
      if d.target output = q then [r.document] else [] := by
  have hmodules :
      HandoffStep.documentsAt d (q ++ ["report.json"]) (r.modules.flatMap fun m => m.handoff output) = [] := by
    rw [HandoffStep.documentsAt, List.filterMap_flatMap, List.flatMap_eq_nil_iff]
    intro m _
    have hnone : (m.handedOver.filterMap fun e => if e.1 = "report.json" then some e.2 else none) = [] := by
      rw [List.filterMap_eq_nil_iff]
      intro e he
      have hname : e.1 ∈ Report.handedNames m := List.mem_map_of_mem he
      refine if_neg fun heq => ?_
      rw [heq] at hname
      rcases Report.handedNames_cases m with h | h | h <;> (rw [h] at hname; exact absurd hname (by decide))
    have hmodule := Report.documentsAt_module d m output q "report.json"
    rw [hnone, ite_self] at hmodule
    exact hmodule
  have hstack : d.target (output.child "tech-stack.json") ≠ q ++ ["report.json"] := by
    rw [Report.target_child]
    exact fun heq => absurd (List.singleton_inj.1 (List.append_inj' heq rfl).2) (by decide)
  have hreport : d.target (output.child "report.json") = q ++ ["report.json"] ↔ d.target output = q := by
    rw [Report.target_child, List.append_left_inj]
  rw [Report.handoff, HandoffStep.documentsAt, List.filterMap_append]
  rw [HandoffStep.documentsAt] at hmodules
  rw [hmodules, List.append_nil]
  simp only [List.filterMap_cons, List.filterMap_nil, HandoffStep.documentAt?, if_neg hstack]
  by_cases hq : d.target output = q
  · rw [if_pos hq, if_pos (hreport.2 hq)]
  · rw [if_neg hq, if_neg (mt hreport.1 hq)]

/-- what an empty place may turn into while what stands elsewhere stays -/
def StaysOrOpens (before after : Option Entry) : Prop := after = before ∨ (before = none ∧ after = some .directory)

/-- A handoff writes its report into its directory, and takes no other report away. -/
theorem report_writeTo {d d' : Disk} {r : Report} {output : FilePath} (hok : r.writeTo output d = (.ok (), d')) :
    d'.here = d.here ∧ ∀ q,
      (d.target output = q → d'.tree.entryAt? (q ++ ["report.json"]) =
        some (.written (d.tree.entryAt? (q ++ ["report.json"])) (encode r.document.pretty))) ∧
      (d.target output ≠ q →
        StaysOrOpens (d.tree.entryAt? (q ++ ["report.json"])) (d'.tree.entryAt? (q ++ ["report.json"]))) := by
  obtain ⟨⟨t, rfl⟩, hleave⟩ := HandoffStep.applyAll_entry hok
  refine ⟨rfl, fun q => ?_⟩
  have hplace := hleave (q ++ ["report.json"])
  unfold HandoffStep.Leave at hplace
  rw [documentsAt_report] at hplace
  constructor
  · intro hq
    rw [if_pos hq] at hplace
    exact hplace
  · intro hq
    rw [if_neg hq] at hplace
    exact hplace.imp_right fun ⟨hnone, hnew, _⟩ => ⟨hnone, hnew⟩

/-- the builds of the turns leave the reports of the names as they are, and no place of theirs keeps nothing -/
structure Undisturbed (base : FilePath) (names : List String) (d : Disk) (ts : List Turn) : Prop where
  solid : ∀ name ∈ names, reportAt base d name ≠ some .void
  kept : ∀ t ∈ ts, ∀ name ∈ names, reportAt base t.analyzed name = reportAt base t.before name

instance (base : FilePath) (names : List String) (d : Disk) (ts : List Turn) :
    Decidable (Undisturbed base names d ts) :=
  decidable_of_iff ((∀ name ∈ names, reportAt base d name ≠ some .void) ∧
      ∀ t ∈ ts, ∀ name ∈ names, reportAt base t.analyzed name = reportAt base t.before name)
    ⟨fun h => ⟨h.1, h.2⟩, fun h => ⟨h.solid, h.kept⟩⟩

section

variable {base : FilePath} {options : RunOptions} {s : Surveyor} {d : Disk} {t : Turn}

theorem IsTurn.here (h : IsTurn base options s d t) : t.analyzed.here = d.here ∧ t.left.here = d.here := by
  have hanalyzed := s.analyze_here d t.root options
  rw [h.analysis] at hanalyzed
  exact ⟨hanalyzed, (report_writeTo h.handoff).1.trans hanalyzed⟩

theorem IsTurn.named (h : IsTurn base options s d t) (hnamed : Named d t.root) : Named t.analyzed t.root :=
  ⟨fun name hname => hnamed.here name (h.here.1 ▸ hname), hnamed.below⟩

theorem target_of_here {d d' : Disk} (h : d'.here = d.here) (p : FilePath) : d'.target p = d.target p := by
  rw [Disk.target_eq, Disk.target_eq, h]

theorem IsTurn.place_eq (h : IsTurn base options s d t) (hnamed : Named d t.root) :
    t.place base = d.target base ++ [t.name] := by
  have hname : IsName t.name := isName_projectName (h.named hnamed)
  rw [Turn.place, Turn.directory_eq, target_join_name _ _ hname, target_of_here h.here.1]

/-- A turn writes the report of its own name, and takes no other report away. -/
theorem IsTurn.report (h : IsTurn base options s d t) (hnamed : Named d t.root) {name : String}
    (hkept : reportAt base t.analyzed name = reportAt base t.before name) :
    (t.name = name →
      reportAt base t.left name = some (.written (reportAt base d name) (encode t.report.document.pretty))) ∧
    (t.name ≠ name → StaysOrOpens (reportAt base d name) (reportAt base t.left name)) := by
  obtain ⟨hown, hother⟩ := (report_writeTo h.handoff).2 (d.target base ++ [name])
  have hdirectory : t.analyzed.target (t.directory base) = d.target base ++ [name] ↔ t.name = name := by
    have hplace : t.analyzed.target (t.directory base) = d.target base ++ [t.name] := h.place_eq hnamed
    rw [hplace, List.append_right_inj, List.singleton_inj]
  have hleft : reportAt base t.left name = t.left.tree.entryAt? (d.target base ++ [name] ++ ["report.json"]) := by
    rw [reportAt_eq, target_of_here h.here.2]
  have hanalyzed : reportAt base d name = t.analyzed.tree.entryAt? (d.target base ++ [name] ++ ["report.json"]) := by
    rw [← h.before, ← hkept, reportAt_eq, target_of_here h.here.1, h.before]
  rw [hleft, hanalyzed]
  exact ⟨fun hname => hown (hdirectory.2 hname), fun hname => hother (mt hdirectory.1 hname)⟩

theorem IsTurn.undisturbed (h : IsTurn base options s d t) (hnamed : Named d t.root) {names : List String}
    {ts : List Turn} (hcalm : Undisturbed base names d (t :: ts)) : Undisturbed base names t.left ts := by
  refine ⟨fun name hmem hvoid => ?_, fun t' ht' => hcalm.kept t' (List.mem_cons_of_mem _ ht')⟩
  obtain ⟨hown, hother⟩ := h.report hnamed (hcalm.kept t List.mem_cons_self name hmem)
  by_cases hname : t.name = name
  · have hwritten := hown hname
    simp [hvoid, Entry.written, hcalm.solid name hmem] at hwritten
  · rcases hother hname with hsame | ⟨-, hnew⟩
    · exact hcalm.solid name hmem (hsame.symm.trans hvoid)
    · cases hvoid.symm.trans hnew

theorem Named.next (h : IsTurn base options s d t) {p : FilePath} (hnamed : Named d p) : Named t.left p :=
  ⟨fun name hname => hnamed.here name (h.here.2 ▸ hname), hnamed.below⟩

/-! ## Reports after a run -/

variable {printed : String} {paths : List FilePath}

/-- A run that succeeds has one turn for each project, and all directories lie below the common one. -/
theorem turns_of_success (hnamed : ∀ p ∈ paths, Named d p)
    (hok : (analyzeAll base true options printed paths s d).status = 0) :
    (turns base options paths s d).map (·.root) = paths ∧
      (analyzeAll base true options printed paths s d).disk.here = d.here ∧
      ∀ t ∈ turns base options paths s d, t.place base = d.target base ++ [t.name] ∧ IsName t.name := by
  induction paths generalizing printed s d with
  | nil => exact ⟨rfl, rfl, by simp [turns]⟩
  | cons p more ih =>
    obtain ⟨t, printed', rfl, hturn, hturns, hrun⟩ := exists_turn hok
    obtain ⟨hroot, hmore⟩ := List.forall_mem_cons.1 hnamed
    rw [hrun] at hok
    obtain ⟨hroots, hhere, hplaces⟩ := ih (fun p hp => (hmore p hp).next hturn) hok
    rw [hturns, hrun]
    refine ⟨by rw [List.map_cons, hroots], hhere.trans hturn.here.2, List.forall_mem_cons.2 ⟨?_, fun t' ht' => ?_⟩⟩
    · exact ⟨hturn.place_eq hroot, isName_projectName (hturn.named hroot)⟩
    · rw [← target_of_here hturn.here.2]
      exact hplaces t' ht'

/-- A report stands until a project of its name has its turn. -/
theorem kept_of_names (hnamed : ∀ p ∈ paths, Named d p) {names : List String}
    (hcalm : Undisturbed base names d (turns base options paths s d))
    (hok : (analyzeAll base true options printed paths s d).status = 0) {name : String} (hmem : name ∈ names) {e : Entry}
    (hstands : reportAt base d name = some e) (hother : ∀ t ∈ turns base options paths s d, t.name ≠ name) :
    reportAt base (analyzeAll base true options printed paths s d).disk name = some e := by
  induction paths generalizing printed s d with
  | nil => exact hstands
  | cons p more ih =>
    obtain ⟨t, printed', rfl, hturn, hturns, hrun⟩ := exists_turn hok
    obtain ⟨hroot, hmore⟩ := List.forall_mem_cons.1 hnamed
    rw [hrun] at hok ⊢
    rw [hturns] at hcalm hother
    obtain ⟨hfirst, hrest⟩ := List.forall_mem_cons.1 hother
    refine ih (fun p hp => (hmore p hp).next hturn) (hturn.undisturbed hroot hcalm) hok ?_ hrest
    rcases (hturn.report hroot (hcalm.kept t List.mem_cons_self name hmem)).2 hfirst with hsame | ⟨hnone, -⟩
    · exact hsame.trans hstands
    · cases hstands.symm.trans hnone

/-- **The report of a name is that of the last project of the name.** -/
theorem report_of_last (hnamed : ∀ p ∈ paths, Named d p) {names : List String}
    (hcalm : Undisturbed base names d (turns base options paths s d))
    (hok : (analyzeAll base true options printed paths s d).status = 0) {front back : List Turn} {t : Turn}
    (hmem : t.name ∈ names) (hsplit : turns base options paths s d = front ++ t :: back)
    (hlast : ∀ t' ∈ back, t'.name ≠ t.name) :
    reportAt base (analyzeAll base true options printed paths s d).disk t.name =
      some (.file (encode t.report.document.pretty)) := by
  induction paths generalizing printed s d front with
  | nil => exact absurd hsplit.symm (by simp [turns])
  | cons p more ih =>
    obtain ⟨first, printed', rfl, hturn, hturns, hrun⟩ := exists_turn hok
    obtain ⟨hroot, hmore⟩ := List.forall_mem_cons.1 hnamed
    have hnext : ∀ p ∈ more, Named first.left p := fun p hp => (hmore p hp).next hturn
    rw [hrun] at hok ⊢
    rw [hturns] at hcalm hsplit
    have hrest := hturn.undisturbed hroot hcalm
    cases front with
    | cons other front =>
      obtain ⟨rfl, htail⟩ := List.cons.inj hsplit
      exact ih hnext hrest hok htail
    | nil =>
      obtain ⟨rfl, rfl⟩ := List.cons.inj hsplit
      have hwritten := (hturn.report hroot (hcalm.kept first List.mem_cons_self first.name hmem)).1 rfl
      rw [Entry.written, if_neg (hcalm.solid first.name hmem)] at hwritten
      exact kept_of_names hnext hrest hok hmem hwritten hlast

/-- **Every project of a run that succeeds has a directory with its own report just when no two have the same name.**
The directory of a project lies below the common one, and of several projects of one name the last one's report stands
there. -/
theorem execute_reports_iff {output : Option FilePath} (hbase : output.getD s.config.general.outputDir = base)
    (hseveral : 1 < paths.length) (hnamed : ∀ p ∈ paths, Named d p)
    (hok : (execute (.analyze paths output options) s d).status = 0)
    (hcalm : Undisturbed base ((turns base options paths s d).map (·.name)) d (turns base options paths s d)) :
    let ts := turns base options paths s d
    let after := (execute (.analyze paths output options) s d).disk
    ts.map (·.root) = paths ∧ (∀ t ∈ ts, t.place base = d.target base ++ [t.name]) ∧
      (∀ front t back, ts = front ++ t :: back → (∀ t' ∈ back, t'.name ≠ t.name) →
        after.Holds (t.directory base) "report.json" t.report.document) ∧
      (((ts.map (·.place base)).Nodup ∧ ∀ t ∈ ts, after.Holds (t.directory base) "report.json" t.report.document) ↔
        (ts.map (·.name)).Nodup) := by
  intro ts after
  have hexecute : execute (.analyze paths output options) s d = analyzeAll base true options "" paths s d := by
    simp only [execute, hseveral, decide_true, hbase]
  rw [hexecute] at hok
  have hafter : after = (analyzeAll base true options "" paths s d).disk := congrArg Outcome.disk hexecute
  obtain ⟨hroots, hhere, hplaces⟩ := turns_of_success hnamed hok
  have hholds : ∀ t ∈ turns base options paths s d, (after.Holds (t.directory base) "report.json" t.report.document ↔
      reportAt base after t.name = some (.file (encode t.report.document.pretty))) := by
    intro t ht
    have hplace := target_join_name after base (hplaces t ht).2
    rw [Disk.Holds, Disk.artifact?, Report.target_child, t.directory_eq, hplace, reportAt_eq]
  have hlast : ∀ front t back, turns base options paths s d = front ++ t :: back → (∀ t' ∈ back, t'.name ≠ t.name) →
      after.Holds (t.directory base) "report.json" t.report.document := by
    intro front t back hsplit hback
    have ht : t ∈ turns base options paths s d := hsplit ▸ List.mem_append_right _ List.mem_cons_self
    rw [hholds t ht, hafter]
    exact report_of_last hnamed hcalm hok (List.mem_map_of_mem ht) hsplit hback
  refine ⟨hroots, fun t ht => (hplaces t ht).1, hlast, ?_⟩
  have hmap : (turns base options paths s d).map (·.place base) =
      ((turns base options paths s d).map (·.name)).map fun name => d.target base ++ [name] := by
    rw [List.map_map]
    exact List.map_congr_left fun t ht => (hplaces t ht).1
  rw [hmap]
  constructor
  · exact fun h => List.Nodup.of_map _ h.1
  · intro hnames
    refine ⟨hnames.map fun a b heq => List.singleton_inj.1 (List.append_cancel_left heq), fun t ht => ?_⟩
    obtain ⟨front, back, hsplit⟩ := List.append_of_mem ht
    refine hlast front t back hsplit fun t' ht' heq => ?_
    rw [hsplit, List.map_append, List.map_cons] at hnames
    have hnot := (List.nodup_cons.1 (List.nodup_append.1 hnames).2.1).1
    exact hnot (heq ▸ List.mem_map_of_mem ht')

end

/-! ## Two runs over two projects -/

/-- a disk with the directories `a/app`, `b/app` and `b/web` -/
def twoParents : Disk where
  tree := ⟨Ordered.ofList [(["a"], .directory), (["a", "app"], .directory), (["b"], .directory),
    (["b", "app"], .directory), (["b", "web"], .directory)]⟩
  here := []
  home := none
  programs := []
  temp := []
  executable := []

def options : RunOptions := ⟨true, false⟩

theorem named_ofText (path : String) : Named twoParents (.ofText path) :=
  ⟨fun _ h => absurd h List.not_mem_nil, fun _ h => absurd h List.not_mem_nil⟩

/-- Where there is nothing to build with, the analyses of a run change nothing. -/
theorem analyzed_of_bare {base : FilePath} {options : RunOptions} (hsingle : options.singleModule = true)
    {paths : List FilePath} {s : Surveyor} {d : Disk}
    (h : ∀ t ∈ turns base options paths s d, t.before.Bare t.root) :
    ∀ t ∈ turns base options paths s d, t.analyzed = t.before := by
  induction paths generalizing s d with
  | nil => simp [turns]
  | cons p more ih =>
    cases hturn : turn? base options s d p with
    | none => simp [turns, hturn]
    | some t =>
      have hturns : turns base options (p :: more) s d = t :: turns base options more (s.record p) t.left := by
        rw [turns, hturn]
      have hstart : t.before = d ∧ t.root = p ∧ t.analyzed = (s.analyze d p options).2.2 := by
        unfold turn? at hturn
        split at hturn
        · cases hturn
        · rename_i heq
          split at hturn
          · cases hturn
          · obtain rfl := Option.some.inj hturn
            exact ⟨rfl, rfl, by rw [heq]⟩
      rw [hturns] at h ⊢
      obtain ⟨hfirst, hrest⟩ := List.forall_mem_cons.1 h
      refine List.forall_mem_cons.2 ⟨?_, ih hrest⟩
      rw [hstart.1, hstart.2.1] at hfirst
      rw [hstart.2.2, hstart.1, s.analyze_bare hsingle hfirst]

/-- the projects have different names, so both reports are there -/
theorem execute_twoNames :
    let base := FilePath.ofText "out"
    let paths := [FilePath.ofText "a/app", .ofText "./b/web/"]
    let ts := turns base options paths (.ofConfig .default) twoParents
    let outcome := execute (.analyze paths (some base) options) (.ofConfig .default) twoParents
    outcome.status = 0 ∧ ts.map (·.name) = ["app", "web"] ∧ (ts.map (·.place base)).Nodup ∧
      ∀ t ∈ ts, outcome.disk.Holds (t.directory base) "report.json" t.report.document := by
  intro base paths ts outcome
  have hnamed : ∀ p ∈ paths, Named twoParents p := by
    intro p hp
    simp only [paths, List.mem_cons, List.not_mem_nil, or_false] at hp
    rcases hp with rfl | rfl <;> exact named_ofText _
  have hrun : outcome.status = 0 ∧ ts.map (·.name) = ["app", "web"] ∧ ∀ t ∈ ts, t.before.Bare t.root := by
    decide +kernel
  obtain ⟨hok, hnames, hbare⟩ := hrun
  have hcalm : Undisturbed base (ts.map (·.name)) twoParents ts := by
    refine ⟨?_, fun t ht name _ => by rw [analyzed_of_bare rfl hbare t ht]⟩
    rw [hnames]
    decide +kernel
  have hbase : (some base).getD (Surveyor.ofConfig .default).config.general.outputDir = base := rfl
  have hdifferent : (ts.map (·.name)).Nodup := by rw [hnames]; decide
  obtain ⟨-, -, -, hreports⟩ := execute_reports_iff hbase (by decide) hnamed hok hcalm
  exact ⟨hok, hnames, hreports.2 hdifferent⟩

/-- the projects lie at two places and have one name, so the run says that it succeeded and the first report is gone -/
theorem execute_sameName :
    let base := FilePath.ofText "out"
    let paths := [FilePath.ofText "a/app", .ofText "b/app"]
    let ts := turns base options paths (.ofConfig .default) twoParents
    let outcome := execute (.analyze paths (some base) options) (.ofConfig .default) twoParents
    (paths.map fun p => (twoParents.locate p).toOption) = [some ["a", "app"], some ["b", "app"]] ∧
      outcome.status = 0 ∧
      ¬ ((ts.map (·.place base)).Nodup ∧
        ∀ t ∈ ts, outcome.disk.Holds (t.directory base) "report.json" t.report.document) := by
  intro base paths ts outcome
  have hrun : outcome.status = 0 ∧ ts.map (·.place base) = [["out", "app"], ["out", "app"]] := by decide +kernel
  refine ⟨by decide +kernel, hrun.1, fun h => ?_⟩
  rw [hrun.2] at h
  exact absurd h.1 (by decide)

end CommandLine

end CodeSurvey
