/-
What a handoff leaves in the directories of the modules.

A handoff only ever adds: it writes its documents over what stands at their places and takes nothing away
(`applyAll_entry`, the run of `apply_ok`). So when the module directories lie apart, each of them has the documents that
its module hands over, and at every other artifact name what stood there before (`artifact_writeTo`).

`writeTo_shows_iff`: the directories show exactly the artifacts of the report just when nothing stood before at an
artifact name that the report does not hand over. An earlier report in the same directory breaks this unless each of
its modules handed over the same names (`writeTo_again_shows_iff`); `writeTo_recovered` is a module that failed once.
-/
import CodeSurvey.Proofs.Classes.Directories
import CodeSurvey.Proofs.Project.Writing
import CodeSurvey.Report.Handoff

namespace CodeSurvey

open Text

namespace HandoffStep

variable {d d' : Disk}

/-! ## Steps of a handoff -/

/-- A step changes the tree only: it makes directories, or writes its document. -/
theorem apply_ok {s : HandoffStep} (h : s.apply d = .ok d') :
    ∃ t, d' = { d with tree := t } ∧
      match s with
      | .directory p => d.tree.Grows (d.target p) t
      | .document p value => d.tree.writeFile (d.target p) (encode value.pretty) = .ok t := by
  cases s with
  | directory p =>
    cases hmade : d.makeDirectories p with
    | error fault => simp [apply, hmade] at h
    | ok made =>
      obtain rfl : made = d' := by simpa [apply, hmade] using h
      obtain ⟨t, hgrows, heq⟩ := Disk.makeDirectories_ok hmade
      exact ⟨t, heq, hgrows⟩
  | document p value =>
    cases hwritten : d.write p (encode value.pretty) with
    | error fault => simp [apply, hwritten] at h
    | ok written =>
      obtain rfl : written = d' := by simpa [apply, hwritten] using h
      obtain ⟨t, hfile, heq⟩ := Disk.write_ok hwritten
      exact ⟨t, heq, hfile⟩

/-- the document that a step writes at the place -/
def documentAt? (d : Disk) (q : Place) : HandoffStep → Option JsonValue
  | .directory _ => none
  | .document p value => if d.target p = q then some value else none

theorem documentAt?_document (d : Disk) (q : Place) (p : FilePath) (value : JsonValue) :
    documentAt? d q (.document p value) = if d.target p = q then some value else none :=
  rfl

/-- the documents that steps write at the place, in their order -/
def documentsAt (d : Disk) (q : Place) (steps : List HandoffStep) : List JsonValue := steps.filterMap (documentAt? d q)

/-- what steps leave at a place: the last document that they write there; if they write none, what stood there, or a
directory in an empty place on the way to one of theirs -/
def Leave (d : Disk) (steps : List HandoffStep) (q : Place) (after : Option Entry) : Prop :=
  match (documentsAt d q steps).getLast? with
  | some value => after = some (.written (d.tree.entryAt? q) (encode value.pretty))
  | none => after = d.tree.entryAt? q ∨
      (d.tree.entryAt? q = none ∧ after = some .directory ∧ ∃ p, .directory p ∈ steps ∧ q <+: d.target p)

theorem Leave.directory {t : FileTree} {p : FilePath} {steps : List HandoffStep} {q : Place} {after : Option Entry}
    (hgrows : d.tree.Grows (d.target p) t) (h : Leave { d with tree := t } steps q after) :
    Leave d (.directory p :: steps) q after := by
  have hdocuments : documentsAt d q (.directory p :: steps) = documentsAt { d with tree := t } q steps := rfl
  unfold Leave at h ⊢
  rw [hdocuments]
  cases hlast : (documentsAt { d with tree := t } q steps).getLast? with
  | some value =>
    rw [hlast] at h
    rcases hgrows q with hsame | ⟨-, hnone, hnew⟩
    · simpa [hsame] using h
    · simpa [hnew, hnone, Entry.written] using h
  | none =>
    rw [hlast] at h
    rcases h with hstays | ⟨hnone, hafter, p', hp', hpre⟩
    · rcases hgrows q with hsame | ⟨hpre, hnone, hnew⟩
      · exact .inl (hstays.trans hsame)
      · exact .inr ⟨hnone, hstays.trans hnew, p, List.mem_cons_self, hpre⟩
    · rcases hgrows q with hsame | ⟨-, -, hnew⟩
      · exact .inr ⟨hsame.symm.trans hnone, hafter, p', List.mem_cons_of_mem _ hp', hpre⟩
      · cases hnew.symm.trans hnone

theorem Leave.document {t : FileTree} {p : FilePath} {value : JsonValue} {steps : List HandoffStep} {q : Place}
    {after : Option Entry} (hfile : d.tree.writeFile (d.target p) (encode value.pretty) = .ok t)
    (h : Leave { d with tree := t } steps q after) : Leave d (.document p value :: steps) q after := by
  have hentry := FileTree.entryAt?_writeFile hfile q
  have hrest : documentsAt { d with tree := t } q steps = documentsAt d q steps := rfl
  unfold Leave at h ⊢
  rw [hrest] at h
  by_cases hq : d.target p = q
  · subst hq
    have hdocuments : documentsAt d (d.target p) (.document p value :: steps) =
        value :: documentsAt d (d.target p) steps := List.filterMap_cons_some (if_pos rfl)
    rw [if_pos rfl] at hentry
    rw [hdocuments, List.getLast?_cons]
    cases hlast : (documentsAt d (d.target p) steps).getLast? with
    | some last =>
      rw [hlast] at h
      simpa [hentry, Entry.written_written] using h
    | none =>
      rw [hlast] at h
      simpa [hentry] using h
  · have hdocuments : documentsAt d q (.document p value :: steps) = documentsAt d q steps :=
      List.filterMap_cons_none (if_neg hq)
    rw [if_neg (Ne.symm hq)] at hentry
    rw [hdocuments]
    cases hlast : (documentsAt d q steps).getLast? with
    | some last =>
      rw [hlast] at h
      simpa [hentry] using h
    | none =>
      rw [hlast] at h
      rcases h with hstays | ⟨hnone, hafter, p', hp', hpre⟩
      · exact .inl (hstays.trans hentry)
      · exact .inr ⟨hentry.symm.trans hnone, hafter, p', List.mem_cons_of_mem _ hp', hpre⟩

/-- **Steps that all succeed leave their documents and take nothing away.** -/
theorem applyAll_entry {steps : List HandoffStep} (h : applyAll d steps = (.ok (), d')) :
    (∃ t, d' = { d with tree := t }) ∧ ∀ q, Leave d steps q (d'.tree.entryAt? q) := by
  induction steps generalizing d with
  | nil =>
    obtain rfl : d = d' := (Prod.mk.inj h).2
    exact ⟨⟨d.tree, rfl⟩, fun q => .inl rfl⟩
  | cons s steps ih =>
    cases hstep : s.apply d with
    | error e => simp [applyAll, hstep] at h
    | ok next =>
      have hrest : applyAll next steps = (.ok (), d') := by simpa [applyAll, hstep] using h
      obtain ⟨t, rfl, hs⟩ := apply_ok hstep
      obtain ⟨⟨t', hd'⟩, hleave⟩ := ih hrest
      refine ⟨⟨t', hd'⟩, fun q => ?_⟩
      cases s with
      | directory p => exact (hleave q).directory hs
      | document p value => exact (hleave q).document hs

end HandoffStep

/-! ## Artifacts of a module -/

/-- the names that the documents of a module can have -/
def artifactNames : List String := ["error.json", "class-graph.json", "class-graph.error.json", "sequences.json"]

namespace Disk

/-- what stands at a name in a directory -/
def artifact? (d : Disk) (directory : FilePath) (name : String) : Option Entry :=
  d.tree.entryAt? (d.target (directory.child name))

/-- the document stands in the directory under the name -/
def Holds (d : Disk) (directory : FilePath) (name : String) (value : JsonValue) : Prop :=
  d.artifact? directory name = some (.file (encode value.pretty))

/-- nothing stands in the directory under the name -/
def Lacks (d : Disk) (directory : FilePath) (name : String) : Prop := d.artifact? directory name = none

/-- the directory shows the artifacts of the module and no others -/
structure Shows (d : Disk) (directory : FilePath) (m : ModuleReport) : Prop where
  failed : m.status = .failed →
    d.Holds directory "error.json" m.problemDocument ∧ d.Lacks directory "class-graph.json" ∧
      d.Lacks directory "class-graph.error.json" ∧ d.Lacks directory "sequences.json"
  traced : m.status ≠ .failed →
    d.Holds directory "sequences.json" (Sequences.document m.sequences) ∧ d.Lacks directory "error.json"
  graph : ∀ g, m.status ≠ .failed → m.classGraph = some g → m.graphProblem = none →
    d.Holds directory "class-graph.json" g.document ∧ d.Lacks directory "class-graph.error.json"
  placeholder : m.status ≠ .failed → (m.classGraph = none ∨ m.graphProblem ≠ none) →
    d.Holds directory "class-graph.error.json" m.problemDocument ∧ d.Lacks directory "class-graph.json"

end Disk

namespace ModuleReport

/-- the document of the module that has the name -/
def artifact (m : ModuleReport) (name : String) : Option JsonValue := m.handedOver.lookup name

section

variable {d : Disk} {directory : FilePath} {m : ModuleReport}

/-- what a directory with a failed module shows -/
theorem shows_of_failed (hfailed : m.status = .failed) :
    d.Shows directory m ↔ d.Holds directory "error.json" m.problemDocument ∧ d.Lacks directory "class-graph.json" ∧
      d.Lacks directory "class-graph.error.json" ∧ d.Lacks directory "sequences.json" :=
  ⟨fun h => h.failed hfailed, fun h => ⟨fun _ => h, fun hnot => absurd hfailed hnot, fun _ hnot => absurd hfailed hnot,
    fun hnot => absurd hfailed hnot⟩⟩

/-- what it shows where the graph is known -/
theorem shows_of_graph (hfailed : m.status ≠ .failed) {g : ClassGraph} (hg : m.classGraph = some g)
    (hproblem : m.graphProblem = none) :
    d.Shows directory m ↔ d.Lacks directory "error.json" ∧ d.Holds directory "class-graph.json" g.document ∧
      d.Lacks directory "class-graph.error.json" ∧
      d.Holds directory "sequences.json" (Sequences.document m.sequences) := by
  constructor
  · intro h
    obtain ⟨hsequences, herror⟩ := h.traced hfailed
    obtain ⟨hkept, hnone⟩ := h.graph g hfailed hg hproblem
    exact ⟨herror, hkept, hnone, hsequences⟩
  · rintro ⟨herror, hkept, hnone, hsequences⟩
    refine ⟨fun h => absurd h hfailed, fun _ => ⟨hsequences, herror⟩, fun g' _ hg' _ => ?_, fun _ hmissing => ?_⟩
    · obtain rfl : g = g' := Option.some.inj (hg.symm.trans hg')
      exact ⟨hkept, hnone⟩
    · exact hmissing.elim (fun hn => absurd (hg.symm.trans hn) (Option.some_ne_none g)) (absurd hproblem)

/-- and where it is not -/
theorem shows_of_missing (hfailed : m.status ≠ .failed) (hmissing : m.classGraph = none ∨ m.graphProblem ≠ none) :
    d.Shows directory m ↔ d.Lacks directory "error.json" ∧ d.Lacks directory "class-graph.json" ∧
      d.Holds directory "class-graph.error.json" m.problemDocument ∧
      d.Holds directory "sequences.json" (Sequences.document m.sequences) := by
  constructor
  · intro h
    obtain ⟨hsequences, herror⟩ := h.traced hfailed
    obtain ⟨hkept, hnone⟩ := h.placeholder hfailed hmissing
    exact ⟨herror, hnone, hkept, hsequences⟩
  · rintro ⟨herror, hnone, hkept, hsequences⟩
    refine ⟨fun h => absurd h hfailed, fun _ => ⟨hsequences, herror⟩, fun g _ hg hproblem => ?_,
      fun _ _ => ⟨hkept, hnone⟩⟩
    exact hmissing.elim (fun hn => absurd (hg.symm.trans hn) (Option.some_ne_none g)) (absurd hproblem)

theorem handedOver_of_missing (hfailed : m.status ≠ .failed) (hmissing : m.classGraph = none ∨ m.graphProblem ≠ none) :
    m.handedOver =
      [("class-graph.error.json", m.problemDocument), ("sequences.json", Sequences.document m.sequences)] := by
  cases hg : m.classGraph with
  | none => simp [handedOver, hfailed, hg]
  | some g =>
    have hproblem := hmissing.resolve_left (by simp [hg])
    cases hsome : m.graphProblem with
    | none => exact absurd hsome hproblem
    | some problem => simp [handedOver, hfailed, hg, hsome]

end

theorem shows_iff (d : Disk) (directory : FilePath) (m : ModuleReport) :
    d.Shows directory m ↔ ∀ name ∈ artifactNames,
      d.artifact? directory name = (m.artifact name).map fun value => .file (encode value.pretty) := by
  have hnames (P : String → Prop) : (∀ name ∈ artifactNames, P name) ↔
      P "error.json" ∧ P "class-graph.json" ∧ P "class-graph.error.json" ∧ P "sequences.json" := by
    simp [artifactNames]
  rw [hnames]
  by_cases hfailed : m.status = .failed
  · have hdocuments : m.handedOver = [("error.json", m.problemDocument)] := if_pos hfailed
    rw [shows_of_failed hfailed]
    simp [artifact, hdocuments, List.lookup_cons, Disk.Holds, Disk.Lacks]
  · by_cases hmissing : m.classGraph = none ∨ m.graphProblem ≠ none
    · rw [shows_of_missing hfailed hmissing]
      simp [artifact, handedOver_of_missing hfailed hmissing, List.lookup_cons, Disk.Holds, Disk.Lacks]
    · obtain ⟨hsome, hproblem⟩ := not_or.1 hmissing
      obtain ⟨g, hg⟩ := Option.ne_none_iff_exists'.1 hsome
      have hnone := not_not.1 hproblem
      have hdocuments : m.handedOver =
          [("class-graph.json", g.document), ("sequences.json", Sequences.document m.sequences)] := by
        simp [handedOver, hfailed, hg, hnone]
      rw [shows_of_graph hfailed hg hnone]
      simp [artifact, hdocuments, List.lookup_cons, Disk.Holds, Disk.Lacks]

/-- The documents of a module have different names, so the last one of a name is the only one. -/
theorem getLast?_handedOver (m : ModuleReport) (name : String) :
    (m.handedOver.filterMap fun e => if e.1 = name then some e.2 else none).getLast? = m.artifact name := by
  have hpair (first second : String) (v w : JsonValue) (hne : first ≠ second) :
      ([(first, v), (second, w)].filterMap fun e => if e.1 = name then some e.2 else none).getLast? =
        [(first, v), (second, w)].lookup name := by
    rw [Ordered.lookup_cons_eq, Ordered.lookup_cons_eq]
    by_cases hfirst : name = first
    · subst hfirst
      simp [Ne.symm hne]
    · by_cases hsecond : name = second
      · subst hsecond
        simp [hne, Ne.symm hne]
      · simp [hfirst, hsecond, Ne.symm hfirst, Ne.symm hsecond]
  unfold artifact handedOver
  split
  · rw [Ordered.lookup_cons_eq]
    by_cases hname : name = "error.json"
    · simp [hname]
    · simp [hname, Ne.symm hname]
  · split
    · exact hpair _ _ _ _ (by decide)
    · exact hpair _ _ _ _ (by decide)

end ModuleReport

namespace Report

variable {d d' : Disk} {r : Report} {output : FilePath}

/-- the directory that the module gets -/
def directory (output : FilePath) (m : ModuleReport) : FilePath := output.join m.name

/-- the module directories share nothing, and none of them lies above the output directory -/
structure Apart (d : Disk) (output : FilePath) (r : Report) : Prop where
  separate : (r.modules.map (directory output)).Pairwise d.Separate
  below : ∀ m ∈ r.modules, d.target (directory output m) <+: d.target output →
    d.target (directory output m) = d.target output

theorem Apart.split (h : r.Apart d output) {m : ModuleReport} (hm : m ∈ r.modules) :
    ∃ front back, r.modules = front ++ m :: back ∧
      ∀ other ∈ front ++ back, d.Separate (directory output m) (directory output other) := by
  obtain ⟨front, back, hmodules⟩ := List.append_of_mem hm
  have hseparate := h.separate
  rw [hmodules, List.map_append, List.map_cons, List.pairwise_append, List.pairwise_cons] at hseparate
  obtain ⟨-, ⟨hback, -⟩, hfront⟩ := hseparate
  refine ⟨front, back, hmodules, fun other hother => ?_⟩
  rcases List.mem_append.1 hother with hbefore | hbehind
  · exact (hfront _ (List.mem_map_of_mem hbefore) _ List.mem_cons_self).symm
  · exact hback _ (List.mem_map_of_mem hbehind)

/-- Modules whose names go down by different ways, none of them along another, have directories that lie apart. -/
theorem apart_of_names (d : Disk) (output : FilePath)
    (hplain : ∀ m ∈ r.modules, (split m.name '/').all FilePath.isPlainName = true)
    (hways : (r.modules.map fun m => split m.name '/').Pairwise fun a b => ¬ a <+: b ∧ ¬ b <+: a) :
    r.Apart d output := by
  have htarget : ∀ m ∈ r.modules, d.target (directory output m) = d.target output ++ split m.name '/' :=
    fun m hm => Disk.target_join (hplain m hm)
  refine ⟨?_, fun m hm hpre => ?_⟩
  · rw [List.pairwise_map] at hways ⊢
    refine hways.imp_of_mem fun {m m'} hm hm' hway => ?_
    rw [Disk.Separate, htarget m hm, htarget m' hm', List.prefix_append_right_inj, List.prefix_append_right_inj]
    exact hway
  · exact hpre.eq_of_length_le (by rw [htarget m hm, List.length_append]; exact Nat.le_add_right _ _)

theorem target_child (d : Disk) (p : FilePath) (name : String) : d.target (p.child name) = d.target p ++ [name] :=
  d.target_descend p [name]

theorem documentsAt_module (d : Disk) (m : ModuleReport) (output : FilePath) (q : Place) (name : String) :
    HandoffStep.documentsAt d (q ++ [name]) (m.handoff output) =
      if d.target (directory output m) = q then
        m.handedOver.filterMap fun e => if e.1 = name then some e.2 else none
      else [] := by
  have hsteps : HandoffStep.documentsAt d (q ++ [name]) (m.handoff output) =
      m.handedOver.filterMap fun e => if d.target (directory output m) = q ∧ e.1 = name then some e.2 else none := by
    rw [HandoffStep.documentsAt, ModuleReport.handoff, List.filterMap_cons_none rfl, List.filterMap_map]
    refine List.filterMap_congr fun e _ => ?_
    have hplace : d.target ((output.join m.name).child e.1) = q ++ [name] ↔
        d.target (directory output m) = q ∧ e.1 = name := by
      rw [target_child, directory, ← List.concat_eq_append, ← List.concat_eq_append, List.concat_inj]
    rw [Function.comp_apply, HandoffStep.documentAt?_document, if_congr hplace rfl rfl]
  rw [hsteps]
  by_cases hq : d.target (directory output m) = q <;> simp [hq]

/-- Where directories lie apart, a module's artifacts are written for this module only. -/
theorem documentsAt_handoff (h : r.Apart d output) {m : ModuleReport} (hm : m ∈ r.modules) {name : String}
    (hname : name ∈ artifactNames) :
    (HandoffStep.documentsAt d (d.target ((directory output m).child name)) (r.handoff output)).getLast? =
      m.artifact name := by
  obtain ⟨front, back, hmodules, hseparate⟩ := h.split hm
  -- no other module has its documents here
  have hnone : ∀ others : List ModuleReport, (∀ other ∈ others, other ∈ front ++ back) →
      HandoffStep.documentsAt d (d.target (directory output m) ++ [name])
        (others.flatMap fun m => m.handoff output) = [] := by
    intro others hothers
    rw [HandoffStep.documentsAt, List.filterMap_flatMap, List.flatMap_eq_nil_iff]
    intro other hmem
    refine (documentsAt_module d other output _ name).trans (if_neg fun heq => ?_)
    refine (hseparate other (hothers other hmem)).1 ?_
    rw [heq]
  have hown := documentsAt_module d m output (d.target (directory output m)) name
  rw [if_pos rfl] at hown
  have hhead : HandoffStep.documentsAt d (d.target (directory output m) ++ [name])
      [.directory output, .document (output.child "report.json") r.document,
        .document (output.child "tech-stack.json") r.stack.document] = [] := by
    have hnot (other : String) (hne : name ≠ other) :
        d.target (output.child other) ≠ d.target (directory output m) ++ [name] := by
      rw [target_child]
      exact fun heq => hne (List.singleton_inj.1 (List.append_inj' heq rfl).2).symm
    have hreport : name ≠ "report.json" := by rintro rfl; exact absurd hname (by decide)
    have hstack : name ≠ "tech-stack.json" := by rintro rfl; exact absurd hname (by decide)
    simp [HandoffStep.documentsAt, HandoffStep.documentAt?, hnot _ hreport, hnot _ hstack]
  have hsplit (steps more : List HandoffStep) (q : Place) : HandoffStep.documentsAt d q (steps ++ more) =
      HandoffStep.documentsAt d q steps ++ HandoffStep.documentsAt d q more := List.filterMap_append
  rw [target_child, handoff, hmodules, List.flatMap_append, List.flatMap_cons, hsplit, hsplit, hsplit, hhead, hown,
    hnone front fun other ho => List.mem_append_left _ ho, hnone back fun other ho => List.mem_append_right _ ho,
    List.append_nil, List.nil_append, List.nil_append, m.getLast?_handedOver]

/-- **After a handoff each module's directory has what the module handed over, and else what stood there before.** -/
theorem artifact_writeTo (hok : r.writeTo output d = (.ok (), d')) (h : r.Apart d output) {m : ModuleReport}
    (hm : m ∈ r.modules) {name : String} (hname : name ∈ artifactNames) :
    d'.artifact? (directory output m) name =
      match m.artifact name with
      | some value => some (.written (d.artifact? (directory output m) name) (encode value.pretty))
      | none => d.artifact? (directory output m) name := by
  obtain ⟨⟨t, rfl⟩, hleave⟩ := HandoffStep.applyAll_entry hok
  have hplace := hleave (d.target ((directory output m).child name))
  unfold HandoffStep.Leave at hplace
  rw [documentsAt_handoff h hm hname] at hplace
  show t.entryAt? (d.target ((directory output m).child name)) = _
  cases hartifact : m.artifact name with
  | some value =>
    rw [hartifact] at hplace
    exact hplace
  | none =>
    rw [hartifact] at hplace
    refine hplace.resolve_right ?_
    rintro ⟨-, -, p, hp, hpre⟩
    rw [target_child] at hpre
    have habove : d.target (directory output m) <+: d.target p := (List.prefix_append _ _).trans hpre
    have hlonger : d.target (directory output m) ≠ d.target p := fun heq => by
      have hlength := hpre.length_le
      rw [List.length_append, List.length_singleton, ← heq] at hlength
      omega
    -- a directory is made for the output or for a module, and none of them lies below this module's
    rcases List.mem_append.1 hp with hhead | hmodule
    · obtain rfl : p = output := by simpa using hhead
      exact hlonger (h.below m hm habove)
    · obtain ⟨other, hother, hstep⟩ := List.mem_flatMap.1 hmodule
      obtain rfl : p = directory output other := by simpa [ModuleReport.handoff, directory] using hstep
      obtain ⟨front, back, hmodules, hseparate⟩ := h.split hm
      have hmem : other = m ∨ other ∈ front ++ back := by
        rw [hmodules] at hother
        simpa [or_left_comm, or_assoc] using hother
      rcases hmem with rfl | hmem
      · exact hlonger rfl
      · exact (hseparate other hmem).1 habove

/-! ## What the directories show -/

/-- what stood at a name is no obstacle to what is handed over there: nothing where nothing is, and nothing that keeps
no content where a document is -/
def Room (stood : Option Entry) : Option JsonValue → Prop
  | some _ => stood ≠ some .void
  | none => stood = none

/-- nothing that stands in the directories is an obstacle -/
def Clear (d : Disk) (output : FilePath) (r : Report) : Prop :=
  ∀ m ∈ r.modules, ∀ name ∈ artifactNames, Room (d.artifact? (directory output m) name) (m.artifact name)

instance (stood : Option Entry) : (handed : Option JsonValue) → Decidable (Room stood handed)
  | some _ => inferInstanceAs (Decidable (stood ≠ some .void))
  | none => inferInstanceAs (Decidable (stood = none))

instance (d : Disk) (output : FilePath) (r : Report) : Decidable (r.Clear d output) :=
  inferInstanceAs (Decidable (∀ m ∈ r.modules, ∀ name ∈ artifactNames, Room _ _))

theorem shows_iff_clear (hok : r.writeTo output d = (.ok (), d')) (h : r.Apart d output) :
    (∀ m ∈ r.modules, d'.Shows (directory output m) m) ↔ r.Clear d output := by
  refine forall_congr' fun m => forall_congr' fun hm => ?_
  rw [m.shows_iff]
  refine forall_congr' fun name => forall_congr' fun hname => ?_
  rw [artifact_writeTo hok h hm hname]
  cases m.artifact name with
  | none => exact Iff.rfl
  | some value => simp [Entry.written, Room]

/-- **Each directory has the documents of its module and else what stood there before, so the directories show exactly
the artifacts of the report just when nothing else stood at an artifact name.** -/
theorem writeTo_shows_iff (hok : r.writeTo output d = (.ok (), d')) (h : r.Apart d output) :
    (∀ m ∈ r.modules, ∀ name ∈ artifactNames, d'.artifact? (directory output m) name =
      match m.artifact name with
      | some value => some (.written (d.artifact? (directory output m) name) (encode value.pretty))
      | none => d.artifact? (directory output m) name) ∧
    ((∀ m ∈ r.modules, d'.Shows (directory output m) m) ↔ r.Clear d output) :=
  ⟨fun _ hm _ hname => artifact_writeTo hok h hm hname, shows_iff_clear hok h⟩

/-- a module of a sample report -/
def sampleModule (name : String) (status : ModuleStatus) (problem : Option String) : ModuleReport where
  name
  root := .ofText name
  status
  classGraph := if problem.isSome then none else some .empty
  compiledWith := none
  graphProblem := problem
  roles := .zero
  sequences := Ordered.empty
  problems := problem.toList

/-- a failed module and one whose graph is missing beside a complete one two levels down -/
def mixedReport : Report where
  root := .ofText "app"
  stack := .empty .unknown
  modules := [sampleModule "billing" .failed (some "gone"), sampleModule "core/orders" .complete none,
    sampleModule "web" .incomplete (some "no compiler")]

/-- an output directory with an older graph of the complete module -/
def usedDisk : Disk where
  tree := ⟨Ordered.ofList [(["out"], .directory), (["out", "core"], .directory), (["out", "core", "orders"], .directory),
    (["out", "core", "orders", "class-graph.json"], .file [])]⟩
  here := []
  home := none
  programs := []
  temp := []
  executable := []

theorem eq_of_toBool {p : Except RunError Unit × Disk} (h : p.1.toBool = true) : p = (.ok (), p.2) := by
  obtain ⟨_ | ⟨⟩, d⟩ := p
  · cases h
  · rfl

theorem writeTo_mixedReport :
    let output := FilePath.ofText "out"
    let after := (mixedReport.writeTo output usedDisk).2
    usedDisk.artifact? (output.join "core/orders") "class-graph.json" = some (.file []) ∧
      ∀ m ∈ mixedReport.modules, after.Shows (directory output m) m := by
  intro output after
  have hok : mixedReport.writeTo output usedDisk = (.ok (), after) := eq_of_toBool (by decide +kernel)
  have hapart : mixedReport.Apart usedDisk output :=
    apart_of_names usedDisk output (by decide +kernel) (by decide +kernel)
  have hclear : mixedReport.Clear usedDisk output := by decide +kernel
  exact ⟨by decide +kernel, (writeTo_shows_iff hok hapart).2.2 hclear⟩

/-- the module failed in the first run and is complete in the second -/
theorem writeTo_recovered :
    let output := FilePath.ofText "out"
    let failed : Report := { mixedReport with modules := [sampleModule "billing" .failed (some "gone")] }
    let complete : Report := { mixedReport with modules := [sampleModule "billing" .complete none] }
    let between := (failed.writeTo output usedDisk).2
    let after := (complete.writeTo output between).2
    failed.writeTo output usedDisk = (.ok (), between) ∧ complete.writeTo output between = (.ok (), after) ∧
      complete.Apart between output ∧ ¬ ∀ m ∈ complete.modules, after.Shows (directory output m) m := by
  intro output failed complete between after
  have hfailed : failed.writeTo output usedDisk = (.ok (), between) := eq_of_toBool (by decide +kernel)
  have hcomplete : complete.writeTo output between = (.ok (), after) := eq_of_toBool (by decide +kernel)
  refine ⟨hfailed, hcomplete, apart_of_names between output (by decide +kernel) (by decide +kernel), fun hshows => ?_⟩
  have hlacks : after.artifact? (output.join "billing") "error.json" = none :=
    ((hshows _ List.mem_cons_self).traced (by decide)).2
  have hstands : (after.artifact? (output.join "billing") "error.json").isSome = true := by decide +kernel
  rw [hlacks] at hstands
  cases hstands

/-! ## One report after another -/

/-- the names of the documents that a module hands over -/
def handedNames (m : ModuleReport) : List String := m.handedOver.map (·.1)

theorem handedNames_cases (m : ModuleReport) :
    handedNames m = ["error.json"] ∨ handedNames m = ["class-graph.json", "sequences.json"] ∨
      handedNames m = ["class-graph.error.json", "sequences.json"] := by
  unfold handedNames ModuleReport.handedOver
  split
  · exact .inl rfl
  · split
    · exact .inr (.inl rfl)
    · exact .inr (.inr rfl)

theorem artifact_eq_none_iff (m : ModuleReport) (name : String) : m.artifact name = none ↔ name ∉ handedNames m := by
  rw [ModuleReport.artifact, handedNames, List.lookup_eq_none_iff, List.mem_map]
  constructor
  · rintro h ⟨e, he, rfl⟩
    exact absurd (h e he) (by simp)
  · intro h e he
    exact bne_iff_ne.2 fun hname => h ⟨e, he, hname.symm⟩

/-- Of the sets of documents that modules hand over none lies within another. -/
theorem handedNames_eq_iff (m m' : ModuleReport) :
    (∀ name ∈ artifactNames, m'.artifact name = none → m.artifact name = none) ↔ handedNames m = handedNames m' := by
  simp only [artifact_eq_none_iff]
  rcases handedNames_cases m with h | h | h <;> rcases handedNames_cases m' with h' | h' | h' <;>
    rw [h, h'] <;> decide

/-- **A report written over an earlier one shows exactly its own artifacts just when every module hands over documents
of the same names as before.** -/
theorem writeTo_again_shows_iff {d₀ d₁ d₂ : Disk} {earlier later : Report}
    (hfresh : ∀ m ∈ earlier.modules, ∀ name ∈ artifactNames, d₀.Lacks (directory output m) name)
    (hearlier : earlier.writeTo output d₀ = (.ok (), d₁)) (hlater : later.writeTo output d₁ = (.ok (), d₂))
    (hapart : earlier.Apart d₀ output) (hapart' : later.Apart d₁ output)
    (hsame : ∀ m ∈ later.modules, ∃ m' ∈ earlier.modules, m'.name = m.name) :
    (∀ m ∈ later.modules, d₂.Shows (directory output m) m) ↔
      ∀ m' ∈ earlier.modules, ∀ m ∈ later.modules, m'.name = m.name → handedNames m' = handedNames m := by
  -- between the two handoffs the directories have what the earlier modules handed over
  have hbetween : ∀ m' ∈ earlier.modules, ∀ name ∈ artifactNames, d₁.artifact? (directory output m') name =
      (m'.artifact name).map fun value => .file (encode value.pretty) := by
    intro m' hm' name hname
    rw [artifact_writeTo hearlier hapart hm' hname]
    have hnone : d₀.artifact? (directory output m') name = none := hfresh m' hm' name hname
    cases m'.artifact name with
    | none => exact hnone
    | some value => simp [hnone, Entry.written]
  have hclear : later.Clear d₁ output ↔ ∀ m' ∈ earlier.modules, ∀ m ∈ later.modules, m'.name = m.name →
      ∀ name ∈ artifactNames, m.artifact name = none → m'.artifact name = none := by
    constructor
    · intro h m' hm' m hm hname name hartifact hnone
      have hroom := h m hm name hartifact
      have hdirectory : directory output m = directory output m' := by rw [directory, directory, hname]
      rw [hnone, hdirectory, hbetween m' hm' name hartifact] at hroom
      exact Option.map_eq_none_iff.1 hroom
    · intro h m hm name hartifact
      obtain ⟨m', hm', hname⟩ := hsame m hm
      have hdirectory : directory output m = directory output m' := by rw [directory, directory, hname]
      have hstood := hbetween m' hm' name hartifact
      rw [hdirectory, hstood]
      cases hnone : m.artifact name with
      | none => exact Option.map_eq_none_iff.2 (h m' hm' m hm hname name hartifact hnone)
      | some value => cases m'.artifact name <;> simp [Room]
  rw [shows_iff_clear hlater hapart', hclear]
  refine forall_congr' fun m' => forall_congr' fun _ => forall_congr' fun m => forall_congr' fun _ => ?_
  rw [handedNames_eq_iff]

end Report

end CodeSurvey
