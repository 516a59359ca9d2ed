/-
What the sequences of an entry point depend on.

Tracing an entry point looks at its own entry and at the components and data access of the assignment, and at nothing
else. Two assignments that agree there (`AgreeFor`) give the same sequences for all sources, so an unclassified class or
another entry point can be added, removed or changed without any effect.

`traceOperations_of_agree`: this law, and with it that the sequences of a module are those of its entry points, each
traced in an assignment of its own (`alone`). Names outside the active roles never come up, because a receiver refers to
a component or to data access and a component's code stands in components: one lemma for each reading of the assignment.
-/
import CodeSurvey.Proofs.Trace.Chains

namespace CodeSurvey

namespace RoleAssignment

/-- takes part in traces behind an entry point -/
def IsCalled (role : Role) : Prop := role = .component ∨ role = .dataAccess

/-- the assignments give the entry point the same entry and have the same components and data access -/
structure AgreeFor (a b : RoleAssignment) (entryPoint : String) : Prop where
  entryPoint : a.get? entryPoint = b.get? entryPoint
  called : ∀ name entry, IsCalled entry.role → (a.get? name = some entry ↔ b.get? name = some entry)

/-- the assignment with one entry point only, and the classes that it may call -/
def alone (a : RoleAssignment) (entryPoint : String) : RoleAssignment :=
  ⟨a.entries.filter fun name entry => name == entryPoint || entry.role == .component || entry.role == .dataAccess⟩

theorem agreeFor_alone (a : RoleAssignment) (entryPoint : String) : AgreeFor a (a.alone entryPoint) entryPoint := by
  constructor
  case entryPoint =>
    rw [get?, get?, alone, Ordered.get?_filter]
    cases a.entries.get? entryPoint <;> simp [Option.filter]
  case called =>
    intro name entry hrole
    have hkept : (name == entryPoint || entry.role == .component || entry.role == .dataAccess) = true := by
      rcases hrole with hrole | hrole <;> simp [hrole]
    rw [get?, get?, alone, Ordered.get?_filter, Option.filter_eq_some_iff]
    exact (and_iff_left hkept).symm

variable {a b : RoleAssignment} {entryPoint : String}

theorem AgreeFor.classesWith_eq (h : AgreeFor a b entryPoint) {role : Role} (hrole : IsCalled role) :
    a.classesWith role = b.classesWith role := by
  refine NameSet.ext_toList fun name => ?_
  rw [mem_classesWith, mem_classesWith]
  refine exists_congr fun entry => and_congr_left fun hentry => ?_
  exact h.called name entry (hentry ▸ hrole)

theorem AgreeFor.get?_eq (h : AgreeFor a b entryPoint) {role : Role} (hrole : IsCalled role) {name : String}
    (hname : name ∈ (b.classesWith role).toList) : a.get? name = b.get? name := by
  obtain ⟨entry, hentry, rfl⟩ := (b.mem_classesWith role name).1 hname
  rw [hentry]
  exact (h.called name entry hrole).2 hentry

end RoleAssignment

namespace Tracer

open RoleAssignment (AgreeFor IsCalled)

variable {a b : RoleAssignment} {entryPoint : String}

theorem standsFor_eq (t : Tracer) (h : AgreeFor a b entryPoint) (component : String) {other : String}
    (hother : other ∈ (b.classesWith .component).toList) :
    t.standsFor (.of a) component other = t.standsFor (.of b) component other := by
  unfold standsFor
  have hget : (ModuleView.of a).roles.get? other = (ModuleView.of b).roles.get? other := h.get?_eq (.inl rfl) hother
  rw [hget]

theorem implementations_eq (t : Tracer) (h : AgreeFor a b entryPoint) (component : String) :
    t.implementations (.of a) component = t.implementations (.of b) component := by
  have hcomponents : (ModuleView.of a).components = (ModuleView.of b).components := h.classesWith_eq (.inl rfl)
  unfold implementations
  rw [hcomponents]
  refine congrArg (component :: ·) (List.filter_congr fun other hother => ?_)
  rw [t.standsFor_eq h component hother]

theorem dataCalls_of_agree (t : Tracer) (h : AgreeFor a b entryPoint) (method : String) {candidate : String}
    (hcandidate : candidate ∈ (b.classesWith .component).toList) :
    t.dataCalls? (.of a) method candidate = t.dataCalls? (.of b) method candidate := by
  have hdata : (ModuleView.of a).dataAccess = (ModuleView.of b).dataAccess := h.classesWith_eq (.inr rfl)
  have hget : (ModuleView.of a).roles.get? candidate = (ModuleView.of b).roles.get? candidate :=
    h.get?_eq (.inl rfl) hcandidate
  unfold dataCalls?
  rw [hdata, hget]

theorem mem_implementations {t : Tracer} {component candidate : String}
    (hcomponent : component ∈ (b.classesWith .component).toList)
    (h : candidate ∈ t.implementations (.of b) component) : candidate ∈ (b.classesWith .component).toList := by
  rcases List.mem_cons.1 h with rfl | hother
  · exact hcomponent
  · exact (List.mem_filter.1 hother).1

theorem findSome?_congr {α β : Type} {f g : α → Option β} {l : List α} (h : ∀ x ∈ l, f x = g x) :
    l.findSome? f = l.findSome? g := by
  induction l with
  | nil => rfl
  | cons x l ih =>
    rw [List.findSome?_cons, List.findSome?_cons, h x List.mem_cons_self,
      ih fun y hy => h y (List.mem_cons_of_mem x hy)]

theorem secondHop_of_agree (t : Tracer) (h : AgreeFor a b entryPoint) {component : String}
    (hcomponent : component ∈ (b.classesWith .component).toList) (method : String) :
    t.secondHop (.of a) component method = t.secondHop (.of b) component method := by
  unfold secondHop
  rw [t.implementations_eq h]
  rw [findSome?_congr fun c hc => t.dataCalls_of_agree h method (mem_implementations hcomponent hc)]

theorem target_of_agree (h : AgreeFor a b entryPoint) (injections : InjectionMap) (receiver : String) :
    target? (.of a) injections receiver = target? (.of b) injections receiver := by
  have hcomponents : (ModuleView.of a).components = (ModuleView.of b).components := h.classesWith_eq (.inl rfl)
  have hdata : (ModuleView.of a).dataAccess = (ModuleView.of b).dataAccess := h.classesWith_eq (.inr rfl)
  unfold target?
  rw [hcomponents, hdata]

theorem reachable_of_agree (h : AgreeFor a b entryPoint) :
    (ModuleView.of a).reachable = (ModuleView.of b).reachable := by
  unfold ModuleView.of
  rw [h.classesWith_eq (.inl rfl), h.classesWith_eq (.inr rfl)]

/-- **One call adds the same edges**, when every class of the injection map is a component or data access. -/
theorem addCall_of_agree (t : Tracer) (h : AgreeFor a b entryPoint) {injections : InjectionMap}
    (hin : Injection.Within (ModuleView.of b).reachable injections) (s : EdgeSet) (call : String × String) :
    t.addCall (.of a) entryPoint injections s call = t.addCall (.of b) entryPoint injections s call := by
  unfold addCall
  rw [target_of_agree h]
  cases htarget : target? (.of b) injections call.1 with
  | none => rfl
  | some target =>
    have hcalled : IsCalled (b.roleOf target) := roleOf_target hin htarget
    have hactive : b.roleOf target ≠ .unclassified := by
      rcases hcalled with hrole | hrole <;> simp [hrole]
    have hmem : target ∈ (b.classesWith (b.roleOf target)).toList := (b.mem_classesWith_iff_roleOf hactive target).2 rfl
    have hrole : (ModuleView.of a).roles.roleOf target = (ModuleView.of b).roles.roleOf target := by
      show ((a.get? target).map (·.role)).getD .unclassified = ((b.get? target).map (·.role)).getD .unclassified
      rw [h.get?_eq hcalled hmem]
    dsimp only
    rw [hrole]
    by_cases hcomponent : (ModuleView.of b).roles.roleOf target = .component
    · rw [t.secondHop_of_agree h (hcomponent ▸ hmem)]
    · simp only [if_neg hcomponent]

theorem traceBody_of_agree (t : Tracer) (h : AgreeFor a b entryPoint) {injections : InjectionMap}
    (hin : Injection.Within (ModuleView.of b).reachable injections) (body : String) :
    t.traceBody (.of a) entryPoint injections body = t.traceBody (.of b) entryPoint injections body := by
  unfold traceBody
  exact congrArg (List.foldl · _ _) (funext fun s => funext fun call => t.addCall_of_agree h hin s call)

theorem traceOperations_eq_of_agree (t : Tracer) (h : AgreeFor a b entryPoint) :
    t.traceOperations a entryPoint = t.traceOperations b entryPoint := by
  unfold traceOperations
  rw [h.entryPoint]
  cases (b.get? entryPoint).filter (·.role = .entryPoint) with
  | none => rfl
  | some entry =>
    refine congrArg (Except.map · _) (funext fun text => ?_)
    dsimp only
    rw [reachable_of_agree h]
    refine congrArg (List.map · _) (funext fun operation => ?_)
    cases Source.bodyOf (Source.methods text) operation.name with
    | none => rfl
    | some body =>
      dsimp only
      rw [t.traceBody_of_agree h (Injection.within_resolve _ _ _)]

/-! ## Modules -/

theorem get?_foldl_trace (t : Tracer) (roles : RoleAssignment) (names : List String)
    (traced : Ordered String (List CallSequence)) (name : String) :
    (names.foldl (fun traced name =>
      match t.traceOperations roles name with
      | .ok sequences => traced.insert name sequences
      | .error _ => traced) traced).get? name =
      if name ∈ names then (t.traceOperations roles name).toOption.or (traced.get? name) else traced.get? name := by
  induction names generalizing traced with
  | nil => simp
  | cons first names ih =>
    rw [List.foldl_cons, ih]
    by_cases hname : name = first
    · subst hname
      cases htrace : t.traceOperations roles name with
      | error fault => simp [Except.toOption]
      | ok sequences => simp [Except.toOption, Ordered.get?_insert]
    · have hkept : (match t.traceOperations roles first with
          | .ok sequences => traced.insert first sequences
          | .error _ => traced).get? name = traced.get? name := by
        cases t.traceOperations roles first with
        | error fault => rfl
        | ok sequences => simp [Ordered.get?_insert, hname]
      simp only [hkept, List.mem_cons, hname, false_or]

theorem traceOperations_of_no_entryPoint (t : Tracer) {roles : RoleAssignment} {name : String}
    (h : name ∉ (roles.classesWith .entryPoint).toList) : (t.traceOperations roles name).toOption = none := by
  have hfilter : (roles.get? name).filter (·.role = .entryPoint) = none := by
    rw [Option.filter_eq_none_iff]
    intro entry hentry hrole
    exact h ((roles.mem_classesWith .entryPoint name).2 ⟨entry, hentry, by simpa using hrole⟩)
  unfold traceOperations
  rw [hfilter]
  rfl

theorem get?_traceModule (t : Tracer) (roles : RoleAssignment) (name : String) :
    (t.traceModule roles).get? name = (t.traceOperations roles name).toOption := by
  refine (t.get?_foldl_trace roles _ _ name).trans ?_
  by_cases h : name ∈ (roles.classesWith .entryPoint).toList
  · rw [if_pos h]
    exact Option.or_none
  · rw [if_neg h, t.traceOperations_of_no_entryPoint h]
    rfl

/-- **The sequences of an entry point depend on its entry, on the components and data access, and on no other class**:
two assignments that agree there give the same sequences, or the same failure. A module's sequences are those of its
entry points, each of them traced in the assignment that has no other entry point and no unclassified class. -/
theorem traceOperations_of_agree (t : Tracer) :
    (∀ (a b : RoleAssignment) (entryPoint : String), AgreeFor a b entryPoint →
      t.traceOperations a entryPoint = t.traceOperations b entryPoint) ∧
    ∀ (roles : RoleAssignment) (entryPoint : String),
      (t.traceModule roles).get? entryPoint = (t.traceOperations (roles.alone entryPoint) entryPoint).toOption := by
  refine ⟨fun a b entryPoint h => t.traceOperations_eq_of_agree h, fun roles entryPoint => ?_⟩
  rw [t.get?_traceModule, t.traceOperations_eq_of_agree (roles.agreeFor_alone entryPoint)]

/-- the assignment of the order page with another entry point and an unclassified class, whose names are like those of
the component and the store -/
def crowdedRoles : RoleAssignment :=
  [("Page", Role.entryPoint), ("O", .entryPoint), ("Os", .component), ("Osd", .unclassified), ("Ss", .dataAccess)].foldl
    (fun a c => (a.insert c.1 ⟨c.2, .ofText c.1⟩).2) .empty

theorem agreeFor_crowdedRoles : AgreeFor orderRoles crowdedRoles "Page" := by
  have horder : orderRoles.entries.entries = [("A", ⟨.unclassified, .ofText "A"⟩), ("Os", ⟨.component, .ofText "Os"⟩),
      ("Page", ⟨.entryPoint, .ofText "Page"⟩), ("Ss", ⟨.dataAccess, .ofText "Ss"⟩)] := by decide +kernel
  have hcrowded : crowdedRoles.entries.entries = [("O", ⟨.entryPoint, .ofText "O"⟩),
      ("Os", ⟨.component, .ofText "Os"⟩), ("Osd", ⟨.unclassified, .ofText "Osd"⟩),
      ("Page", ⟨.entryPoint, .ofText "Page"⟩), ("Ss", ⟨.dataAccess, .ofText "Ss"⟩)] := by decide +kernel
  constructor
  case entryPoint => decide +kernel
  case called =>
    intro name entry hrole
    rw [RoleAssignment.get?, RoleAssignment.get?, Ordered.get?_eq_some_iff, Ordered.get?_eq_some_iff, horder, hcrowded]
    rcases hrole with hrole | hrole <;> grind

theorem traceOperations_crowdedRoles :
    AgreeFor orderRoles crowdedRoles "Page" ∧
      orderTracer.traceOperations orderRoles "Page" = orderTracer.traceOperations crowdedRoles "Page" ∧
      (orderTracer.traceModule crowdedRoles).get? "Page" =
        (orderTracer.traceOperations (crowdedRoles.alone "Page") "Page").toOption :=
  ⟨agreeFor_crowdedRoles, (traceOperations_of_agree orderTracer).1 _ _ _ agreeFor_crowdedRoles,
    (traceOperations_of_agree orderTracer).2 _ _⟩

end Tracer

end CodeSurvey
