/-
What every sequence of an entry point looks like.

`WellTraced` says it in nine fields: no edge twice; every callee a component or data access of the assignment; every
caller the entry point, or a component that the entry point calls in an earlier edge; from a component only into data
access; hence no third hop, no edge from a class to itself, and no unclassified class; no ignored method; and an end in
data access exactly when the last callee is data access.

`wellTraced_of_traceOperations`: this holds of all sequences, for every assignment, every source, every ignore list.
The invariant is `Traced`, a condition on each edge and the edges before it. `traced_addCall` shows that one call keeps
it, `traced_foldl_addCall` that a body does.
-/
import CodeSurvey.Proofs.Trace.Hops

namespace CodeSurvey.Tracer

/-- what a sequence of the entry point satisfies -/
structure WellTraced (t : Tracer) (roles : RoleAssignment) (entryPoint : String) (s : CallSequence) : Prop where
  distinct : (s.edges.map Edge.key).Nodup
  callee : ∀ e ∈ s.edges, (e.calleeRole = .component ∨ e.calleeRole = .dataAccess) ∧
    ∃ entry, roles.get? e.callee = some entry ∧ entry.role = e.calleeRole
  caller : ∀ before e after, s.edges = before ++ e :: after → e.caller = entryPoint ∨
    roles.roleOf e.caller = .component ∧ ∃ f ∈ before, f.caller = entryPoint ∧ f.callee = e.caller
  intoData : ∀ e ∈ s.edges, roles.roleOf e.caller = .component → e.calleeRole = .dataAccess
  twoHops : ∀ e ∈ s.edges, ∀ f ∈ s.edges, e.callee = f.caller →
    e.caller = entryPoint ∧ ∀ g ∈ s.edges, f.callee ≠ g.caller
  noSelf : ∀ e ∈ s.edges, e.caller ≠ e.callee
  active : ∀ e ∈ s.edges, roles.roleOf e.caller ≠ .unclassified ∧ roles.roleOf e.callee ≠ .unclassified
  method : ∀ e ∈ s.edges, t.ignored.ignores e.method = false
  terminal : s.terminal = .dataAccess ↔ ∃ e, s.edges.getLast? = some e ∧ roles.roleOf e.callee = .dataAccess

/-! ## The invariant -/

/-- the edge may stand behind the edges `before` -/
structure Follows (t : Tracer) (roles : RoleAssignment) (entryPoint : String) (before : List Edge) (e : Edge) :
    Prop where
  role : e.calleeRole = .component ∨ e.calleeRole = .dataAccess
  callee : roles.roleOf e.callee = e.calleeRole
  caller : e.caller = entryPoint ∨ e.calleeRole = .dataAccess ∧
    ∃ f ∈ before, f.caller = entryPoint ∧ f.callee = e.caller ∧ f.calleeRole = .component ∧
      roles.roleOf f.callee = .component
  method : t.ignored.ignores e.method = false

/-- each edge may stand behind those before it -/
def Traced (t : Tracer) (roles : RoleAssignment) (entryPoint : String) (edges : List Edge) : Prop :=
  ∀ before e after, edges = before ++ e :: after → Follows t roles entryPoint before e

variable {t : Tracer} {roles : RoleAssignment} {entryPoint : String}

theorem traced_nil : Traced t roles entryPoint [] := by
  intro before e after h
  simp at h

theorem traced_concat {edges : List Edge} {e : Edge} (h : Traced t roles entryPoint edges)
    (he : Follows t roles entryPoint edges e) : Traced t roles entryPoint (edges ++ [e]) := by
  intro before f after heq
  rcases List.append_eq_append_iff.1 heq with ⟨middle, hbefore, hlast⟩ | ⟨middle, hedges, hlast⟩
  · obtain ⟨rfl, h'⟩ | ⟨m, rfl, h'⟩ := List.cons_eq_append_iff.1 hlast
    · obtain ⟨rfl, -⟩ := List.cons.inj h'
      simpa [hbefore] using he
    · simp at h'
  · cases middle with
    | nil =>
      obtain ⟨rfl, -⟩ := List.cons.inj hlast
      simpa [hedges] using he
    | cons g middle =>
      obtain ⟨rfl, -⟩ := List.cons.inj hlast
      exact h before f middle hedges

theorem traced_push {s : EdgeSet} {e : Edge} (h : Traced t roles entryPoint s.edges)
    (he : Follows t roles entryPoint s.edges e) : Traced t roles entryPoint (s.push e).edges := by
  rw [EdgeSet.edges_push]
  split
  · exact h
  · exact traced_concat h he

/-- edges out of a component that the entry point calls keep the invariant -/
theorem traced_foldl_push {component method : String} (hrole : roles.roleOf component = .component) {es : List Edge}
    (hes : ∀ e ∈ es, e ∈ t.secondHop (.of roles) component method) {s : EdgeSet}
    (h : Traced t roles entryPoint s.edges)
    (hfirst : ∃ f ∈ s.edges, f.caller = entryPoint ∧ f.callee = component ∧ f.calleeRole = .component) :
    Traced t roles entryPoint (es.foldl EdgeSet.push s).edges := by
  induction es generalizing s with
  | nil => exact h
  | cons e es ih =>
    obtain ⟨f, hf, hcaller, hcallee, hfrole⟩ := hfirst
    obtain ⟨hfrom, hinto, hdata, hmethod⟩ := mem_secondHop (hes e List.mem_cons_self)
    refine ih (fun e' he' => hes e' (List.mem_cons_of_mem e he')) (traced_push h ?_) ⟨f, ?_, hcaller, hcallee, hfrole⟩
    · exact ⟨.inr hinto, hdata.trans hinto.symm,
        .inr ⟨hinto, f, hf, hcaller, hcallee.trans hfrom.symm, hfrole, hcallee ▸ hrole⟩, hmethod⟩
    · rw [EdgeSet.edges_push]
      split
      · exact hf
      · exact List.mem_append_left _ hf

theorem mem_edges_push_of_new {s : EdgeSet} {e : Edge} (h : s.holds e = false) : e ∈ (s.push e).edges := by
  simp [EdgeSet.edges_push, h]

/-- **A call keeps the invariant.** -/
theorem traced_addCall {injections : InjectionMap} (hin : Injection.Within (ModuleView.of roles).reachable injections)
    {call : String × String} (hcall : t.ignored.ignores call.2 = false) {s : EdgeSet}
    (h : Traced t roles entryPoint s.edges) :
    Traced t roles entryPoint (t.addCall (.of roles) entryPoint injections s call).edges := by
  obtain ⟨-, hstep⟩ | ⟨target, htarget, ⟨-, hstep⟩ | ⟨-, ⟨-, hstep⟩ | ⟨hnew, hstep⟩⟩⟩ :=
    t.addCall_cases (.of roles) entryPoint injections s call
  · rwa [hstep]
  · rwa [hstep]
  · rwa [hstep]
  rw [hstep]
  have hpush : Traced t roles entryPoint (s.push (firstHop (.of roles) entryPoint target call.2)).edges :=
    traced_push h ⟨roleOf_target hin htarget, rfl, .inl rfl, hcall⟩
  by_cases hrole : roles.roleOf target = .component
  · exact traced_foldl_push hrole (fun e he => (mem_further he).2) hpush
      ⟨_, mem_edges_push_of_new hnew, rfl, rfl, hrole⟩
  · have hnone : t.further (.of roles) target call.2 = [] := if_neg hrole
    rwa [hnone]

theorem traced_foldl_addCall {injections : InjectionMap}
    (hin : Injection.Within (ModuleView.of roles).reachable injections) {cs : List (String × String)}
    (hcs : ∀ c ∈ cs, t.ignored.ignores c.2 = false) {s : EdgeSet} (h : Traced t roles entryPoint s.edges) :
    Traced t roles entryPoint (cs.foldl (t.addCall (.of roles) entryPoint injections) s).edges := by
  induction cs generalizing s with
  | nil => exact h
  | cons call cs ih =>
    exact ih (fun c hc => hcs c (List.mem_cons_of_mem call hc)) (traced_addCall hin (hcs call List.mem_cons_self) h)

theorem traced_traceBody {injections : InjectionMap}
    (hin : Injection.Within (ModuleView.of roles).reachable injections) (body : String) :
    Traced t roles entryPoint (t.traceBody (.of roles) entryPoint injections body).edges :=
  traced_foldl_addCall hin (fun _ hc => mem_calls hc) traced_nil

/-! ## From the invariant to sequences -/

theorem follows_of_mem {edges : List Edge} (h : Traced t roles entryPoint edges) {e : Edge} (he : e ∈ edges) :
    ∃ before, (∀ f ∈ before, f ∈ edges) ∧ Follows t roles entryPoint before e := by
  obtain ⟨before, after, rfl⟩ := List.append_of_mem he
  exact ⟨before, fun f hf => List.mem_append_left _ hf, h before e after rfl⟩

/-- the caller is the entry point, or a component whose edge leads into data access -/
theorem caller_cases {before : List Edge} {e : Edge} (h : Follows t roles entryPoint before e) :
    e.caller = entryPoint ∨ roles.roleOf e.caller = .component ∧ e.calleeRole = .dataAccess := by
  rcases h.caller with hentry | ⟨hdata, f, -, -, hcallee, -, hrole⟩
  · exact .inl hentry
  · exact .inr ⟨hcallee ▸ hrole, hdata⟩

theorem terminal_of_iff (edges : List Edge) :
    Terminal.of edges = .dataAccess ↔ ∃ e, edges.getLast? = some e ∧ e.calleeRole = .dataAccess := by
  unfold Terminal.of
  cases edges.getLast? with
  | none => simp
  | some e => by_cases h : e.calleeRole = .dataAccess <;> simp [h]

theorem wellTraced_ofEdges (hentry : roles.roleOf entryPoint = .entryPoint) (operation : Operation) {s : EdgeSet}
    (h : Traced t roles entryPoint s.edges) : WellTraced t roles entryPoint (.ofEdges operation s) := by
  have hfollows : ∀ e ∈ s.edges, ∃ before, (∀ f ∈ before, f ∈ s.edges) ∧ Follows t roles entryPoint before e :=
    fun e he => follows_of_mem h he
  -- the two kinds of callers, told apart by role
  have hcaller : ∀ e ∈ s.edges, roles.roleOf e.caller = .entryPoint ∧ e.caller = entryPoint ∨
      roles.roleOf e.caller = .component ∧ e.calleeRole = .dataAccess := by
    intro e he
    obtain ⟨before, -, hf⟩ := hfollows e he
    rcases caller_cases hf with hc | hc
    · exact .inl ⟨hc ▸ hentry, hc⟩
    · exact .inr hc
  have hcallee : ∀ e ∈ s.edges, roles.roleOf e.callee = e.calleeRole ∧
      (e.calleeRole = .component ∨ e.calleeRole = .dataAccess) := by
    intro e he
    obtain ⟨before, -, hf⟩ := hfollows e he
    exact ⟨hf.callee, hf.role⟩
  constructor
  case distinct => exact s.distinct
  case callee =>
    intro e he
    obtain ⟨hrole, hkind⟩ := hcallee e he
    refine ⟨hkind, (roles.mem_classesWith e.calleeRole e.callee).1 ?_⟩
    rw [roles.mem_classesWith_iff_roleOf]
    · exact hrole
    · rcases hkind with hkind | hkind <;> simp [hkind]
  case caller =>
    intro before e after hsplit
    rcases (h before e after hsplit).caller with hc | ⟨-, f, hf, hfrom, hto, -, hrole⟩
    · exact .inl hc
    · exact .inr ⟨hto ▸ hrole, f, hf, hfrom, hto⟩
  case intoData =>
    intro e he hrole
    rcases hcaller e he with ⟨hc, -⟩ | ⟨-, hdata⟩
    · simp [hc] at hrole
    · exact hdata
  case twoHops =>
    -- a callee that calls is a component, so what it calls is data access, and that calls nothing
    intro e he f hf hef
    obtain ⟨herole, hekind⟩ := hcallee e he
    rcases hcaller f hf with ⟨hfc, -⟩ | ⟨hfc, hfdata⟩
    · rw [← hef, herole] at hfc
      simp [hfc] at hekind
    · rw [← hef, herole] at hfc
      refine ⟨?_, fun g hg hfg => ?_⟩
      · rcases hcaller e he with ⟨-, hc⟩ | ⟨-, hdata⟩
        · exact hc
        · simp [hfc] at hdata
      · have hgc : roles.roleOf g.caller = .dataAccess := hfg ▸ (hcallee f hf).1.trans hfdata
        rcases hcaller g hg with ⟨hg', -⟩ | ⟨hg', -⟩ <;> simp [hgc] at hg'
  case noSelf =>
    intro e he heq
    obtain ⟨hrole, hkind⟩ := hcallee e he
    rw [← heq] at hrole
    rcases hcaller e he with ⟨hc, -⟩ | ⟨hc, hdata⟩
    · rw [hc] at hrole
      simp [← hrole] at hkind
    · simp [hc, hdata] at hrole
  case active =>
    intro e he
    obtain ⟨hrole, hkind⟩ := hcallee e he
    constructor
    · rcases hcaller e he with ⟨hc, -⟩ | ⟨hc, -⟩ <;> simp [hc]
    · rcases hkind with hkind | hkind <;> simp [hrole, hkind]
  case method =>
    intro e he
    obtain ⟨before, -, hf⟩ := hfollows e he
    exact hf.method
  case terminal =>
    refine (terminal_of_iff s.edges).trans (exists_congr fun e => and_congr_right fun hlast => ?_)
    rw [(hcallee e (List.mem_of_getLast? hlast)).1]

/-- **Every sequence is well traced**, for every assignment of roles, all sources, every ignore list and every class
whose operations are traced. -/
theorem wellTraced_of_traceOperations (t : Tracer) (roles : RoleAssignment) (entryPoint : String)
    (sequences : List CallSequence) (h : t.traceOperations roles entryPoint = .ok sequences) :
    ∀ s ∈ sequences, WellTraced t roles entryPoint s := by
  intro s hs
  unfold traceOperations at h
  cases hget : (roles.get? entryPoint).filter (·.role = .entryPoint) with
  | none => simp [hget] at h
  | some entry =>
    have hentry : roles.roleOf entryPoint = .entryPoint := by
      obtain ⟨hfound, hrole⟩ := Option.filter_eq_some_iff.1 hget
      rw [roles.roleOf_of_get? hfound]
      simpa using hrole
    rw [hget] at h
    cases hread : t.sources.read entry.path with
    | error fault => simp [hread, Except.map] at h
    | ok text =>
      simp only [hread, Except.map, Except.ok.injEq] at h
      subst h
      obtain ⟨operation, -, rfl⟩ := List.mem_map.1 hs
      refine wellTraced_ofEdges hentry operation ?_
      split
      · exact traced_traceBody (Injection.within_resolve _ _ _) _
      · exact traced_nil

/-! ## An order page -/

/-- a page calls a service twice and a store once, and the service calls the store; `log` is ignored -/
def orderTracer : Tracer where
  sources := {
    read := fun p =>
      if p.text = "Page" then .ok "class Page \x7b @GET A go() \x7b os.put(); os.put(); os.log(); ss.add(); \x7d \x7d"
      else .ok "class Os \x7b void put() \x7b ss.add(); \x7d \x7d"
    fileOfType := fun _ => none }
  root := .ofText "src"
  ignored := ⟨[.concat [.look .textStart, .text "log".toList, .look .textEnd]]⟩

def orderRoles : RoleAssignment :=
  [("Page", Role.entryPoint), ("Os", .component), ("Ss", .dataAccess), ("A", .unclassified)].foldl
    (fun a c => (a.insert c.1 ⟨c.2, .ofText c.1⟩).2) .empty

def orderSequence : CallSequence where
  operation := ⟨"go", none, [], some "A", none⟩
  edges := [.make "Page" "Os" "put" .component, .make "Os" "Ss" "add" .dataAccess, .make "Page" "Ss" "add" .dataAccess]
  terminal := .dataAccess

theorem wellTraced_orderSequence :
    orderTracer.traceOperations orderRoles "Page" = .ok [orderSequence] ∧
      WellTraced orderTracer orderRoles "Page" orderSequence := by
  have hrun : (orderTracer.traceOperations orderRoles "Page").toOption = some [orderSequence] := by decide +kernel
  have hok : orderTracer.traceOperations orderRoles "Page" = .ok [orderSequence] := by
    cases h : orderTracer.traceOperations orderRoles "Page" with
    | error fault => simp [h, Except.toOption] at hrun
    | ok sequences => simpa [h, Except.toOption] using hrun
  exact ⟨hok, wellTraced_of_traceOperations _ _ _ _ hok _ List.mem_cons_self⟩

end CodeSurvey.Tracer
