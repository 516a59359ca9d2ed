/-
The edges of a body against a plain reference.

The reference walks the calls of a body in text order and emits, for each call whose receiver refers to a class, the
edge of the call and, where the class is a component, every edge into data access from the first class whose source has
a body for the method (`emittedBy`). Afterwards every edge is dropped whose caller, callee and method were emitted
before (`dropRepeated`). The tracer does this in one pass, and passes over the second hop of a call whose edge is there.

`traceBody_edges`: both give the same edges in the same order, for every repetition of calls. The invariant is
`Followed`: a first hop into a component that is there has all edges of its second hop beside it.
-/
import CodeSurvey.Proofs.Trace.Hops

namespace CodeSurvey.Tracer

/-! ## The reference -/

/-- the class a receiver refers to: the first answer of the injection map, the components and data access -/
def referredClass? (view : ModuleView) (injections : InjectionMap) (receiver : String) : Option String :=
  [injections.get? receiver, Names.resolve receiver view.components,
    Names.resolve receiver view.dataAccess].findSome? id

/-- the text of a class's file and the body of the method in it -/
def bodyIn? (t : Tracer) (view : ModuleView) (method candidate : String) : Option (String × String) :=
  match view.roles.get? candidate with
  | none => none
  | some entry =>
    match t.sources.read entry.path with
    | .error _ => none
    | .ok text => (Source.bodyOf (Source.methods text) method).map fun body => (text, body)

/-- the edges into data access that the calls of a component's body make, in text order -/
def dataEdges (t : Tracer) (view : ModuleView) (component candidate text body : String) : List Edge :=
  (calls t.ignored body).filterMap fun (receiver, called) =>
    match (Injection.resolve text (some candidate) view.dataAccess).get? receiver with
    | some target => some (Edge.make component target called .dataAccess)
    | none =>
      match Names.resolve receiver view.dataAccess with
      | some target => some (Edge.make component target called .dataAccess)
      | none => none

/-- the edges from the first class that has a body for the component's method -/
def bodyEdges (t : Tracer) (view : ModuleView) (component method : String) : List Edge :=
  match (t.implementations view component).find? fun c => (t.bodyIn? view method c).isSome with
  | none => []
  | some candidate =>
    match t.bodyIn? view method candidate with
    | some (text, body) => t.dataEdges view component candidate text body
    | none => []

/-- the edges that one call emits -/
def emittedBy (t : Tracer) (view : ModuleView) (entryPoint : String) (injections : InjectionMap)
    (call : String × String) : List Edge :=
  match referredClass? view injections call.1 with
  | none => []
  | some target =>
    Edge.make entryPoint target call.2 (view.roles.roleOf target) ::
      if view.roles.roleOf target = .component then t.bodyEdges view target call.2 else []

/-- the edges whose key was not emitted before; `before` holds all that were emitted -/
def dropRepeated (before : List Edge) : List Edge → List Edge
  | [] => []
  | e :: es =>
    if e.key ∈ before.map Edge.key then dropRepeated (before ++ [e]) es else e :: dropRepeated (before ++ [e]) es

/-- the receiver refers to a class that takes no part in traces -/
def refersToInactive (view : ModuleView) (injections : InjectionMap) (call : String × String) : Bool :=
  (referredClass? view injections call.1).any fun target => !(view.roles.roleOf target).isActive

/-! ## The reference in the tracer's terms -/

theorem referredClass_eq (view : ModuleView) (injections : InjectionMap) (receiver : String) :
    referredClass? view injections receiver = target? view injections receiver := by
  unfold referredClass? target?
  cases injections.get? receiver <;> cases Names.resolve receiver view.components <;>
    cases Names.resolve receiver view.dataAccess <;> rfl

theorem dataCalls_eq (t : Tracer) (view : ModuleView) (component method candidate : String) :
    (t.dataCalls? view method candidate).map (List.map fun c => Edge.make component c.1 c.2 .dataAccess) =
      (t.bodyIn? view method candidate).map fun b => t.dataEdges view component candidate b.1 b.2 := by
  unfold dataCalls? bodyIn?
  cases view.roles.get? candidate with
  | none => rfl
  | some entry =>
    dsimp only [Option.bind_some]
    cases t.sources.read entry.path with
    | error fault => rfl
    | ok text =>
      dsimp only
      rw [Option.map_map, Option.map_map]
      refine congrArg (Option.map · _) (funext fun body => ?_)
      simp only [Function.comp_apply, dataEdges, List.map_filterMap]
      refine congrArg (List.filterMap · _) (funext fun call => ?_)
      cases (Injection.resolve text (some candidate) view.dataAccess).get? call.1 <;>
        cases Names.resolve call.1 view.dataAccess <;> rfl

theorem secondHop_eq (t : Tracer) (view : ModuleView) (component method : String) :
    t.secondHop view component method = t.bodyEdges view component method := by
  unfold secondHop bodyEdges
  induction t.implementations view component with
  | nil => rfl
  | cons candidate others ih =>
    have heq := t.dataCalls_eq view component method candidate
    rw [List.findSome?_cons, List.find?_cons]
    cases hbody : t.bodyIn? view method candidate with
    | none =>
      rw [hbody, Option.map_none, Option.map_eq_none_iff] at heq
      simpa [heq] using ih
    | some b =>
      rw [hbody, Option.map_some, Option.map_eq_some_iff] at heq
      obtain ⟨found, hfound, hedges⟩ := heq
      simp [hfound, hbody, ← hedges]

theorem emittedBy_eq (t : Tracer) (view : ModuleView) (entryPoint : String) (injections : InjectionMap)
    (call : String × String) :
    t.emittedBy view entryPoint injections call =
      match target? view injections call.1 with
      | none => []
      | some target => firstHop view entryPoint target call.2 :: t.further view target call.2 := by
  unfold emittedBy further firstHop
  simp only [referredClass_eq, secondHop_eq]

/-! ## One pass -/

/-- each first hop into a component stands beside all edges of its second hop -/
def Followed (t : Tracer) (view : ModuleView) (entryPoint : String) (s : EdgeSet) : Prop :=
  ∀ target method, s.holds (firstHop view entryPoint target method) = true →
    ∀ e ∈ t.further view target method, s.holds e = true

theorem followed_empty (t : Tracer) (view : ModuleView) (entryPoint : String) :
    Followed t view entryPoint .empty := by
  intro target method h
  simp [EdgeSet.holds_iff, EdgeSet.empty] at h

variable {t : Tracer} {roles : RoleAssignment} {entryPoint : String}

/-- an edge with the key of a second hop is no first hop into a component -/
theorem further_eq_nil_of_key {component method target called : String} {e : Edge}
    (h : e ∈ t.further (.of roles) component method)
    (hkey : (firstHop (.of roles) entryPoint target called).key = e.key) :
    t.further (.of roles) target called = [] := by
  obtain ⟨-, -, hrole, -⟩ := mem_secondHop (mem_further h).2
  have htarget : target = e.callee := congrArg (·.2.1) hkey
  unfold further
  rw [if_neg]
  intro hcomponent
  have : roles.roleOf target = .dataAccess := htarget ▸ hrole
  exact absurd (hcomponent.symm.trans this) (by decide)

theorem followed_push {s : EdgeSet} (h : Followed t (.of roles) entryPoint s) (component method : String) :
    Followed t (.of roles) entryPoint
      ((t.further (.of roles) component method).foldl EdgeSet.push
        (s.push (firstHop (.of roles) entryPoint component method))) := by
  intro target called hheld e he
  rw [EdgeSet.holds_foldl_push, EdgeSet.holds_push] at hheld ⊢
  rcases hheld with (hold | hnew) | ⟨f, hf, hkey⟩
  · exact .inl (.inl (h target called hold e he))
  · have htarget : target = component := congrArg (·.2.1) hnew
    have hcalled : called = method := congrArg (·.2.2) hnew
    subst htarget hcalled
    exact .inr ⟨e, he, rfl⟩
  · rw [further_eq_nil_of_key hf hkey] at he
    simp at he

/-- **A call adds what it emits**, also where the tracer passes over it. -/
theorem addCall_eq_push {s : EdgeSet} (h : Followed t (.of roles) entryPoint s) (injections : InjectionMap)
    (call : String × String) (hactive : refersToInactive (.of roles) injections call = false) :
    t.addCall (.of roles) entryPoint injections s call =
        (t.emittedBy (.of roles) entryPoint injections call).foldl EdgeSet.push s ∧
      Followed t (.of roles) entryPoint (t.addCall (.of roles) entryPoint injections s call) := by
  rw [emittedBy_eq]
  unfold refersToInactive at hactive
  rw [referredClass_eq] at hactive
  obtain ⟨htarget, hstep⟩ | ⟨target, htarget, ⟨hrole, -⟩ | ⟨-, ⟨hheld, hstep⟩ | ⟨-, hstep⟩⟩⟩ :=
    t.addCall_cases (.of roles) entryPoint injections s call
  · rw [hstep, htarget]
    exact ⟨rfl, h⟩
  · simp [htarget, hrole] at hactive
  · rw [hstep, htarget]
    refine ⟨(EdgeSet.foldl_push_of_holds fun e he => ?_).symm, h⟩
    rcases List.mem_cons.1 he with rfl | he
    · exact hheld
    · exact h target call.2 hheld e he
  · rw [hstep, htarget]
    exact ⟨rfl, followed_push h target call.2⟩

theorem addCall_of_inactive (s : EdgeSet) (injections : InjectionMap) (call : String × String)
    (h : refersToInactive (.of roles) injections call = true) :
    t.addCall (.of roles) entryPoint injections s call = s := by
  unfold refersToInactive at h
  rw [referredClass_eq] at h
  obtain ⟨-, hstep⟩ | ⟨target, htarget, ⟨-, hstep⟩ | ⟨hrole, -⟩⟩ :=
    t.addCall_cases (.of roles) entryPoint injections s call
  · exact hstep
  · exact hstep
  · simp [htarget, hrole] at h

theorem foldl_addCall_eq_push (injections : InjectionMap) (cs : List (String × String)) {s : EdgeSet}
    (h : Followed t (.of roles) entryPoint s) :
    cs.foldl (t.addCall (.of roles) entryPoint injections) s =
      ((cs.filter fun c => !refersToInactive (.of roles) injections c).flatMap
        (t.emittedBy (.of roles) entryPoint injections)).foldl EdgeSet.push s := by
  induction cs generalizing s with
  | nil => rfl
  | cons call cs ih =>
    rw [List.foldl_cons]
    cases hactive : refersToInactive (.of roles) injections call with
    | true => rw [addCall_of_inactive s injections call hactive, ih h, List.filter_cons_of_neg (by simp [hactive])]
    | false =>
      obtain ⟨hpush, hfollowed⟩ := addCall_eq_push h injections call hactive
      rw [ih hfollowed, hpush, List.filter_cons_of_pos (by simp [hactive]), List.flatMap_cons, List.foldl_append]

theorem edges_foldl_push (es before : List Edge) (s : EdgeSet)
    (h : ∀ e, s.holds e = true ↔ e.key ∈ before.map Edge.key) :
    (es.foldl EdgeSet.push s).edges = s.edges ++ dropRepeated before es := by
  induction es generalizing before s with
  | nil => simp [dropRepeated]
  | cons e es ih =>
    have hnext : ∀ f, (s.push e).holds f = true ↔ f.key ∈ (before ++ [e]).map Edge.key := by
      intro f
      rw [EdgeSet.holds_push, h, List.map_append, List.mem_append]
      simp
    rw [List.foldl_cons, ih _ _ hnext, EdgeSet.edges_push, dropRepeated]
    by_cases hkey : e.key ∈ before.map Edge.key
    · rw [if_pos ((h e).2 hkey), if_pos hkey]
    · rw [if_neg (mt (h e).1 hkey), if_neg hkey, List.append_assoc, List.singleton_append]

theorem not_refersToInactive {injections : InjectionMap}
    (h : Injection.Within (ModuleView.of roles).reachable injections) (call : String × String) :
    refersToInactive (.of roles) injections call = false := by
  unfold refersToInactive
  rw [referredClass_eq]
  cases htarget : target? (.of roles) injections call.1 with
  | none => rfl
  | some target =>
    rcases roleOf_target h htarget with hrole | hrole
    · simp [ModuleView.of, hrole, Role.isActive]
    · simp [ModuleView.of, hrole, Role.isActive]

/-- **One pass equals emit-then-drop.** The edges of a body are those that its calls emit, in text order and without
repetitions. Calls of classes without an active role are left out; under the injection map of a source file, which holds
only classes that an entry point may call, there are none of these. -/
theorem traceBody_edges (t : Tracer) (roles : RoleAssignment) (entryPoint body : String) :
    (∀ injections : InjectionMap,
      (t.traceBody (.of roles) entryPoint injections body).edges =
        dropRepeated [] (((calls t.ignored body).filter fun c => !refersToInactive (.of roles) injections c).flatMap
          (t.emittedBy (.of roles) entryPoint injections))) ∧
    ∀ (text : String) (className : Option String),
      let injections := Injection.resolve text className (ModuleView.of roles).reachable
      (t.traceBody (.of roles) entryPoint injections body).edges =
        dropRepeated [] ((calls t.ignored body).flatMap (t.emittedBy (.of roles) entryPoint injections)) := by
  have hall : ∀ injections : InjectionMap,
      (t.traceBody (.of roles) entryPoint injections body).edges =
        dropRepeated [] (((calls t.ignored body).filter fun c => !refersToInactive (.of roles) injections c).flatMap
          (t.emittedBy (.of roles) entryPoint injections)) := by
    intro injections
    unfold traceBody
    rw [foldl_addCall_eq_push injections _ (followed_empty t _ entryPoint),
      edges_foldl_push _ [] _ (by simp [EdgeSet.holds_iff, EdgeSet.empty])]
    rfl
  refine ⟨hall, fun text className => ?_⟩
  intro injections
  have hwithin : Injection.Within (ModuleView.of roles).reachable injections := Injection.within_resolve _ _ _
  rw [hall injections, List.filter_eq_self.2 fun c _ => by rw [not_refersToInactive hwithin c]; rfl]

end CodeSurvey.Tracer
