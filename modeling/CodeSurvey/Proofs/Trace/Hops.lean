/-
What one call in an entry point adds to its edges.

`addCall` is the step of a trace. Everything it can do is said once, in `addCall_cases`: it leaves the edges alone, or
it pushes the edge of the first hop and, where that edge ends in a component, all edges of the second hop behind it.
- `mem_secondHop`: an edge of the second hop leads from the component into data access, by a method that is not ignored.
- `roleOf_target`: where an injection map holds only classes that an entry point may call, a receiver refers to a
  component or to data access.
-/
import CodeSurvey.Trace.Tracer

namespace CodeSurvey.Tracer

/-- the edge from an entry point to the class that a call refers to -/
def firstHop (view : ModuleView) (entryPoint target method : String) : Edge :=
  Edge.make entryPoint target method (view.roles.roleOf target)

/-- the edges that follow the first hop -/
def further (t : Tracer) (view : ModuleView) (target method : String) : List Edge :=
  if view.roles.roleOf target = .component then t.secondHop view target method else []

theorem mem_calls {ignored : IgnoreList} {body : String} {c : String × String} (h : c ∈ calls ignored body) :
    ignored.ignores c.2 = false := by
  have hkept := (List.mem_filter.1 h).2
  simp only [Bool.not_eq_true', Bool.or_eq_false_iff] at hkept
  exact hkept.2

/-- **The step.** A call adds nothing when its receiver refers to no class, to a class without an active role, or when
its edge is there; else it adds its edge and the edges of the second hop. -/
theorem addCall_cases (t : Tracer) (view : ModuleView) (entryPoint : String) (injections : InjectionMap) (s : EdgeSet)
    (call : String × String) :
    (target? view injections call.1 = none ∧ t.addCall view entryPoint injections s call = s) ∨
    ∃ target, target? view injections call.1 = some target ∧
      (((view.roles.roleOf target).isActive = false ∧ t.addCall view entryPoint injections s call = s) ∨
        ((view.roles.roleOf target).isActive = true ∧
          ((s.holds (firstHop view entryPoint target call.2) = true ∧
              t.addCall view entryPoint injections s call = s) ∨
            (s.holds (firstHop view entryPoint target call.2) = false ∧
              t.addCall view entryPoint injections s call =
                (t.further view target call.2).foldl EdgeSet.push
                  (s.push (firstHop view entryPoint target call.2)))))) := by
  cases htarget : target? view injections call.1 with
  | none => exact .inl ⟨rfl, by simp [addCall, htarget]⟩
  | some target =>
    refine .inr ⟨target, rfl, ?_⟩
    cases hactive : (view.roles.roleOf target).isActive with
    | false => exact .inl ⟨rfl, by simp [addCall, htarget, hactive]⟩
    | true =>
      refine .inr ⟨rfl, ?_⟩
      cases hheld : s.holds (firstHop view entryPoint target call.2) with
      | true =>
        rw [firstHop] at hheld
        exact .inl ⟨rfl, by simp [addCall, htarget, hactive, hheld]⟩
      | false =>
        refine .inr ⟨rfl, ?_⟩
        rw [firstHop] at hheld
        by_cases hrole : view.roles.roleOf target = .component
        · rw [hrole] at hactive hheld
          simp [addCall, htarget, hactive, hheld, further, firstHop, hrole]
        · simp [addCall, htarget, hactive, hheld, further, firstHop, hrole]

/-! ## Where hops lead -/

variable {t : Tracer} {roles : RoleAssignment}

theorem mem_dataCalls {method candidate : String} {found : List (String × String)}
    (h : t.dataCalls? (.of roles) method candidate = some found) {c : String × String} (hc : c ∈ found) :
    roles.roleOf c.1 = .dataAccess ∧ t.ignored.ignores c.2 = false := by
  obtain ⟨entry, -, h⟩ := Option.bind_eq_some_iff.1 h
  cases hread : t.sources.read entry.path with
  | error fault => simp [hread] at h
  | ok text =>
    simp only [hread, Option.map_eq_some_iff] at h
    obtain ⟨body, -, rfl⟩ := h
    obtain ⟨call, hcall, hresolved⟩ := List.mem_filterMap.1 hc
    obtain ⟨target, htarget, rfl⟩ := Option.map_eq_some_iff.1 hresolved
    have hmethod : t.ignored.ignores call.2 = false := mem_calls hcall
    refine ⟨?_, hmethod⟩
    rw [← roles.mem_classesWith_iff_roleOf (by decide)]
    rcases Option.or_eq_some_iff.1 htarget with h | ⟨-, h⟩
    · exact Injection.within_resolve _ _ _ _ _ h
    · exact Names.mem_of_resolve h

/-- An edge of the second hop leads from the component into data access, and its method is not ignored. -/
theorem mem_secondHop {component method : String} {e : Edge} (h : e ∈ t.secondHop (.of roles) component method) :
    e.caller = component ∧ e.calleeRole = .dataAccess ∧ roles.roleOf e.callee = .dataAccess ∧
      t.ignored.ignores e.method = false := by
  obtain ⟨c, hc, rfl⟩ := List.mem_map.1 h
  cases hfound : (t.implementations (.of roles) component).findSome? (t.dataCalls? (.of roles) method) with
  | none => simp [hfound] at hc
  | some found =>
    obtain ⟨candidate, -, hcandidate⟩ := List.exists_of_findSome?_eq_some hfound
    rw [hfound] at hc
    obtain ⟨hrole, hmethod⟩ := mem_dataCalls hcandidate hc
    exact ⟨rfl, rfl, hrole, hmethod⟩

theorem mem_further {target method : String} {e : Edge} (h : e ∈ t.further (.of roles) target method) :
    roles.roleOf target = .component ∧ e ∈ t.secondHop (.of roles) target method := by
  unfold further at h
  split at h
  · exact ⟨‹_›, h⟩
  · simp at h

theorem mem_reachable_iff (name : String) :
    name ∈ (ModuleView.of roles).reachable.toList ↔
      roles.roleOf name = .component ∨ roles.roleOf name = .dataAccess := by
  rw [← roles.mem_classesWith_iff_roleOf (by decide), ← roles.mem_classesWith_iff_roleOf (by decide)]
  exact NameSet.mem_toList_union _ _ _

/-- A receiver refers to a component or to data access, when this holds of every value of the injection map. -/
theorem roleOf_target {injections : InjectionMap} (h : Injection.Within (ModuleView.of roles).reachable injections)
    {receiver target : String} (htarget : target? (.of roles) injections receiver = some target) :
    roles.roleOf target = .component ∨ roles.roleOf target = .dataAccess := by
  rw [← mem_reachable_iff]
  refine (NameSet.mem_toList_union _ _ _).2 ?_
  rcases Option.or_eq_some_iff.1 htarget with htarget | ⟨-, htarget⟩
  · rcases Option.or_eq_some_iff.1 htarget with htarget | ⟨-, htarget⟩
    · exact (NameSet.mem_toList_union _ _ _).1 (h _ _ htarget)
    · exact .inl (Names.mem_of_resolve htarget)
  · exact .inr (Names.mem_of_resolve htarget)

end CodeSurvey.Tracer
