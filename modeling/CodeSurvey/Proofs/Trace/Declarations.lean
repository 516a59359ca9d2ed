/-
From which declaration an operation's edges come.

An operation is chosen and described from one declaration: the first of its name that is mapped or, in a class without
mappings, offered. Its body is looked up once more, by name: the first body of any declaration of that name is traced.
The two searches meet in one declaration exactly when it `LeadsBodies`: no namesake before it has a body, and it has one
itself unless no namesake has.

`followsDeclarations`: every sequence is described from its own declaration; its edges are those of that declaration's
body when the declaration leads the bodies of its name, and else those of another declaration's body.
`edges_helperFirst` is a page where a helper without a mapping stands before the handler of the same name.
-/
import CodeSurvey.Proofs.Trace.Hops
import Mathlib.Data.List.Forall2
import Mathlib.Data.List.Induction

namespace CodeSurvey

open Source (Method)

/-! ## The first declaration of a name -/

namespace Source

/-- The body found for a name is the one of its first declaration that has any. -/
theorem bodyOf_cases (ms : List Method) (name : String) :
    (bodyOf ms name = none ∧ ∀ m ∈ ms, m.name = name → m.body = none) ∨
    ∃ (place : Nat) (m : Method), ms[place]? = some m ∧ m.name = name ∧ m.body ≠ none ∧ bodyOf ms name = m.body ∧
      ∀ (i : Nat) (other : Method), i < place → ms[i]? = some other → other.name = name → other.body = none := by
  induction ms with
  | nil => exact .inl ⟨rfl, by simp⟩
  | cons m ms ih =>
    by_cases hfirst : m.name = name ∧ m.body ≠ none
    · obtain ⟨rfl, hbody⟩ := hfirst
      obtain ⟨body, hsome⟩ := Option.ne_none_iff_exists'.1 hbody
      refine .inr ⟨0, m, rfl, rfl, hbody, ?_, by simp⟩
      simp [bodyOf, hsome]
    · have hpassed : m.name = name → m.body = none := fun hname => by_contra fun hbody => hfirst ⟨hname, hbody⟩
      have hskip : bodyOf (m :: ms) name = bodyOf ms name := by
        by_cases hname : m.name = name
        · simp [bodyOf, hname, hpassed hname]
        · simp [bodyOf, hname]
      rw [hskip]
      rcases ih with ⟨hnone, hall⟩ | ⟨place, found, hplace, hname, hbody, heq, hbefore⟩
      · exact .inl ⟨hnone, List.forall_mem_cons.2 ⟨hpassed, hall⟩⟩
      · refine .inr ⟨place + 1, found, hplace, hname, hbody, heq, fun i other hi hother => ?_⟩
        cases i with
        | zero =>
          obtain rfl := Option.some.inj hother
          exact hpassed
        | succ i => exact hbefore i other (Nat.lt_of_succ_lt_succ hi) hother

/-- no namesake before the place has a body, and none has one if the declaration has none -/
def LeadsBodies (ms : List Method) (place : Nat) (m : Method) : Prop :=
  (∀ (i : Nat) (other : Method), i < place → ms[i]? = some other → other.name = m.name → other.body = none) ∧
    (m.body = none → ∀ other ∈ ms, other.name = m.name → other.body = none)

theorem bodyOf_of_leads {ms : List Method} {place : Nat} {m : Method} (hm : ms[place]? = some m)
    (h : LeadsBodies ms place m) : bodyOf ms m.name = m.body := by
  rcases bodyOf_cases ms m.name with ⟨hnone, hall⟩ | ⟨first, found, hfound, hname, hbody, heq, hbefore⟩
  · rw [hnone, hall m (List.mem_of_getElem? hm) rfl]
  · rcases Nat.lt_trichotomy first place with hlt | rfl | hgt
    · exact absurd (h.1 first found hlt hfound hname) hbody
    · obtain rfl := Option.some.inj (hfound.symm.trans hm)
      exact heq
    · exact absurd (h.2 (hbefore place m hgt hm rfl) found (List.mem_of_getElem? hfound) hname) hbody

theorem bodyOf_of_not_leads {ms : List Method} {place : Nat} {m : Method} (hm : ms[place]? = some m)
    (h : ¬ LeadsBodies ms place m) :
    ∃ (other : Nat) (found : Method), other ≠ place ∧ ms[other]? = some found ∧ found.name = m.name ∧
      found.body ≠ none ∧ bodyOf ms m.name = found.body := by
  rcases bodyOf_cases ms m.name with ⟨-, hall⟩ | ⟨first, found, hfound, hname, hbody, heq, hbefore⟩
  · exact absurd ⟨fun i other _ hother => hall other (List.mem_of_getElem? hother), fun _ => hall⟩ h
  · refine ⟨first, found, ?_, hfound, hname, hbody, heq⟩
    rintro rfl
    obtain rfl := Option.some.inj (hfound.symm.trans hm)
    exact h ⟨hbefore, fun hnone => absurd hnone hbody⟩

end Source

/-! ## The declarations that are operations -/

namespace Endpoint

/-- the declaration is mapped, or offered in a class without mappings -/
def qualifies (className : String) (ms : List Method) (m : Method) : Bool :=
  if ms.any fun other => mapping.occurs other.header then mapping.occurs m.header else isOffered className m

/-- the declaration at the place passes the test, and no namesake before it does -/
def ChosenBy (test : Method → Bool) (ms : List Method) (place : Nat) : Prop :=
  ∃ m, ms[place]? = some m ∧ test m = true ∧
    ∀ (i : Nat) (other : Method), i < place → ms[i]? = some other → other.name = m.name → test other = false

theorem selected_eq (className : String) (ms : List Method) :
    selected className ms = firstOfName (ms.filter (qualifies className ms)) := by
  have hempty : (ms.filter fun m => mapping.occurs m.header).isEmpty = !ms.any fun m => mapping.occurs m.header := by
    rw [Bool.eq_iff_iff]
    simp [List.filter_eq_nil_iff]
  unfold selected
  dsimp only
  rw [hempty]
  cases hmapped : ms.any fun m => mapping.occurs m.header with
  | false =>
    have htest : qualifies className ms = isOffered className := funext fun m => by simp only [qualifies, hmapped]; rfl
    rw [htest]
    rfl
  | true =>
    have htest : qualifies className ms = fun m => mapping.occurs m.header :=
      funext fun m => by simp only [qualifies, hmapped]; rfl
    rw [htest]
    rfl

theorem firstOfName_concat (ms : List Method) (m : Method) :
    firstOfName (ms ++ [m]) =
      if (firstOfName ms).any (·.name == m.name) then firstOfName ms else firstOfName ms ++ [m] := by
  simp [firstOfName, List.foldl_append]

theorem any_firstOfName (ms : List Method) (name : String) :
    (firstOfName ms).any (·.name == name) = ms.any (·.name == name) := by
  induction ms using List.reverseRecOn with
  | nil => rfl
  | append_singleton ms m ih =>
    rw [firstOfName_concat, List.any_append, ← ih]
    split
    · rename_i hheld
      by_cases hname : m.name = name
      · simp [← hname, hheld]
      · simp [hname]
    · simp

theorem chosenBy_concat (test : Method → Bool) (ms : List Method) (m : Method) (place : Nat) :
    ChosenBy test (ms ++ [m]) place ↔
      ChosenBy test ms place ∨
        place = ms.length ∧ test m = true ∧ (ms.filter test).any (·.name == m.name) = false := by
  constructor
  · rintro ⟨found, hfound, htest, hbefore⟩
    rcases Nat.lt_or_ge place ms.length with hlt | hge
    · rw [List.getElem?_append_left hlt] at hfound
      refine .inl ⟨found, hfound, htest, fun i other hi hother => hbefore i other hi ?_⟩
      rw [List.getElem?_append_left (Nat.lt_trans hi hlt), hother]
    · obtain ⟨hbound, -⟩ := List.getElem?_eq_some_iff.1 hfound
      obtain rfl : place = ms.length := by
        rw [List.length_append, List.length_singleton] at hbound
        omega
      obtain rfl : m = found := by simpa using hfound
      refine .inr ⟨rfl, htest, List.any_eq_false.2 fun other hother hname => ?_⟩
      obtain ⟨hmem, hpasses⟩ := List.mem_filter.1 hother
      obtain ⟨i, hi⟩ := List.getElem?_of_mem hmem
      have hlt : i < ms.length := (List.getElem?_eq_some_iff.1 hi).1
      have hfails := hbefore i other hlt (by rw [List.getElem?_append_left hlt, hi]) (beq_iff_eq.1 hname)
      simp [hfails] at hpasses
  · rintro (⟨found, hfound, htest, hbefore⟩ | ⟨rfl, htest, hnone⟩)
    · have hlt : place < ms.length := (List.getElem?_eq_some_iff.1 hfound).1
      refine ⟨found, by rw [List.getElem?_append_left hlt, hfound], htest, fun i other hi hother => ?_⟩
      rw [List.getElem?_append_left (Nat.lt_trans hi hlt)] at hother
      exact hbefore i other hi hother
    · refine ⟨m, by simp, htest, fun i other hi hother hname => ?_⟩
      rw [List.getElem?_append_left hi] at hother
      by_contra hpasses
      refine List.any_eq_false.1 hnone other (List.mem_filter.2 ⟨List.mem_of_getElem? hother, ?_⟩) (beq_iff_eq.2 hname)
      simpa using hpasses

/-- The chosen declarations are the first of each name among those that pass the test, in order. -/
theorem exists_places (test : Method → Bool) (ms : List Method) :
    ∃ places : List Nat, places.Pairwise (· < ·) ∧ (∀ place, place ∈ places ↔ ChosenBy test ms place) ∧
      places.map (ms[·]?) = (firstOfName (ms.filter test)).map some := by
  induction ms using List.reverseRecOn with
  | nil => exact ⟨[], .nil, by simp [ChosenBy], rfl⟩
  | append_singleton ms m ih =>
    obtain ⟨places, hrising, hmem, hmap⟩ := ih
    have hbelow : ∀ place ∈ places, place < ms.length := by
      intro place hplace
      obtain ⟨found, hfound, -⟩ := (hmem place).1 hplace
      exact (List.getElem?_eq_some_iff.1 hfound).1
    have hmap' : places.map ((ms ++ [m])[·]?) = (firstOfName (ms.filter test)).map some := by
      rw [← hmap]
      exact List.map_congr_left fun place hplace => List.getElem?_append_left (hbelow place hplace)
    simp only [chosenBy_concat]
    by_cases hnew : test m = true ∧ (ms.filter test).any (·.name == m.name) = false
    · refine ⟨places ++ [ms.length], ?_, fun place => ?_, ?_⟩
      · rw [List.pairwise_append]
        exact ⟨hrising, List.pairwise_singleton _ _, fun place hplace last hlast =>
          List.mem_singleton.1 hlast ▸ hbelow place hplace⟩
      · rw [List.mem_append, hmem, List.mem_singleton, and_iff_left hnew]
      · rw [List.map_append, hmap', List.filter_append, List.filter_singleton, hnew.1, cond_true,
          firstOfName_concat, any_firstOfName, hnew.2]
        simp
    · refine ⟨places, hrising, fun place => ?_, ?_⟩
      · rw [hmem]
        exact (or_iff_left fun h => hnew h.2).symm
      · rw [hmap', List.filter_append, List.filter_singleton]
        by_cases htest : test m = true
        · have hheld : (ms.filter test).any (·.name == m.name) = true := by
            simpa [htest] using hnew
          rw [htest, cond_true, firstOfName_concat, any_firstOfName, if_pos hheld]
        · rw [Bool.eq_false_iff.2 htest, cond_false, List.append_nil]

end Endpoint

/-! ## Sequences and declarations -/

namespace Tracer

/-- the edges of an entry point's body, none where there is no body -/
def edgesOf (t : Tracer) (roles : RoleAssignment) (entryPoint text : String) : Option String → List Edge
  | some body =>
    (t.traceBody (.of roles) entryPoint
      (Injection.resolve text (some entryPoint) (ModuleView.of roles).reachable) body).edges
  | none => []

/-- There is one sequence for each chosen declaration, in their order. It is described from the declaration, and its
edges are those of the declaration's body if this leads the bodies of its name, else those of another one's body. -/
def FollowsDeclarations (t : Tracer) (roles : RoleAssignment) (entryPoint text : String) : Prop :=
  let ms := Source.methods text
  ∃ (places : List Nat) (sequences : List CallSequence),
    t.traceOperations roles entryPoint = .ok sequences ∧
    places.Pairwise (· < ·) ∧
    (∀ place, place ∈ places ↔ Endpoint.ChosenBy (Endpoint.qualifies entryPoint ms) ms place) ∧
    List.Forall₂ (fun place s => ∃ m, ms[place]? = some m ∧
      s.operation = Endpoint.describe t.sources m ∧
      (Source.LeadsBodies ms place m → s.edges = t.edgesOf roles entryPoint text m.body) ∧
      (¬ Source.LeadsBodies ms place m → ∃ other found, other ≠ place ∧ ms[other]? = some found ∧
        found.name = m.name ∧ found.body ≠ none ∧ s.edges = t.edgesOf roles entryPoint text found.body))
      places sequences

/-- the sequence of a chosen declaration, with the edges of the first body of its name -/
def sequenceOf (t : Tracer) (roles : RoleAssignment) (entryPoint text : String) (m : Method) : CallSequence :=
  .ofEdges (Endpoint.describe t.sources m) <|
    match Source.bodyOf (Source.methods text) m.name with
    | some body => t.traceBody (.of roles) entryPoint
        (Injection.resolve text (some entryPoint) (ModuleView.of roles).reachable) body
    | none => .empty

theorem edges_sequenceOf (t : Tracer) (roles : RoleAssignment) (entryPoint text : String) (m : Method) :
    (t.sequenceOf roles entryPoint text m).edges =
      t.edgesOf roles entryPoint text (Source.bodyOf (Source.methods text) m.name) := by
  unfold sequenceOf
  cases Source.bodyOf (Source.methods text) m.name <;> rfl

theorem traceOperations_eq_ok (t : Tracer) {roles : RoleAssignment} {entryPoint text : String} {entry : RoleEntry}
    (hentry : roles.get? entryPoint = some entry) (hrole : entry.role = .entryPoint)
    (hread : t.sources.read entry.path = .ok text) :
    t.traceOperations roles entryPoint =
      .ok ((Endpoint.selected entryPoint (Source.methods text)).map (t.sequenceOf roles entryPoint text)) := by
  simp only [traceOperations, hentry, Option.filter, hrole, decide_true, if_true, hread, Except.map,
    Endpoint.operations, List.map_map]
  rfl

/-- **Operations and bodies belong to the same declaration, unless an overload has the first body.** -/
theorem followsDeclarations (t : Tracer) (roles : RoleAssignment) (entryPoint text : String) (entry : RoleEntry)
    (hentry : roles.get? entryPoint = some entry) (hrole : entry.role = .entryPoint)
    (hread : t.sources.read entry.path = .ok text) : t.FollowsDeclarations roles entryPoint text := by
  obtain ⟨places, hrising, hmem, hmap⟩ :=
    Endpoint.exists_places (Endpoint.qualifies entryPoint (Source.methods text)) (Source.methods text)
  rw [← Endpoint.selected_eq, ← List.forall₂_eq_eq_eq, List.forall₂_map_left_iff, List.forall₂_map_right_iff] at hmap
  refine ⟨places, _, t.traceOperations_eq_ok hentry hrole hread, hrising, hmem, ?_⟩
  rw [List.forall₂_map_right_iff]
  refine hmap.imp fun place m hm => ⟨m, hm, rfl, fun hleads => ?_, fun hleads => ?_⟩
  · rw [t.edges_sequenceOf, Source.bodyOf_of_leads hm hleads]
  · obtain ⟨other, found, hne, hfound, hname, hbody, heq⟩ := Source.bodyOf_of_not_leads hm hleads
    exact ⟨other, found, hne, hfound, hname, hbody, by rw [t.edges_sequenceOf, heq]⟩

/-! ## A page with overloads -/

/-- a page and a store, whose page has the given text -/
def pageTracer (page : String) : Tracer where
  sources := { read := fun _ => .ok page, fileOfType := fun _ => none }
  root := .ofText "src"
  ignored := ⟨[]⟩

def pageRoles : RoleAssignment :=
  [("Page", Role.entryPoint), ("Store", .dataAccess)].foldl (fun a c => (a.insert c.1 ⟨c.2, .ofText c.1⟩).2) .empty

/-- the handler stands behind a namesake without a body and before one with a body -/
def handlerFirst : String :=
  "class Page \x7b A find(); @GetMapping A find(Long id) \x7b store.load(id); \x7d " ++
    "void find(String s) \x7b store.scan(s); \x7d \x7d"

theorem followsDeclarations_handlerFirst :
    pageRoles.get? "Page" = some ⟨.entryPoint, .ofText "Page"⟩ ∧
      (pageTracer handlerFirst).sources.read (.ofText "Page") = .ok handlerFirst ∧
      (pageTracer handlerFirst).FollowsDeclarations pageRoles "Page" handlerFirst ∧
      ((pageTracer handlerFirst).traceOperations pageRoles "Page").toOption.map (List.map CallSequence.edges) =
        some [[.make "Page" "Store" "load" .dataAccess]] := by
  have hentry : pageRoles.get? "Page" = some ⟨.entryPoint, .ofText "Page"⟩ := by decide +kernel
  exact ⟨hentry, rfl, followsDeclarations _ _ _ _ _ hentry rfl rfl, by decide +kernel⟩

/-- a helper without a mapping stands before the handler of its name -/
def helperFirst : String :=
  "class Page \x7b void find(String s) \x7b store.scan(s); \x7d " ++
    "@GetMapping A find(Long id) \x7b store.load(id); \x7d \x7d"

/-- The operation of the page is described from its handler, and its edges are those of the helper. -/
theorem edges_helperFirst :
    ∃ (handler : Method) (s : CallSequence),
      (Source.methods helperFirst)[1]? = some handler ∧ Endpoint.mapping.occurs handler.header = true ∧
      Endpoint.selected "Page" (Source.methods helperFirst) = [handler] ∧
      ((pageTracer helperFirst).traceOperations pageRoles "Page").toOption = some [s] ∧
      s.operation = Endpoint.describe (pageTracer helperFirst).sources handler ∧
      (pageTracer helperFirst).edgesOf pageRoles "Page" helperFirst handler.body =
        [.make "Page" "Store" "load" .dataAccess] ∧
      s.edges = [.make "Page" "Store" "scan" .dataAccess] := by
  refine ⟨⟨"find", "@GetMapping A", "Long id", some "\x7b store.load(id); \x7d"⟩,
    ⟨⟨"find", none, [], some "A", none⟩, [.make "Page" "Store" "scan" .dataAccess], .dataAccess⟩, ?_⟩
  decide +kernel

end Tracer

end CodeSurvey
