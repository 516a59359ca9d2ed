/-
Which declaration a field gets its class from.

A text declares a field by an annotation, by a constructor that assigns a parameter to it, or plainly; `Declares` says
so, with the place where the declaration stands. They count in this order, those of one kind in text order. The map of
the fields is a fold that records a declaration unless the name is there (`get?_record`), so over all of them the first
declaration of a name counts whose type is resolved (`get?_foldl_record`), and what is not resolved leaves no trace.
Main statement: `resolve_first`.
-/
import CodeSurvey.Proofs.Pattern.Places
import CodeSurvey.Trace.Injection

namespace CodeSurvey.Injection

/-! ## Declarations and their order -/

/-- how a field is declared -/
inductive Kind
  | annotated
  | assigned
  | plain

/-- the kinds count one after the other -/
def Kind.rank : Kind → Nat
  | annotated => 0
  | assigned => 1
  | plain => 2

/-- a declaration of a field and the place in the text where it stands -/
structure Declaration where
  kind : Kind
  place : Nat
  name : String
  type : String

namespace Declaration

/-- the one declaration counts before the other -/
def Before (d e : Declaration) : Prop :=
  d.kind.rank < e.kind.rank ∨ d.kind.rank = e.kind.rank ∧ d.place < e.place

theorem not_before_self (d : Declaration) : ¬ d.Before d := by
  rintro (h | ⟨-, h⟩)
  · exact Nat.lt_irrefl _ h
  · exact Nat.lt_irrefl _ h

theorem Before.not_after {d e : Declaration} (h : d.Before e) : ¬ e.Before d := by
  unfold Before at h ⊢
  omega

/-- the name and the type -/
def pair (d : Declaration) : String × String := (d.name, d.type)

end Declaration

/-- the parameters that the constructors declare, in text order -/
def declaredParameters (text className : String) : List (String × String) :=
  ((constructorHead className).findAll text).flatMap fun m => parameters (m.group 1)

/-- the text of a class declares a field -/
inductive Declares (text : String) (className : Option String) : Declaration → Prop
  | annotated {place : Nat} {m : Match} (h : (place, m) ∈ annotatedField.placed text) :
    Declares text className ⟨.annotated, place, m.group 2, m.group 1⟩
  | assigned {place : Nat} {m : Match} {name type : String} (hname : className = some name)
    (h : (place, m) ∈ assignment.placed text) (htype : (declaredParameters text name).lookup (m.group 2) = some type) :
    Declares text className ⟨.assigned, place, m.group 1, type⟩
  | plain {place : Nat} {m : Match} (h : (place, m) ∈ plainField.placed text) :
    Declares text className ⟨.plain, place, m.group 2, m.group 1⟩

/-! ## All declarations of a text -/

/-- the matches of a pattern that declares a field: group 1 its type, group 2 its name -/
def declaredBy (kind : Kind) (p : Pattern) (text : String) : List Declaration :=
  (p.placed text).map fun a => ⟨kind, a.1, a.2.group 2, a.2.group 1⟩

/-- the assignments of constructor parameters -/
def assignedFields (text className : String) : List Declaration :=
  (assignment.placed text).filterMap fun a =>
    ((declaredParameters text className).lookup (a.2.group 2)).map fun type => ⟨.assigned, a.1, a.2.group 1, type⟩

/-- the declarations with their places, in the order in which they count -/
def placedDeclarations (text : String) (className : Option String) : List Declaration :=
  declaredBy .annotated annotatedField text ++ (className.map (assignedFields text)).getD []
    ++ declaredBy .plain plainField text

theorem get?_constructorParameters (text className param : String) :
    (constructorParameters text className).get? param = (declaredParameters text className).lookup param :=
  Ordered.get?_foldl_insertNew (declaredParameters text className) Ordered.empty param

theorem pair_declaredBy (kind : Kind) (p : Pattern) (text : String) :
    (declaredBy kind p text).map Declaration.pair = (p.findAll text).map fun m => (m.group 2, m.group 1) := by
  rw [declaredBy, ← Pattern.map_snd_placed, List.map_map, List.map_map]
  rfl

theorem pair_assignedFields (text className : String) :
    (assignedFields text className).map Declaration.pair = constructorAssignments text className := by
  rw [assignedFields, constructorAssignments, ← Pattern.map_snd_placed, List.map_filterMap, List.filterMap_map]
  refine congrArg (List.filterMap · _) (funext fun a => ?_)
  rw [Function.comp_apply, get?_constructorParameters, Option.map_map]
  rfl

theorem pair_placedDeclarations (text : String) (className : Option String) :
    (placedDeclarations text className).map Declaration.pair = declarations text className := by
  rw [placedDeclarations, declarations, List.map_append, List.map_append, pair_declaredBy, pair_declaredBy]
  cases className with
  | none => rfl
  | some name => rw [Option.map_some, Option.getD_some, pair_assignedFields, Option.map_some, Option.getD_some]

theorem mem_placedDeclarations_iff (text : String) (className : Option String) (d : Declaration) :
    d ∈ placedDeclarations text className ↔ Declares text className d := by
  rw [placedDeclarations, List.mem_append, List.mem_append]
  constructor
  · rintro ((hd | hd) | hd)
    · obtain ⟨a, ha, rfl⟩ := List.mem_map.1 hd
      exact .annotated ha
    · cases className with
      | none => exact absurd hd List.not_mem_nil
      | some name =>
        obtain ⟨a, ha, hmap⟩ := List.mem_filterMap.1 hd
        obtain ⟨type, htype, rfl⟩ := Option.map_eq_some_iff.1 hmap
        exact .assigned rfl ha htype
    · obtain ⟨a, ha, rfl⟩ := List.mem_map.1 hd
      exact .plain ha
  · rintro (h | ⟨rfl, h, htype⟩ | h)
    · exact .inl (.inl (List.mem_map.2 ⟨_, h, rfl⟩))
    · exact .inl (.inr (List.mem_filterMap.2 ⟨_, h, by rw [htype]; rfl⟩))
    · exact .inr (List.mem_map.2 ⟨_, h, rfl⟩)

theorem kind_assignedFields {text className : String} {d : Declaration} (h : d ∈ assignedFields text className) :
    d.kind = .assigned := by
  obtain ⟨a, -, hmap⟩ := List.mem_filterMap.1 h
  obtain ⟨type, -, rfl⟩ := Option.map_eq_some_iff.1 hmap
  rfl

theorem kind_declaredBy {kind : Kind} {p : Pattern} {text : String} {d : Declaration}
    (h : d ∈ declaredBy kind p text) : d.kind = kind := by
  obtain ⟨a, -, rfl⟩ := List.mem_map.1 h
  rfl

theorem placed_before {kind : Kind} {place place' : Nat} (h : place < place') (name name' type type' : String) :
    Declaration.Before ⟨kind, place, name, type⟩ ⟨kind, place', name', type'⟩ :=
  .inr ⟨rfl, h⟩

theorem declaredBy_rising (kind : Kind) (p : Pattern) (text : String) :
    (declaredBy kind p text).Pairwise Declaration.Before := by
  rw [declaredBy, List.pairwise_map]
  exact (p.sweep_placed text).apart.imp fun h => placed_before h.1 _ _ _ _

theorem assignedFields_rising (text className : String) :
    (assignedFields text className).Pairwise Declaration.Before := by
  rw [assignedFields, List.pairwise_filterMap]
  refine (assignment.sweep_placed text).apart.imp fun h d hd e he => ?_
  obtain ⟨type, -, rfl⟩ := Option.map_eq_some_iff.1 hd
  obtain ⟨type', -, rfl⟩ := Option.map_eq_some_iff.1 he
  exact placed_before h.1 _ _ _ _

/-- The declarations stand in the order in which they count. -/
theorem placedDeclarations_rising (text : String) (className : Option String) :
    (placedDeclarations text className).Pairwise Declaration.Before := by
  have hassigned : ((className.map (assignedFields text)).getD []).Pairwise Declaration.Before ∧
      ∀ d ∈ (className.map (assignedFields text)).getD [], d.kind = .assigned := by
    cases className with
    | none => exact ⟨.nil, fun _ hd => absurd hd List.not_mem_nil⟩
    | some name => exact ⟨assignedFields_rising text name, fun _ hd => kind_assignedFields hd⟩
  have hranks : ∀ {d e : Declaration}, d.kind.rank < e.kind.rank → d.Before e := .inl
  refine List.pairwise_append.2 ⟨List.pairwise_append.2 ⟨declaredBy_rising _ _ _, hassigned.1, ?_⟩,
    declaredBy_rising _ _ _, ?_⟩
  · intro d hd e he
    refine hranks ?_
    rw [kind_declaredBy hd, hassigned.2 e he]
    decide
  · intro d hd e he
    refine hranks ?_
    rw [kind_declaredBy he]
    rcases List.mem_append.1 hd with hd | hd
    · rw [kind_declaredBy hd]
      decide
    · rw [hassigned.2 d hd]
      decide

/-! ## The map -/

/-- what the declaration says of the name -/
def tells (known : NameSet) (x : String) (d : String × String) : Option String :=
  if x = d.1 then Names.resolveType d.2 known else none

theorem record_eq (known : NameSet) (map : InjectionMap) (d : String × String) :
    record known map d = match Names.resolveType d.2 known with
      | some c => map.insertNew d.1 c
      | none => map := by
  rw [record]
  cases Names.resolveType d.2 known with
  | some c => rfl
  | none => exact ite_self map

theorem tells_eq_some_iff {known : NameSet} {x c : String} {d : String × String} :
    tells known x d = some c ↔ d.1 = x ∧ Names.resolveType d.2 known = some c := by
  rw [tells, Option.ite_none_right_eq_some, eq_comm]

theorem tells_eq_none_iff {known : NameSet} {x : String} {d : String × String} :
    tells known x d = none ↔ (d.1 = x → Names.resolveType d.2 known = none) := by
  rw [tells, ite_eq_right_iff, eq_comm]

/-- **One declaration** counts for its own name, where that name has no class yet. -/
theorem get?_record (known : NameSet) (map : InjectionMap) (d : String × String) (x : String) :
    (record known map d).get? x = (map.get? x).or (tells known x d) := by
  rw [record_eq, tells]
  cases Names.resolveType d.2 known with
  | some c => exact Ordered.get?_insertNew map d.1 x c
  | none => rw [ite_self, Option.or_none]

/-- **Of all declarations** the first one counts that tells a class. -/
theorem get?_foldl_record (known : NameSet) (ds : List (String × String)) (map : InjectionMap) (x : String) :
    (ds.foldl (record known) map).get? x = (map.get? x).or (ds.findSome? (tells known x)) := by
  induction ds generalizing map with
  | nil => exact Option.or_none.symm
  | cons d ds ih =>
    rw [List.foldl_cons, ih, get?_record, Option.or_assoc, List.findSome?_cons]
    cases tells known x d <;> rfl

theorem get?_resolve (text : String) (className : Option String) (known : NameSet) (x : String) :
    (resolve text className known).get? x =
      (placedDeclarations text className).findSome? fun d => tells known x d.pair := by
  rw [resolve, get?_foldl_record, ← pair_placedDeclarations, List.findSome?_map]
  exact Option.none_or

theorem get?_resolve_eq_some_iff {text : String} {className : Option String} {known : NameSet} {x c : String} :
    (resolve text className known).get? x = some c ↔
      ∃ d, Declares text className d ∧ d.name = x ∧ Names.resolveType d.type known = some c ∧
        ∀ e, Declares text className e → e.name = x → e.Before d → Names.resolveType e.type known = none := by
  rw [get?_resolve, Pattern.findSome?_rising Declaration.not_before_self Declaration.Before.not_after
    (placedDeclarations_rising text className)]
  simp only [mem_placedDeclarations_iff, tells_eq_some_iff, tells_eq_none_iff, Declaration.pair]
  constructor
  · rintro ⟨d, hd, ⟨hname, hc⟩, hbefore⟩
    exact ⟨d, hd, hname, hc, fun e he hx hed => hbefore e he hed hx⟩
  · rintro ⟨d, hd, hname, hc, hbefore⟩
    exact ⟨d, hd, ⟨hname, hc⟩, fun e he hed hx => hbefore e he hx hed⟩

/-- a declaration whose type is resolved puts its name into the map, whatever the others are -/
theorem mem_keys_resolve {text : String} {className : Option String} {known : NameSet} {d : Declaration} {c : String}
    (hd : Declares text className d) (hc : Names.resolveType d.type known = some c) :
    d.name ∈ (resolve text className known).keys := by
  have htells : tells known d.name d.pair = some c := tells_eq_some_iff.2 ⟨rfl, hc⟩
  rw [Ordered.mem_keys_iff, ← Option.isSome_iff_exists, get?_resolve, List.findSome?_isSome_iff]
  exact ⟨d, (mem_placedDeclarations_iff text className d).2 hd, by rw [htells, Option.isSome_some]⟩

/-- **A field has the class of its first declaration whose type is resolved.** So a field is in the map exactly when some
declaration of it has such a type, and its class is a known one. -/
theorem resolve_first (text : String) (className : Option String) (known : NameSet) :
    (∀ x c, (resolve text className known).get? x = some c ↔
      ∃ d, Declares text className d ∧ d.name = x ∧ Names.resolveType d.type known = some c ∧
        ∀ e, Declares text className e → e.name = x → e.Before d → Names.resolveType e.type known = none) ∧
    (∀ x, x ∈ (resolve text className known).keys ↔
      ∃ d, Declares text className d ∧ d.name = x ∧ ∃ c ∈ known.toList, Names.resolveType d.type known = some c) ∧
    (∀ x c, (resolve text className known).get? x = some c → c ∈ known.toList) := by
  refine ⟨fun x c => get?_resolve_eq_some_iff, fun x => ?_, fun x c hc => within_resolve text className known x c hc⟩
  constructor
  · intro hx
    obtain ⟨c, hc⟩ := (Ordered.mem_keys_iff _ x).1 hx
    obtain ⟨d, hd, hname, hresolved, -⟩ := get?_resolve_eq_some_iff.1 hc
    exact ⟨d, hd, hname, c, Names.mem_of_resolveType hresolved, hresolved⟩
  · rintro ⟨d, hd, rfl, c, -, hresolved⟩
    exact mem_keys_resolve hd hresolved

/-- a field whose annotated type is unknown, which a constructor assigns and which is declared plainly as well -/
def shopText : String :=
  "class Shop \x7b @Inject Missing a; private OrderDao a; Shop(final UserDao u) \x7b this.a = u; \x7d \x7d"

/-- the constructor's parameter counts, since the annotated type is resolved to nothing -/
theorem resolve_first_shop :
    let known := NameSet.ofList ["OrderService", "UserService"]
    (resolve shopText (some "Shop") known).get? "a" = some "UserService" ∧ "UserService" ∈ known.toList ∧
      ∃ d, Declares shopText (some "Shop") d ∧ d.name = "a" ∧ Names.resolveType d.type known = some "UserService" := by
  intro known
  obtain ⟨hvalue, -, hknown⟩ := resolve_first shopText (some "Shop") known
  have hget : (resolve shopText (some "Shop") known).get? "a" = some "UserService" := by decide +kernel
  obtain ⟨d, hd, hname, hresolved, -⟩ := (hvalue "a" "UserService").1 hget
  exact ⟨hget, hknown "a" "UserService" hget, d, hd, hname, hresolved⟩

end CodeSurvey.Injection
