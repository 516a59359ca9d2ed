/-
What a project description tells of its document.

The description is read as a fold over events, with the path of open elements and a dependency that may be open. `Tells`
says the same of the tree: each field is the last text at its place, and the dependencies are the elements at theirs, in
their order.

`tells_ofEvents`: what is read of a tree's events is what the tree tells, for every tree. A field of the reading is a
`Slot`: a text changes it exactly at its place, and tags never do; `Slot.foldl_read` is the induction over the tree. The
open dependency is such a field only below its own element: `read_below` follows it inside, where nothing else of the
reading changes, and `read_outside` shows that it is closed everywhere else.
-/
import CodeSurvey.Proofs.Stack.Content
import CodeSurvey.Stack.Pom

namespace CodeSurvey

open Xml

/-! ## Texts and elements of a tree -/

namespace Xml.Content

/-- the texts, each with the names of the elements around it, the outermost first -/
def texts : Content → List (List String × String)
  | .nil => []
  | .text raw rest => (shown raw).map (fun s => ([], s)) ++ rest.texts
  | .aside _ rest => rest.texts
  | .element tag inside _ rest => inside.texts.map (fun t => (tag.name :: t.1, t.2)) ++ rest.texts

/-- what the elements hold, each with the names of the elements around it and its own -/
def elements : Content → List (List String × Content)
  | .nil => []
  | .text _ rest => rest.elements
  | .aside _ rest => rest.elements
  | .element tag inside _ rest =>
    ([tag.name], inside) :: inside.elements.map (fun e => (tag.name :: e.1, e.2)) ++ rest.elements

/-- the last text that stands directly in an element at the place -/
def lastAt (c : Content) (place : List String) : Option String :=
  ((c.texts.filter (·.1 = place)).getLast?).map (·.2)

/-- what the elements at the place hold -/
def elementsAt (c : Content) (place : List String) : List Content := (c.elements.filter (·.1 = place)).map (·.2)

/-- the coordinates that the elements at the place tell together -/
def coordinatesAt (c : Content) (place : List String) : Coordinates :=
  ⟨c.lastAt (place ++ ["groupId"]), c.lastAt (place ++ ["artifactId"]), c.lastAt (place ++ ["version"])⟩

/-- the coordinates of the project's dependencies -/
def dependencies (c : Content) : List Coordinates :=
  (c.elementsAt ["project", "dependencies", "dependency"]).map (·.coordinatesAt [])

end Xml.Content

namespace Pom

/-- the description is what the tree tells -/
structure Tells (p : Pom) (c : Content) : Prop where
  version : p.version = c.lastAt ["project", "version"]
  parent : p.parent = c.coordinatesAt ["project", "parent"]
  properties : ∀ key, p.properties.get? key = c.lastAt ["project", "properties", key]
  dependencies : p.dependencies = c.dependencies

/-! ## Places as the reading sees them -/

/-- the last text at the place, innermost name first, of texts that stand inside the open elements -/
def lastFrom (path place : List String) (texts : List (List String × String)) : Option String :=
  ((texts.filter fun t => t.1.reverse ++ path = place).getLast?).map (·.2)

theorem lastFrom_append (path place : List String) (ts us : List (List String × String)) :
    lastFrom path place (ts ++ us) = (lastFrom path place us).or (lastFrom path place ts) := by
  rw [lastFrom, List.filter_append, List.getLast?_append, lastFrom, lastFrom]
  cases (us.filter fun t => t.1.reverse ++ path = place).getLast? <;> rfl

theorem lastFrom_below (path place : List String) (name : String) (ts : List (List String × String)) :
    lastFrom path place (ts.map fun t => (name :: t.1, t.2)) = lastFrom (name :: path) place ts := by
  rw [lastFrom, List.filter_map, List.getLast?_map, Option.map_map, lastFrom]
  simp [Function.comp_def]

theorem lastFrom_here (path place : List String) (s : String) :
    lastFrom path place [([], s)] = if path = place then some s else none := by
  by_cases h : path = place <;> simp [lastFrom, h]

theorem reverse_append_eq_iff (path below place : List String) :
    below.reverse ++ path.reverse = place.reverse ↔ path ++ below = place := by
  rw [← List.reverse_append, List.reverse_inj]

/-- Inside the elements of a path, a place below them is a place of the content alone. -/
theorem lastFrom_reverse (path place : List String) (c : Content) :
    lastFrom path.reverse (path ++ place).reverse c.texts = c.lastAt place := by
  simp only [lastFrom, Content.lastAt, reverse_append_eq_iff, List.append_right_inj]

theorem shown_cases (raw : List Char) : shown raw = [] ∨ ∃ s, shown raw = [s] := by
  unfold shown
  split
  · exact .inl rfl
  · exact .inr ⟨_, rfl⟩

/-! ## Steps of the reading -/

/-- where a dependency stands -/
def dependencyPlace : List String := "dependency" :: dependenciesPath

/-- A text is the version, a property, a part of the parent, a part of the open dependency, or nothing. -/
theorem readText_cases (r : PomReading) (s : String) :
    r.path = ["version", "project"] ∧ readText r s = { r with pom := { r.pom with version := some s } } ∨
    (∃ key, r.path = [key, "properties", "project"] ∧
      readText r s = { r with pom := { r.pom with properties := r.pom.properties.insert key s } }) ∨
    (∃ element, r.path = [element, "parent", "project"] ∧
      readText r s = { r with pom := { r.pom with parent := r.pom.parent.set element s } }) ∨
    (∃ element, r.path = element :: dependencyPlace ∧
      readText r s = { r with pending := r.pending.map (·.set element s) }) ∨
    (∀ element, r.path ≠ ["version", "project"] ∧ r.path ≠ [element, "properties", "project"] ∧
      r.path ≠ [element, "parent", "project"] ∧ r.path ≠ element :: dependencyPlace) ∧ readText r s = r := by
  obtain ⟨pom, path, pending⟩ := r
  match path with
  | [] => exact .inr (.inr (.inr (.inr ⟨by simp, rfl⟩)))
  | [_] => exact .inr (.inr (.inr (.inr ⟨by simp [dependencyPlace], rfl⟩)))
  | [element, parentName] =>
    by_cases h : element = "version" ∧ parentName = "project"
    · obtain ⟨rfl, rfl⟩ := h
      exact .inl ⟨rfl, rfl⟩
    · refine .inr (.inr (.inr (.inr ⟨by simp [dependencyPlace, dependenciesPath, h], ?_⟩)))
      simp [readText, h]
  | [element, parentName, project] =>
    by_cases hproject : project = "project"
    · subst hproject
      by_cases hproperties : parentName = "properties"
      · subst hproperties
        exact .inr (.inl ⟨element, rfl, rfl⟩)
      · by_cases hparent : parentName = "parent"
        · subst hparent
          exact .inr (.inr (.inl ⟨element, rfl, rfl⟩))
        · refine .inr (.inr (.inr (.inr ⟨?_, by simp [readText, hproperties, hparent]⟩)))
          simp [dependencyPlace, dependenciesPath, hproperties, hparent]
    · refine .inr (.inr (.inr (.inr ⟨?_, by simp [readText, hproject]⟩)))
      simp [dependencyPlace, dependenciesPath, hproject]
  | element :: parentName :: a :: b :: above =>
    by_cases h : parentName = "dependency" ∧ a :: b :: above = dependenciesPath
    · obtain ⟨rfl, habove⟩ := h
      obtain ⟨rfl, rfl, rfl⟩ : a = "dependencies" ∧ b = "project" ∧ above = [] := by
        simpa [dependenciesPath] using habove
      exact .inr (.inr (.inr (.inl ⟨element, rfl, rfl⟩)))
    · refine .inr (.inr (.inr (.inr ⟨by simpa [dependencyPlace] using h, ?_⟩)))
      by_cases hparent : parentName = "dependency"
      · subst hparent
        have habove : a :: b :: above ≠ dependenciesPath := fun heq => h ⟨rfl, heq⟩
        simp [readText, habove]
      · unfold readText
        split <;> simp_all

theorem path_readText (r : PomReading) (s : String) : (readText r s).path = r.path := by
  obtain ⟨-, h⟩ | ⟨_, -, h⟩ | ⟨_, -, h⟩ | ⟨_, -, h⟩ | ⟨-, h⟩ := readText_cases r s <;> rw [h]

theorem read_closed (r : PomReading) : read r .closed =
    if r.path = dependencyPlace then
      { r with
        path := r.path.drop 1
        pending := none
        pom := { r.pom with dependencies := r.pom.dependencies ++ r.pending.toList } }
    else { r with path := r.path.drop 1 } := by
  simp only [read, dependencyPlace, beq_iff_eq]
  rfl

theorem read_opened (r : PomReading) (name : String) : read r (.opened name) =
    { r with
      path := name :: r.path
      pending := if name :: r.path = dependencyPlace then some .empty else r.pending } := by
  simp only [read, dependencyPlace, Bool.and_eq_true, beq_iff_eq, List.cons.injEq]

theorem path_read_closed (r : PomReading) : (read r .closed).path = r.path.drop 1 := by
  rw [read_closed]
  split <;> rfl

/-- A text is read once, or not at all where it is blank. -/
theorem foldl_read_text (raw : List Char) (rest : Content) (r : PomReading) :
    (Content.text raw rest).events.foldl read r = rest.events.foldl read ((shown raw).foldl readText r) := by
  rw [Content.events, List.foldl_append, List.foldl_map]
  rfl

theorem foldl_read_element (tag : Tag) (inside : Content) (blanks : List Char) (rest : Content) (r : PomReading) :
    (Content.element tag inside blanks rest).events.foldl read r =
      rest.events.foldl read (read (inside.events.foldl read (read r (.opened tag.name))) .closed) := by
  rw [Content.events, List.cons_append, List.foldl_cons, List.foldl_append, List.foldl_cons]

/-- After the events of a tree the same elements are open. -/
theorem path_foldl_read (c : Content) (r : PomReading) : (c.events.foldl read r).path = r.path := by
  induction c generalizing r with
  | nil => rfl
  | text raw rest ih =>
    rw [foldl_read_text, ih]
    obtain hshown | ⟨s, hshown⟩ := shown_cases raw <;> rw [hshown]
    · rfl
    · exact path_readText r s
  | aside a rest ih => exact ih r
  | element tag inside blanks rest ihInside ihRest =>
    rw [foldl_read_element, ihRest, path_read_closed, ihInside]
    rfl

/-- a text at the place gives the field its value, and nothing else does -/
structure Slot (place : List String) (field : PomReading → Option String) : Prop where
  text : ∀ r s, field (readText r s) = if r.path = place then some s else field r
  opened : ∀ r name, field (read r (.opened name)) = field r
  closed : ∀ r, field (read r .closed) = field r

/-- **A field holds the last text at its place.** -/
theorem Slot.foldl_read {place : List String} {field : PomReading → Option String} (h : Slot place field) (c : Content)
    (r : PomReading) : field (c.events.foldl read r) = (lastFrom r.path place c.texts).or (field r) := by
  induction c generalizing r with
  | nil => rfl
  | text raw rest ih =>
    rw [foldl_read_text, Content.texts, lastFrom_append, ih]
    obtain hshown | ⟨s, hshown⟩ := shown_cases raw <;> rw [hshown]
    · have hnone : lastFrom r.path place [] = none := rfl
      rw [List.map_nil, List.foldl_nil, hnone, Option.or_none]
    · rw [List.foldl_cons, List.foldl_nil, List.map_singleton, path_readText, lastFrom_here, Option.or_assoc, h.text]
      split <;> rfl
  | aside a rest ih => exact ih r
  | element tag inside blanks rest ihInside ihRest =>
    have hpath : (read (inside.events.foldl read (read r (.opened tag.name))) .closed).path = r.path := by
      rw [path_read_closed, path_foldl_read]
      rfl
    calc field ((Content.element tag inside blanks rest).events.foldl read r)
      _ = field (rest.events.foldl read (read (inside.events.foldl read (read r (.opened tag.name))) .closed)) := by
        rw [foldl_read_element]
      _ = (lastFrom r.path place rest.texts).or (field (inside.events.foldl read (read r (.opened tag.name)))) := by
        rw [ihRest, hpath, h.closed]
      _ = (lastFrom r.path place rest.texts).or ((lastFrom (tag.name :: r.path) place inside.texts).or (field r)) := by
        rw [ihInside, h.opened]
        rfl
      _ = (lastFrom r.path place (Content.element tag inside blanks rest).texts).or (field r) := by
        rw [Content.texts, lastFrom_append, lastFrom_below, Option.or_assoc]

theorem slot_version : Slot ["version", "project"] (·.pom.version) where
  text r s := by
    obtain ⟨hpath, h⟩ | ⟨_, hpath, h⟩ | ⟨_, hpath, h⟩ | ⟨_, hpath, h⟩ | ⟨hpath, h⟩ := readText_cases r s
    · rw [h, if_pos hpath]
    · simp [h, hpath]
    · simp [h, hpath]
    · simp [h, hpath, dependencyPlace, dependenciesPath]
    · rw [h, if_neg (hpath "").1]
  opened _ _ := rfl
  closed r := by
    rw [read_closed]
    split <;> rfl

theorem slot_property (key : String) : Slot [key, "properties", "project"] (·.pom.properties.get? key) where
  text r s := by
    obtain ⟨hpath, h⟩ | ⟨element, hpath, h⟩ | ⟨_, hpath, h⟩ | ⟨_, hpath, h⟩ | ⟨hpath, h⟩ := readText_cases r s
    · simp [h, hpath]
    · simp [h, hpath, Ordered.get?_insert, eq_comm]
    · simp [h, hpath]
    · simp [h, hpath, dependencyPlace, dependenciesPath]
    · rw [h, if_neg (hpath key).2.1]
  opened _ _ := rfl
  closed r := by
    rw [read_closed]
    split <;> rfl

end Pom

/-- the part of the coordinates that an element of the name sets, and no other does -/
def Coordinates.Part (name : String) (part : Coordinates → Option String) : Prop :=
  ∀ c element text, part (c.set element text) = if element = name then some text else part c

theorem Coordinates.eq_mk {c : Coordinates} {group artifact version : Option String} (hgroup : c.group = group)
    (hartifact : c.artifact = artifact) (hversion : c.version = version) : c = ⟨group, artifact, version⟩ := by
  subst hgroup hartifact hversion
  rfl

theorem Coordinates.parts : Part "groupId" group ∧ Part "artifactId" artifact ∧ Part "version" version := by
  refine ⟨?_, ?_, ?_⟩
  all_goals
    intro c element text
    simp only [set, beq_iff_eq]
    (repeat' split) <;> simp_all

namespace Pom

theorem slot_parent {name : String} {part : Coordinates → Option String} (hpart : Coordinates.Part name part) :
    Slot [name, "parent", "project"] (fun r => part r.pom.parent) where
  text r s := by
    obtain ⟨hpath, h⟩ | ⟨_, hpath, h⟩ | ⟨element, hpath, h⟩ | ⟨_, hpath, h⟩ | ⟨hpath, h⟩ := readText_cases r s
    · simp [h, hpath]
    · simp [h, hpath]
    · simp [h, hpath, hpart _ element s]
    · simp [h, hpath, dependencyPlace, dependenciesPath]
    · rw [h, if_neg (hpath name).2.2.1]
  opened _ _ := rfl
  closed r := by
    rw [read_closed]
    split <;> rfl

/-! ## Inside a dependency -/

/-- the open dependency with the texts that stand inside the open elements -/
theorem readText_below {r : PomReading} {d : Coordinates} (hpending : r.pending = some d)
    (hbelow : dependencyPlace <:+ r.path) (s : String) :
    ∃ d', readText r s = { r with pending := some d' } ∧ ∀ name part, Coordinates.Part name part →
      part d' = if r.path = name :: dependencyPlace then some s else part d := by
  have hlength := hbelow.length_le
  obtain ⟨hpath, -⟩ | ⟨_, hpath, -⟩ | ⟨_, hpath, -⟩ | ⟨element, hpath, h⟩ | ⟨hpath, h⟩ := readText_cases r s
  · exact absurd hlength (by rw [hpath]; decide)
  · rw [hpath] at hbelow
    exact absurd (hbelow.eq_of_length rfl) (by simp [dependencyPlace, dependenciesPath])
  · rw [hpath] at hbelow
    exact absurd (hbelow.eq_of_length rfl) (by simp [dependencyPlace, dependenciesPath])
  · refine ⟨d.set element s, by rw [h, hpending]; rfl, fun name part hpart => ?_⟩
    rw [hpart, hpath]
    simp
  · refine ⟨d, by rw [h, ← hpending], fun name part _ => ?_⟩
    rw [if_neg (hpath name).2.2.2]

/-- **Inside a dependency only its own coordinates change.** -/
theorem read_below (c : Content) {r : PomReading} {d : Coordinates} (hpending : r.pending = some d)
    (hbelow : dependencyPlace <:+ r.path) :
    ∃ d', c.events.foldl read r = { r with pending := some d' } ∧ ∀ name part, Coordinates.Part name part →
      part d' = (lastFrom r.path (name :: dependencyPlace) c.texts).or (part d) := by
  induction c generalizing r d with
  | nil => exact ⟨d, by rw [← hpending]; rfl, fun _ _ _ => rfl⟩
  | text raw rest ih =>
    rw [foldl_read_text, Content.texts]
    obtain hshown | ⟨s, hshown⟩ := shown_cases raw <;> rw [hshown]
    · exact ih hpending hbelow
    · obtain ⟨d', hread, hd'⟩ := readText_below hpending hbelow s
      obtain ⟨d'', hrest, hd''⟩ := ih (r := { r with pending := some d' }) rfl hbelow
      refine ⟨d'', by rw [List.foldl_cons, List.foldl_nil, hread, hrest], fun name part hpart => ?_⟩
      rw [hd'' name part hpart, hd' name part hpart, lastFrom_append, List.map_singleton, lastFrom_here, Option.or_assoc]
      split <;> rfl
  | aside a rest ih => exact ih hpending hbelow
  | element tag inside blanks rest ihInside ihRest =>
    -- the path of an element in here is longer than that of a dependency: none is opened or closed
    have hne : tag.name :: r.path ≠ dependencyPlace := fun heq =>
      absurd hbelow.length_le (by rw [← heq]; simp)
    have hopened : read r (.opened tag.name) = { r with path := tag.name :: r.path } := by
      rw [read_opened, if_neg hne]
    obtain ⟨d', hinside, hd'⟩ := ihInside (r := { r with path := tag.name :: r.path }) hpending
      (hbelow.trans (List.suffix_cons _ _))
    have hclosed : read { r with path := tag.name :: r.path, pending := some d' } .closed =
        { r with pending := some d' } := by
      rw [read_closed, if_neg hne]
      rfl
    obtain ⟨d'', hrest, hd''⟩ := ihRest (r := { r with pending := some d' }) rfl hbelow
    refine ⟨d'', by rw [foldl_read_element, hopened, hinside, hclosed, hrest], fun name part hpart => ?_⟩
    rw [hd'' name part hpart, hd' name part hpart, Content.texts, lastFrom_append, lastFrom_below, Option.or_assoc]

/-! ## Outside dependencies -/

/-- what the dependencies hold, of the elements that stand inside the open ones -/
def dependenciesFrom (path : List String) (elements : List (List String × Content)) : List Coordinates :=
  (elements.filter fun e => e.1.reverse ++ path = dependencyPlace).map (·.2.coordinatesAt [])

theorem dependenciesFrom_append (path : List String) (es fs : List (List String × Content)) :
    dependenciesFrom path (es ++ fs) = dependenciesFrom path es ++ dependenciesFrom path fs := by
  simp [dependenciesFrom]

theorem dependenciesFrom_below (path : List String) (name : String) (es : List (List String × Content)) :
    dependenciesFrom path (es.map fun e => (name :: e.1, e.2)) = dependenciesFrom (name :: path) es := by
  rw [dependenciesFrom, List.filter_map, List.map_map, dependenciesFrom]
  simp [Function.comp_def]

theorem elements_ne_nil {c : Content} {e : List String × Content} (he : e ∈ c.elements) : e.1 ≠ [] := by
  induction c with
  | nil => exact nomatch he
  | text raw rest ih => exact ih he
  | aside a rest ih => exact ih he
  | element tag inside blanks rest _ ihRest =>
    rcases List.mem_append.1 he with he | he
    · rcases List.mem_cons.1 he with rfl | he
      · exact List.cons_ne_nil _ _
      · obtain ⟨f, -, rfl⟩ := List.mem_map.1 he
        exact List.cons_ne_nil _ _
    · exact ihRest he

/-- No dependency stands in a dependency. -/
theorem dependenciesFrom_dependencyPlace (c : Content) : dependenciesFrom dependencyPlace c.elements = [] := by
  have hnone : (c.elements.filter fun e => e.1.reverse ++ dependencyPlace = dependencyPlace) = [] := by
    rw [List.filter_eq_nil_iff]
    intro e he
    simpa using elements_ne_nil he
  rw [dependenciesFrom, hnone, List.map_nil]

theorem dependenciesFrom_element (path : List String) (tag : Tag) (inside : Content) (blanks : List Char)
    (rest : Content) : dependenciesFrom path (Content.element tag inside blanks rest).elements =
      (if tag.name :: path = dependencyPlace then [inside.coordinatesAt []]
        else dependenciesFrom (tag.name :: path) inside.elements) ++ dependenciesFrom path rest.elements := by
  rw [Content.elements, dependenciesFrom_append, ← List.singleton_append, dependenciesFrom_append,
    dependenciesFrom_below]
  by_cases h : tag.name :: path = dependencyPlace
  · rw [if_pos h, h, dependenciesFrom_dependencyPlace, List.append_nil]
    simp [dependenciesFrom, h]
  · rw [if_neg h]
    simp [dependenciesFrom, h]

theorem lastFrom_dependencyPlace (c : Content) (name : String) :
    lastFrom dependencyPlace (name :: dependencyPlace) c.texts = c.lastAt [name] :=
  lastFrom_reverse ["project", "dependencies", "dependency"] [name] c

/-- What is read of a dependency's content are its coordinates. -/
theorem eq_coordinatesAt {c : Content} {d : Coordinates} (h : ∀ name part, Coordinates.Part name part →
    part d = (lastFrom dependencyPlace (name :: dependencyPlace) c.texts).or (part .empty)) :
    d = c.coordinatesAt [] := by
  have hpart (name : String) {part : Coordinates → Option String} (hpart : Coordinates.Part name part)
      (hempty : part .empty = none) : part d = c.lastAt [name] := by
    rw [h name part hpart, lastFrom_dependencyPlace, hempty, Option.or_none]
  obtain ⟨hgroup, hartifact, hversion⟩ := Coordinates.parts
  exact Coordinates.eq_mk (hpart "groupId" hgroup rfl) (hpart "artifactId" hartifact rfl) (hpart "version" hversion rfl)

theorem readText_outside {r : PomReading} (hpending : r.pending = none) (s : String) :
    (readText r s).pending = none ∧ (readText r s).pom.dependencies = r.pom.dependencies := by
  obtain ⟨-, h⟩ | ⟨_, -, h⟩ | ⟨_, -, h⟩ | ⟨_, -, h⟩ | ⟨-, h⟩ := readText_cases r s <;> simp [h, hpending]

/-- **Outside, dependencies are added as they close.** -/
theorem read_outside (c : Content) {r : PomReading} (hpending : r.pending = none)
    (houtside : ¬ dependencyPlace <:+ r.path) :
    (c.events.foldl read r).pending = none ∧ (c.events.foldl read r).pom.dependencies =
      r.pom.dependencies ++ dependenciesFrom r.path c.elements := by
  induction c generalizing r with
  | nil => exact ⟨hpending, (List.append_nil _).symm⟩
  | text raw rest ih =>
    rw [foldl_read_text]
    obtain hshown | ⟨s, hshown⟩ := shown_cases raw <;> rw [hshown]
    · exact ih hpending houtside
    · obtain ⟨hclosed, hdependencies⟩ := readText_outside hpending s
      have hrest := ih hclosed (by rwa [path_readText])
      rwa [path_readText, hdependencies] at hrest
  | aside a rest ih => exact ih hpending houtside
  | element tag inside blanks rest ihInside ihRest =>
    rw [foldl_read_element, read_opened, dependenciesFrom_element]
    by_cases hplace : tag.name :: r.path = dependencyPlace
    · -- the dependency itself: it is open inside, and added at its end
      obtain ⟨d, hinside, hd⟩ := read_below inside
        (r := { r with path := tag.name :: r.path, pending := some .empty }) rfl (by rw [hplace])
      rw [hplace] at hd
      have hclosed : read { r with path := tag.name :: r.path, pending := some d } .closed =
          { r with pending := none, pom := { r.pom with dependencies := r.pom.dependencies ++ [d] } } := by
        rw [read_closed, if_pos hplace]
        rfl
      obtain ⟨hnone, hrest⟩ := ihRest (r := { r with
        pending := none
        pom := { r.pom with dependencies := r.pom.dependencies ++ [d] } }) rfl houtside
      rw [if_pos hplace, if_pos hplace, hinside, hclosed]
      refine ⟨hnone, hrest.trans ?_⟩
      rw [eq_coordinatesAt hd, List.append_assoc]
    · -- any other element: what stands in it is outside, too
      have hbelow : ¬ dependencyPlace <:+ tag.name :: r.path := fun h =>
        (List.suffix_cons_iff.1 h).elim (fun heq => hplace heq.symm) houtside
      rw [if_neg hplace, if_neg hplace]
      obtain ⟨hnone, hinside⟩ := ihInside (r := { r with path := tag.name :: r.path }) hpending hbelow
      have hpath : (inside.events.foldl read { r with path := tag.name :: r.path }).path = tag.name :: r.path :=
        path_foldl_read inside _
      have hdrop : (inside.events.foldl read { r with path := tag.name :: r.path }).path.drop 1 = r.path := by
        rw [hpath]
        rfl
      rw [read_closed, if_neg (by rwa [hpath]), hdrop]
      obtain ⟨hnone', hrest⟩ := ihRest
        (r := { inside.events.foldl read { r with path := tag.name :: r.path } with path := r.path }) hnone houtside
      refine ⟨hnone', hrest.trans ?_⟩
      rw [← List.append_assoc]
      exact congrArg (· ++ dependenciesFrom r.path rest.elements) hinside

theorem dependenciesFrom_nil (c : Content) : dependenciesFrom [] c.elements = c.dependencies := by
  have hplace (place : List String) :
      place.reverse ++ [] = dependencyPlace ↔ place = ["project", "dependencies", "dependency"] :=
    reverse_append_eq_iff [] place ["project", "dependencies", "dependency"]
  simp only [dependenciesFrom, hplace, Content.dependencies, Content.elementsAt, List.map_map]
  rfl

/-- **What is read of a tree's events is what the tree tells.** -/
theorem tells_ofEvents (c : Content) : (ofEvents c.events).Tells c := by
  have hfield (place : List String) {field : PomReading → Option String} (h : Slot place.reverse field)
      (hempty : field ⟨empty, [], none⟩ = none) :
      field (c.events.foldl read ⟨empty, [], none⟩) = c.lastAt place := by
    rw [h.foldl_read, hempty, Option.or_none]
    exact lastFrom_reverse [] place c
  have hparent (name : String) {part : Coordinates → Option String} (hpart : Coordinates.Part name part)
      (hempty : part .empty = none) : part (ofEvents c.events).parent = c.lastAt ["project", "parent", name] :=
    hfield ["project", "parent", name] (slot_parent hpart) hempty
  obtain ⟨hgroup, hartifact, hversion⟩ := Coordinates.parts
  obtain ⟨-, hdependencies⟩ := read_outside c (r := ⟨empty, [], none⟩) rfl (by decide)
  exact {
    version := hfield ["project", "version"] slot_version rfl
    parent := Coordinates.eq_mk (hparent "groupId" hgroup rfl) (hparent "artifactId" hartifact rfl)
      (hparent "version" hversion rfl)
    properties := fun key => hfield ["project", "properties", key] (slot_property key) rfl
    dependencies := hdependencies.trans (dependenciesFrom_nil c) }

end Pom

end CodeSurvey
