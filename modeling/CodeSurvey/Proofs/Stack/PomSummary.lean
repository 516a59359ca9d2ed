/-
What the summary of a project description depends on.

Of a description's tree only the elements at the places of `IsRead` count: the version, the parts of the parent, the
properties, and the parts of the project's dependencies. `summarize_tree` says what the summary is: the one of the
description that the tree tells, with a version for each name of a dependency, that of the last one with the name. Trees
that agree at these places have one summary.

`Elsewhere` is a change of a tree at other places: any content put in, taken out or replaced that holds no element at a
read place, and that does not stand in one. No such change is seen in the summary (`Elsewhere.sameRead`).
-/
import CodeSurvey.Proofs.Stack.PomReading

namespace CodeSurvey

open Xml

/-! ## The versions of dependencies -/

namespace Coordinates

/-- the name of a dependency that has both parts of it -/
def key? (c : Coordinates) : Option String := c.group.bind fun group => c.artifact.map (group ++ ":" ++ ·)

end Coordinates

namespace Pom

/-- the version of a dependency with placeholders replaced -/
def versionOf (p : Pom) (c : Coordinates) : String := (c.version.map p.resolve).getD StackSummary.unspecified

theorem dependency?_eq (p : Pom) (c : Coordinates) : p.dependency? c = c.key?.map fun key => (key, p.versionOf c) := by
  obtain ⟨group, artifact, version⟩ := c
  cases group <;> cases artifact <;> rfl

theorem filter_dependency? (p : Pom) (cs : List Coordinates) (key : String) :
    (cs.filterMap p.dependency?).filter (·.1 = key) =
      (cs.filter (·.key? = some key)).map fun c => (key, p.versionOf c) := by
  induction cs with
  | nil => rfl
  | cons c cs ih =>
    rw [List.filterMap_cons, dependency?_eq, List.filter_cons]
    cases hkey : c.key? with
    | none => simpa using ih
    | some name =>
      by_cases h : name = key
      · simp [h, ih]
      · simp [h, ih]

/-- **A dependency has the version of the last one of its name.** -/
theorem get?_resolvedDependencies (p : Pom) (key : String) :
    p.resolvedDependencies.get? key = ((p.dependencies.filter (·.key? = some key)).getLast?).map p.versionOf := by
  rw [resolvedDependencies, Ordered.get?_ofList, filter_dependency?, List.getLast?_map, Option.map_map]
  rfl

/-! ## What is read -/

/-- the names of the elements that tell coordinates -/
def coordinateNames : List String := ["groupId", "artifactId", "version"]

/-- the places whose texts a description tells -/
def IsRead (place : List String) : Prop :=
  place = ["project", "version"] ∨ (∃ name ∈ coordinateNames, place = ["project", "parent", name]) ∨
    (∃ key, place = ["project", "properties", key]) ∨
    ∃ name ∈ coordinateNames, place = ["project", "dependencies", "dependency", name]

/-- the trees agree in what is read of them; a dependency without a name is not -/
structure SameRead (c d : Content) : Prop where
  version : c.lastAt ["project", "version"] = d.lastAt ["project", "version"]
  parent : c.coordinatesAt ["project", "parent"] = d.coordinatesAt ["project", "parent"]
  properties : ∀ key, c.lastAt ["project", "properties", key] = d.lastAt ["project", "properties", key]
  dependencies : c.dependencies.filter (·.key?.isSome) = d.dependencies.filter (·.key?.isSome)

theorem resolvedDependencies_congr {p q : Pom} (hresolve : p.resolve = q.resolve)
    (h : p.dependencies.filter (·.key?.isSome) = q.dependencies.filter (·.key?.isSome)) :
    p.resolvedDependencies = q.resolvedDependencies := by
  refine Ordered.ext_get? fun key => ?_
  have hkeyed (cs : List Coordinates) :
      cs.filter (·.key? = some key) = (cs.filter (·.key?.isSome)).filter (·.key? = some key) := by
    rw [List.filter_filter]
    refine List.filter_congr fun c _ => ?_
    by_cases hkey : c.key? = some key <;> simp [hkey]
  have hversion : p.versionOf = q.versionOf := by
    funext c
    rw [versionOf, versionOf, hresolve]
  rw [get?_resolvedDependencies, get?_resolvedDependencies, hkeyed, h, ← hkeyed, hversion]

/-- **Trees that agree in what is read have one summary.** -/
theorem SameRead.summary_eq {c d : Content} (h : SameRead c d) {p q : Pom} (hp : p.Tells c) (hq : q.Tells d) :
    p.summary = q.summary := by
  have hproperties : p.properties = q.properties :=
    Ordered.ext_get? fun key => by rw [hp.properties, hq.properties, h.properties]
  have hversion : p.version = q.version := by rw [hp.version, hq.version, h.version]
  have hparent : p.parent = q.parent := by rw [hp.parent, hq.parent, h.parent]
  have hdependencies : p.dependencies.filter (·.key?.isSome) = q.dependencies.filter (·.key?.isSome) := by
    rw [hp.dependencies, hq.dependencies, h.dependencies]
  have hvalue : p.value? = q.value? := by
    funext name
    rw [value?, value?, hversion, hparent, hproperties]
  have hresolve : p.resolve = q.resolve := by
    funext text
    rw [resolve, resolve, hvalue]
  rw [summary, summary, languageVersion, languageVersion, runtimeVersion, runtimeVersion,
    resolvedDependencies_congr hresolve hdependencies, hproperties, hparent, hresolve]

end Pom

/-! ## Trees side by side -/

namespace Xml.Content

/-- the content with more behind it -/
def append : Content → Content → Content
  | .nil, more => more
  | .text raw rest, more => .text raw (rest.append more)
  | .aside a rest, more => .aside a (rest.append more)
  | .element tag inside blanks rest, more => .element tag inside blanks (rest.append more)

theorem texts_append (c d : Content) : (c.append d).texts = c.texts ++ d.texts := by
  induction c with
  | nil => rfl
  | text raw rest ih => rw [append, texts, texts, ih, List.append_assoc]
  | aside a rest ih => exact ih
  | element tag inside blanks rest _ ih => rw [append, texts, texts, ih, List.append_assoc]

theorem elements_append (c d : Content) : (c.append d).elements = c.elements ++ d.elements := by
  induction c with
  | nil => rfl
  | text raw rest ih => exact ih
  | aside a rest ih => exact ih
  | element tag inside blanks rest _ ih => rw [append, elements, elements, ih, List.append_assoc]

/-- A text stands in an element, or in none. -/
theorem exists_element_of_text {c : Content} {t : List String × String} (ht : t ∈ c.texts) :
    t.1 = [] ∨ ∃ e ∈ c.elements, e.1 = t.1 := by
  induction c generalizing t with
  | nil => exact nomatch ht
  | text raw rest ih =>
    rcases List.mem_append.1 ht with ht | ht
    · obtain ⟨s, -, rfl⟩ := List.mem_map.1 ht
      exact .inl rfl
    · exact ih ht
  | aside a rest ih => exact ih ht
  | element tag inside blanks rest ihInside ihRest =>
    rcases List.mem_append.1 ht with ht | ht
    · obtain ⟨u, hu, rfl⟩ := List.mem_map.1 ht
      obtain hnil | ⟨e, he, heq⟩ := ihInside hu
      · exact .inr ⟨([tag.name], inside), by simp [elements], by rw [hnil]⟩
      · exact .inr ⟨(tag.name :: e.1, e.2), by simpa [elements] using .inr (.inl he), by rw [heq]⟩
    · obtain hnil | ⟨e, he, heq⟩ := ihRest ht
      · exact .inl hnil
      · exact .inr ⟨e, List.mem_append_right _ he, heq⟩

/-- What stands in an element of the tree stands in the tree. -/
theorem mem_elements_trans {c : Content} {e f : List String × Content} (he : e ∈ c.elements) (hf : f ∈ e.2.elements) :
    (e.1 ++ f.1, f.2) ∈ c.elements := by
  induction c generalizing e with
  | nil => exact nomatch he
  | text raw rest ih => exact ih he hf
  | aside a rest ih => exact ih he hf
  | element tag inside blanks rest ihInside ihRest =>
    rcases List.mem_append.1 he with he | he
    · rcases List.mem_cons.1 he with rfl | he
      · exact List.mem_append_left _ (List.mem_cons_of_mem _ (List.mem_map.2 ⟨f, hf, rfl⟩))
      · obtain ⟨g, hg, rfl⟩ := List.mem_map.1 he
        exact List.mem_append_left _ (List.mem_cons_of_mem _ (List.mem_map.2 ⟨_, ihInside hg hf, rfl⟩))
    · exact List.mem_append_right _ (ihRest he hf)

theorem exists_element_of_lastAt {c : Content} {name s : String} (h : c.lastAt [name] = some s) :
    ∃ f ∈ c.elements, f.1 = [name] := by
  obtain ⟨t, ht, -⟩ := Option.map_eq_some_iff.1 h
  obtain ⟨hmem, hplace⟩ := List.mem_filter.1 (List.mem_of_getLast? ht)
  have hplace : t.1 = [name] := of_decide_eq_true hplace
  obtain hnil | ⟨f, hf, heq⟩ := exists_element_of_text hmem
  · exact absurd (hnil.symm.trans hplace) (by simp)
  · exact ⟨f, hf, heq.trans hplace⟩

end Xml.Content

/-! ## Changes elsewhere -/

namespace Pom

/-- no element of the content, which stands at the path, is at a read place -/
def Unread (path : List String) (c : Content) : Prop := ∀ e ∈ c.elements, ¬ IsRead (path ++ e.1)

/-- the contents, which stand at the path, differ in one place that is not read -/
inductive Elsewhere : List String → Content → Content → Prop where
  | here {path : List String} {before after : Content} (rest : Content) (hbefore : Unread path before)
      (hafter : Unread path after) : Elsewhere path (before.append rest) (after.append rest)
  | text {path : List String} {rest rest' : Content} (raw : List Char) (h : Elsewhere path rest rest') :
      Elsewhere path (.text raw rest) (.text raw rest')
  | aside {path : List String} {rest rest' : Content} (a : Aside) (h : Elsewhere path rest rest') :
      Elsewhere path (.aside a rest) (.aside a rest')
  | behind {path : List String} {rest rest' : Content} (tag : Tag) (inside : Content) (blanks : List Char)
      (h : Elsewhere path rest rest') :
      Elsewhere path (.element tag inside blanks rest) (.element tag inside blanks rest')
  | inside {path : List String} {inside inside' : Content} (tag : Tag) (blanks : List Char) (rest : Content)
      (hplace : ¬ IsRead (path ++ [tag.name])) (h : Elsewhere (path ++ [tag.name]) inside inside') :
      Elsewhere path (.element tag inside blanks rest) (.element tag inside' blanks rest)

/-- the path leads neither to a read place nor below one -/
def Free (path : List String) : Prop := ∀ place, IsRead place → ¬ place <+: path

theorem free_nil : Free [] := by
  rintro place hread hpre
  rw [List.prefix_nil.1 hpre] at hread
  simp [IsRead] at hread

theorem Free.concat {path : List String} (h : Free path) {name : String} (hplace : ¬ IsRead (path ++ [name])) :
    Free (path ++ [name]) := by
  intro place hread hpre
  rcases List.prefix_concat_iff.1 hpre with rfl | hpre
  · exact hplace hread
  · exact h place hread hpre

theorem Unread.lastFrom_eq_none {path : List String} {c : Content} (h : Unread path c) (hfree : Free path)
    {place : List String} (hread : IsRead place) : lastFrom path.reverse place.reverse c.texts = none := by
  have hnone : (c.texts.filter fun t => t.1.reverse ++ path.reverse = place.reverse) = [] := by
    rw [List.filter_eq_nil_iff]
    intro t ht
    simp only [decide_eq_true_eq, reverse_append_eq_iff]
    rintro rfl
    obtain hnil | ⟨e, he, heq⟩ := Content.exists_element_of_text ht
    · rw [hnil, List.append_nil] at hread
      exact hfree path hread (List.prefix_refl path)
    · exact h e he (heq ▸ hread)
  rw [lastFrom, hnone]
  rfl

/-- **A change elsewhere leaves the last text of each read place.** -/
theorem Elsewhere.lastFrom_eq {path : List String} {c d : Content} (h : Elsewhere path c d) (hfree : Free path)
    {place : List String} (hread : IsRead place) :
    lastFrom path.reverse place.reverse c.texts = lastFrom path.reverse place.reverse d.texts := by
  induction h with
  | here rest hbefore hafter =>
    rw [Content.texts_append, Content.texts_append, lastFrom_append, lastFrom_append,
      hbefore.lastFrom_eq_none hfree hread, hafter.lastFrom_eq_none hfree hread]
  | text raw _ ih => rw [Content.texts, Content.texts, lastFrom_append, lastFrom_append, ih hfree]
  | aside a _ ih => exact ih hfree
  | behind tag inside blanks _ ih => rw [Content.texts, Content.texts, lastFrom_append, lastFrom_append, ih hfree]
  | inside tag blanks rest hplace _ ih =>
    have hinside := ih (hfree.concat hplace)
    rw [List.reverse_concat] at hinside
    rw [Content.texts, Content.texts, lastFrom_append, lastFrom_append, lastFrom_below, lastFrom_below, hinside]

theorem Unread.dependencies_eq_nil {path : List String} {c : Content} (h : Unread path c) :
    (dependenciesFrom path.reverse c.elements).filter (·.key?.isSome) = [] := by
  rw [List.filter_eq_nil_iff]
  intro d hd hkey
  obtain ⟨e, he, rfl⟩ := List.mem_map.1 hd
  obtain ⟨hmem, hplace⟩ := List.mem_filter.1 he
  have hplace : path ++ e.1 = ["project", "dependencies", "dependency"] :=
    (reverse_append_eq_iff path e.1 ["project", "dependencies", "dependency"]).1 (of_decide_eq_true hplace)
  obtain ⟨key, hsome⟩ := Option.isSome_iff_exists.1 hkey
  obtain ⟨group, hgroup, -⟩ := Option.bind_eq_some_iff.1 hsome
  obtain ⟨f, hf, hname⟩ := Content.exists_element_of_lastAt hgroup
  refine h _ (Content.mem_elements_trans hmem hf) ?_
  rw [hname, ← List.append_assoc, hplace]
  exact .inr (.inr (.inr ⟨"groupId", by decide, rfl⟩))

/-- **A change elsewhere leaves the dependencies that have a name.** -/
theorem Elsewhere.dependencies_eq {path : List String} {c d : Content} (h : Elsewhere path c d) (hfree : Free path) :
    (dependenciesFrom path.reverse c.elements).filter (·.key?.isSome) =
      (dependenciesFrom path.reverse d.elements).filter (·.key?.isSome) := by
  induction h with
  | here rest hbefore hafter =>
    rw [Content.elements_append, Content.elements_append, dependenciesFrom_append, dependenciesFrom_append,
      List.filter_append, List.filter_append, hbefore.dependencies_eq_nil, hafter.dependencies_eq_nil]
  | text raw _ ih => exact ih hfree
  | aside a _ ih => exact ih hfree
  | behind tag inside blanks _ ih =>
    rw [dependenciesFrom_element, dependenciesFrom_element, List.filter_append, List.filter_append, ih hfree]
  | @inside path inside inside' tag blanks rest hplace hinside ih =>
    have hbelow := ih (hfree.concat hplace)
    rw [List.reverse_concat] at hbelow
    rw [dependenciesFrom_element, dependenciesFrom_element, List.filter_append, List.filter_append]
    by_cases hhere : tag.name :: path.reverse = dependencyPlace
    · have hlast (name : String) (hname : name ∈ coordinateNames) : inside.lastAt [name] = inside'.lastAt [name] := by
        have hread : IsRead (["project", "dependencies", "dependency"] ++ [name]) :=
          .inr (.inr (.inr ⟨name, hname, rfl⟩))
        have hsame := hinside.lastFrom_eq (hfree.concat hplace) hread
        rw [List.reverse_concat, List.reverse_concat, hhere] at hsame
        rw [← lastFrom_dependencyPlace, ← lastFrom_dependencyPlace]
        exact hsame
      have hcoordinates : inside.coordinatesAt [] = inside'.coordinatesAt [] :=
        Coordinates.eq_mk (hlast "groupId" (by decide)) (hlast "artifactId" (by decide)) (hlast "version" (by decide))
      rw [if_pos hhere, if_pos hhere, hcoordinates]
    · rw [if_neg hhere, if_neg hhere, hbelow]

theorem Elsewhere.sameRead {c d : Content} (h : Elsewhere [] c d) : SameRead c d := by
  have hlast (place : List String) (hread : IsRead place) : c.lastAt place = d.lastAt place := by
    rw [← lastFrom_reverse [] place, ← lastFrom_reverse [] place]
    exact h.lastFrom_eq free_nil hread
  have hparent (name : String) (hname : name ∈ coordinateNames) := hlast ["project", "parent", name]
    (.inr (.inl ⟨name, hname, rfl⟩))
  exact {
    version := hlast _ (.inl rfl)
    parent := Coordinates.eq_mk (hparent "groupId" (by decide)) (hparent "artifactId" (by decide))
      (hparent "version" (by decide))
    properties := fun key => hlast _ (.inr (.inr (.inl ⟨key, rfl⟩)))
    dependencies := by
      rw [← dependenciesFrom_nil, ← dependenciesFrom_nil]
      exact h.dependencies_eq free_nil }

/-! ## Summaries of documents -/

theorem summarize_eq_ok {document : String} {c : Content} (h : Xml.events? document = some c.events) :
    summarize document = .ok (ofEvents c.events).summary := by
  rw [summarize, h]

/-- **A summary tells the read places of its document, and nothing else.** -/
theorem summarize_tree :
    (∀ c : Content, c.IsDocument → Xml.events? (String.ofList c.written) = some c.events) ∧
    ∀ (document : String) (c : Content), Xml.events? document = some c.events →
      (∃ p : Pom, p.Tells c ∧ summarize document = .ok p.summary ∧ ∀ key, p.summary.dependencies.get? key =
        ((c.dependencies.filter (·.key? = some key)).getLast?).map p.versionOf) ∧
      ∀ (changed : String) (d : Content), Xml.events? changed = some d.events → SameRead c d ∨ Elsewhere [] c d →
        summarize changed = summarize document := by
  refine ⟨fun c hc => events?_written hc, fun document c hc => ⟨⟨_, tells_ofEvents c, summarize_eq_ok hc, ?_⟩, ?_⟩⟩
  · intro key
    rw [← (tells_ofEvents c).dependencies]
    exact get?_resolvedDependencies _ key
  · intro changed d hd hsame
    have hread : SameRead c d := hsame.elim id Elsewhere.sameRead
    rw [summarize_eq_ok hc, summarize_eq_ok hd, hread.summary_eq (tells_ofEvents c) (tells_ofEvents d)]

/-! ## A description with exclusions -/

/-- an element without attributes -/
def plainElement (name : String) (inside rest : Content) : Content := .element ⟨name, [], []⟩ inside [] rest

/-- an element that holds a text -/
def textElement (name text : String) (rest : Content) : Content := plainElement name (.text text.toList .nil) rest

/-- a description of two dependencies, with more content at the end of the first one -/
def orderPom (more : Content) : Content :=
  .element ⟨"project", [⟨[' '], "xmlns", [], [], '"', ['m', '>', 'n']⟩], []⟩
    (textElement "version" " 1.4.0 " <| plainElement "dependencies"
      (plainElement "dependency"
        (textElement "groupId" "com.acme" <| textElement "artifactId" "client" <|
          textElement "version" "$\x7bversion\x7d-&#114;1" more) <|
        .aside (.comment " none ".toList) <| plainElement "dependency"
          (textElement "groupId" "org.map" <| textElement "artifactId" "map" .nil) .nil) .nil) [] .nil

def exclusions : Content :=
  plainElement "exclusions" (plainElement "exclusion" (textElement "groupId" "com.other" .nil) .nil) .nil

theorem elsewhere_exclusions : Elsewhere [] (orderPom .nil) (orderPom exclusions) := by
  have hbefore : Unread ["project", "dependencies", "dependency"] .nil := nofun
  have hafter : Unread ["project", "dependencies", "dependency"] exclusions := by
    simp [Unread, exclusions, plainElement, textElement, Content.elements, IsRead, coordinateNames]
  refine .inside _ _ _ (by simp [IsRead]) (.behind _ _ _ (.inside _ _ _ (by simp [IsRead]) ?_))
  refine .inside _ _ _ (by simp [IsRead]) (.behind _ _ _ (.behind _ _ _ (.behind _ _ _ ?_)))
  exact .here .nil hbefore hafter

theorem summarize_orderPom :
    (orderPom .nil).IsDocument ∧ (orderPom exclusions).IsDocument ∧ Elsewhere [] (orderPom .nil) (orderPom exclusions) ∧
      summarize (String.ofList (orderPom exclusions).written) = summarize (String.ofList (orderPom .nil).written) ∧
      (summarize (String.ofList (orderPom .nil).written)).toOption.map (·.dependencies.entries) =
        some [("com.acme:client", "1.4.0-r1"), ("org.map:map", "unspecified")] := by
  have hfew : (orderPom .nil).IsDocument := ⟨by decide +kernel, by decide +kernel⟩
  have hmore : (orderPom exclusions).IsDocument := ⟨by decide +kernel, by decide +kernel⟩
  have hsame := (summarize_tree.2 _ _ (summarize_tree.1 _ hfew)).2 _ _ (summarize_tree.1 _ hmore)
    (.inr elsewhere_exclusions)
  have hentries : (ofEvents (orderPom .nil).events).summary.dependencies.entries =
      [("com.acme:client", "1.4.0-r1"), ("org.map:map", "unspecified")] := by decide +kernel
  refine ⟨hfew, hmore, elsewhere_exclusions, hsame, ?_⟩
  rw [summarize_eq_ok (summarize_tree.1 _ hfew), Except.toOption, Option.map_some, hentries]

end Pom

end CodeSurvey
