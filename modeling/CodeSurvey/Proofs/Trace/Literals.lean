/-
What literals have to do with the sequences of an entry point.

Tracing is lexical: a call, a field or a clause is what a pattern matches, and the patterns run on text in which literals
stand as they are. So text within a literal that reads like a call is a call (`edges_spokenCall`). All else that stands
in a literal is data: `traceOperations_of_spared` takes two versions of the sources of a module that differ within
literals of method bodies, none of them touched by a match of the tracer's patterns in either version, and gives the
same sequences for both.

Each reading of a text is settled by itself, its matches being those of `findAll_text`: the fields (`resolve_text`), the
clauses, the body of a method, its calls and the fields of a payload. From the readings the law goes up call by call, as
the trace does.
-/
import CodeSurvey.Proofs.Source.Outlines
import CodeSurvey.Proofs.Source.Revision
import CodeSurvey.Proofs.Trace.Declarations
import CodeSurvey.Proofs.Trace.Implements
import CodeSurvey.Proofs.Trace.Separation

namespace CodeSurvey

open Source (Passage Outline outlines methods Revision Draft Inner)

/-! ## Readings of a text -/

namespace Source

/-- the passage in pieces; a reworded literal is changed with its marks -/
def Passage.pieces : Passage → List Piece
  | kept l => l.chars.map .same
  | reworded k content => [.changed k.mark fun v => (content v).flatMap Inner.chars]

def piecesOf (xs : List Passage) : List Piece := xs.flatMap Passage.pieces

theorem text_piecesOf (v : Version) (xs : List Passage) :
    Passage.text v xs = String.ofList (Piece.text v (piecesOf xs)) := by
  rw [Passage.text_eq, Passage.chars, Piece.text, piecesOf, List.flatMap_assoc]
  refine congrArg (fun f => String.ofList (xs.flatMap f)) (funext fun x => ?_)
  cases x with
  | kept l => rw [Passage.pieces, List.flatMap_map]; exact (List.flatMap_singleton' l.chars).symm
  | reworded k content => exact (List.flatMap_singleton _ _).symm

/-- the pattern has the same matches in both versions -/
theorem findAll_text {p : Pattern} {xs : List Passage} (h : p.Spares (piecesOf xs)) (v w : Version) :
    p.findAll (Passage.text v xs) = p.findAll (Passage.text w xs) := by
  rw [text_piecesOf, text_piecesOf, Pattern.findAll_eq h v w]

/-- headers and parameters are the same in both versions -/
def InBodies (xs : List Passage) : Prop := ∀ o ∈ outlines xs, ∀ x ∈ o.header ++ o.params, x.isKept = true

instance (xs : List Passage) : Decidable (InBodies xs) :=
  inferInstanceAs (Decidable (∀ o ∈ outlines xs, ∀ x ∈ o.header ++ o.params, x.isKept = true))

/-- the body of the first declaration of the name that has one -/
def bodyOutline? (xs : List Passage) (name : String) : Option Outline :=
  ((outlines xs).filter fun o => word o.name == name).find? (·.isBlock)

theorem fits_of_mem_outlines {xs : List Passage} {o : Outline} (h : o ∈ outlines xs) :
    ∃ before rest, o.Fits before rest := by
  obtain ⟨before, x, rest, hfits, -⟩ := fits_of_mem h
  exact ⟨before, rest, hfits⟩

theorem text_of_kept {xs : List Passage} (h : ∀ x ∈ xs, x.isKept = true) (v w : Version) :
    Passage.text v xs = Passage.text w xs := by
  rw [Passage.text, Passage.text, Passage.map_lexeme_of_kept h v w]

/-- In both versions the body found for a name is the same list of passages. -/
theorem bodyOf_text (v : Version) (xs : List Passage) (name : String) :
    bodyOf (methods (Passage.text v xs)) name = (bodyOutline? xs name).map fun o => Passage.text v o.last := by
  have hfilter : ((outlines xs).filter ((·.name == name) ∘ Outline.method v)) =
      (outlines xs).filter fun o => word o.name == name := by
    refine List.filter_congr fun o ho => ?_
    obtain ⟨before, rest, hfits⟩ := fits_of_mem_outlines ho
    show (Passage.text v o.name == name) = _
    rw [text_of_kept hfits.named v .old, word]
  have hfind : ∀ os : List Outline, os.findSome? (fun o => (o.method v).body) =
      (os.find? (·.isBlock)).map fun o => Passage.text v o.last := by
    intro os
    induction os with
    | nil => rfl
    | cons o os ih =>
      rw [List.findSome?_cons, List.find?_cons, ih, Outline.method]
      cases o.isBlock <;> rfl
  rw [bodyOf, methods_text, List.filter_map, hfilter, List.findSome?_map, bodyOutline?]
  exact hfind _

/-- all that is known of a method without its body -/
def Method.signature (m : Method) : Method := { m with body := m.body.map fun _ => "" }

theorem signatures_text {xs : List Passage} (h : InBodies xs) (v w : Version) :
    (methods (Passage.text v xs)).map Method.signature = (methods (Passage.text w xs)).map Method.signature := by
  rw [methods_text, methods_text, List.map_map, List.map_map]
  refine List.map_congr_left fun o ho => ?_
  obtain ⟨before, rest, hfits⟩ := fits_of_mem_outlines ho
  have hheader := text_of_kept (fun x hx => h o ho x (List.mem_append_left _ hx)) v w
  have hparams := text_of_kept (fun x hx => h o ho x (List.mem_append_right _ hx)) v w
  simp only [Function.comp_apply, Method.signature, Outline.method, text_of_kept hfits.named v w, hheader, hparams]
  cases o.isBlock <;> rfl

end Source

open Source (piecesOf InBodies findAll_text bodyOf_text)

/-! ## Fields and clauses -/

namespace Injection

/-- no pattern for fields of the class touches a reworded literal -/
structure Spared (name : String) (xs : List Passage) : Prop where
  annotated : annotatedField.Spares (piecesOf xs)
  head : (constructorHead name).Spares (piecesOf xs)
  assigned : assignment.Spares (piecesOf xs)
  plain : plainField.Spares (piecesOf xs)

instance (name : String) (xs : List Passage) : Decidable (Spared name xs) :=
  decidable_of_iff
    (annotatedField.Spares (piecesOf xs) ∧ (constructorHead name).Spares (piecesOf xs) ∧
      assignment.Spares (piecesOf xs) ∧ plainField.Spares (piecesOf xs))
    ⟨fun ⟨h₁, h₂, h₃, h₄⟩ => ⟨h₁, h₂, h₃, h₄⟩, fun ⟨h₁, h₂, h₃, h₄⟩ => ⟨h₁, h₂, h₃, h₄⟩⟩

theorem resolve_text {name : String} {xs : List Passage} (h : Spared name xs) (known : NameSet) (v w : Version) :
    resolve (Passage.text v xs) (some name) known = resolve (Passage.text w xs) (some name) known := by
  simp only [resolve, declarations, Option.map_some, constructorAssignments, constructorParameters,
    findAll_text h.annotated v w, findAll_text h.head v w, findAll_text h.assigned v w, findAll_text h.plain v w]

end Injection

namespace Endpoint

theorem fieldsOf_text {xs : List Passage} (h : payloadField.Spares (piecesOf xs)) (v w : Version) :
    fieldsOf (Passage.text v xs) = fieldsOf (Passage.text w xs) := by
  rw [fieldsOf, findAll_text h v w, fieldsOf]

/-! ## Operations -/

theorem firstOfName_map {f : Source.Method → Source.Method} (hf : ∀ m, (f m).name = m.name)
    (ms : List Source.Method) : firstOfName (ms.map f) = (firstOfName ms).map f := by
  induction ms using List.reverseRecOn with
  | nil => rfl
  | append_singleton ms m ih =>
    have hany : ((firstOfName ms).map f).any (·.name == (f m).name) = (firstOfName ms).any (·.name == m.name) := by
      simp only [List.any_map, Function.comp_def, hf]
    rw [List.map_append, List.map_singleton, firstOfName_concat, firstOfName_concat, ih, hany]
    split
    · rfl
    · rw [List.map_append, List.map_singleton]

theorem selected_signature (className : String) (ms : List Source.Method) :
    selected className (ms.map Source.Method.signature) = (selected className ms).map Source.Method.signature := by
  have hmapped : (ms.map Source.Method.signature).filter (fun m => mapping.occurs m.header) =
      (ms.filter fun m => mapping.occurs m.header).map Source.Method.signature := List.filter_map ..
  have hoffered : (ms.map Source.Method.signature).filter (isOffered className) =
      (ms.filter (isOffered className)).map Source.Method.signature := by
    rw [List.filter_map]
    refine congrArg (List.map _) (List.filter_congr fun m _ => ?_)
    rw [Function.comp_apply, isOffered, isOffered, Source.Method.signature, Option.isSome_map]
    rfl
  unfold selected
  simp only [hmapped, hoffered, List.isEmpty_map]
  split <;> exact firstOfName_map (f := Source.Method.signature) (fun _ => rfl) _

/-- An operation is told by its signature. -/
theorem operations_signature (sources : Sources) (className : String) (ms : List Source.Method) :
    operations sources className (ms.map Source.Method.signature) = operations sources className ms := by
  rw [operations, selected_signature, List.map_map, operations]
  rfl

theorem describe_congr {sources sources' : Sources} {m : Source.Method}
    (h : ∀ payload ∈ (describe sources m).requestType, payloadFields sources payload = payloadFields sources' payload) :
    describe sources m = describe sources' m := by
  have hfields : ((requestBody.find? m.params).map (·.group 1)).map (payloadFields sources) =
      ((requestBody.find? m.params).map (·.group 1)).map (payloadFields sources') :=
    Option.map_congr h
  unfold describe
  rw [hfields]

end Endpoint

/-- in the file of the class literals are reworded in bodies only, and nothing that the tracer looks for there touches
one of them -/
structure Tracer.Spared (name : String) (xs : List Passage) : Prop where
  inBodies : InBodies xs
  calls : ∀ o ∈ outlines xs, callPattern.Spares (piecesOf o.last)
  fields : Injection.Spared name xs
  clauses : implementsClause.Spares (piecesOf xs)

instance (name : String) (xs : List Passage) : Decidable (Tracer.Spared name xs) :=
  decidable_of_iff
    (InBodies xs ∧ (∀ o ∈ outlines xs, Tracer.callPattern.Spares (piecesOf o.last)) ∧ Injection.Spared name xs ∧
      Tracer.implementsClause.Spares (piecesOf xs))
    ⟨fun ⟨h₁, h₂, h₃, h₄⟩ => ⟨h₁, h₂, h₃, h₄⟩, fun ⟨h₁, h₂, h₃, h₄⟩ => ⟨h₁, h₂, h₃, h₄⟩⟩

/-! ## Revisions of a module -/

/-- the source files of a module in two versions -/
structure SourceRevision where
  file : FilePath → Except SurveyError Revision
  fileOfType : String → Option FilePath

namespace SourceRevision

/-- the sources in a version -/
def sources (r : SourceRevision) (v : Version) : Sources where
  read := fun path => (r.file path).map fun f => Source.normalize (f.source v)
  fileOfType := r.fileOfType

def tracer (r : SourceRevision) (root : FilePath) (ignored : IgnoreList) (v : Version) : Tracer :=
  ⟨r.sources v, root, ignored⟩

/-- the tracer's patterns touch no reworded literal: in the files of the entry point and of the components, and in those
that declare the payloads of its operations -/
structure Spared (r : SourceRevision) (roles : RoleAssignment) (entryPoint : String) : Prop where
  followed : ∀ name entry f, roles.get? name = some entry → name = entryPoint ∨ entry.role = .component →
    r.file entry.path = .ok f → Tracer.Spared name f.passages
  payloads : ∀ entry f, roles.get? entryPoint = some entry → r.file entry.path = .ok f →
    ∀ operation ∈ Endpoint.operations (r.sources .old) entryPoint (methods (Passage.text .old f.passages)),
      ∀ payload ∈ operation.requestType, ∀ path g, r.fileOfType (Endpoint.payloadName payload) = some path →
        r.file path = .ok g → Endpoint.payloadField.Spares (piecesOf g.passages)

variable {r : SourceRevision} {roles : RoleAssignment} {entryPoint : String}

/-- each file as its passages write it -/
theorem sources_eq (r : SourceRevision) (v : Version) :
    r.sources v = ⟨fun path => (r.file path).map fun f => Passage.text v f.passages, r.fileOfType⟩ := by
  simp only [sources, Revision.normalize_source]

theorem read_sources (r : SourceRevision) (v : Version) (path : FilePath) :
    (r.sources v).read path = (r.file path).map fun f => Passage.text v f.passages := by
  rw [sources_eq]

theorem payloadFields_eq {payload : String}
    (h : ∀ path g, r.fileOfType (Endpoint.payloadName payload) = some path → r.file path = .ok g →
      Endpoint.payloadField.Spares (piecesOf g.passages)) (v w : Version) :
    Endpoint.payloadFields (r.sources v) payload = Endpoint.payloadFields (r.sources w) payload := by
  unfold Endpoint.payloadFields
  have htype : ∀ u, (r.sources u).fileOfType = r.fileOfType := fun u => rfl
  rw [htype, htype]
  cases hpath : r.fileOfType (Endpoint.payloadName payload) with
  | none => rfl
  | some path =>
    simp only [read_sources]
    cases hfile : r.file path with
    | error fault => rfl
    | ok g => exact Endpoint.fieldsOf_text (h path g hpath hfile) v w

/-- In both versions the entry point has the same operations. -/
theorem operations_eq (h : r.Spared roles entryPoint) {entry : RoleEntry} {f : Revision}
    (hentry : roles.get? entryPoint = some entry) (hfile : r.file entry.path = .ok f) (v : Version) :
    Endpoint.operations (r.sources v) entryPoint (methods (Passage.text v f.passages)) =
      Endpoint.operations (r.sources .old) entryPoint (methods (Passage.text .old f.passages)) := by
  have hbodies := (h.followed entryPoint entry f hentry (.inl rfl) hfile).inBodies
  rw [← Endpoint.operations_signature, Source.signatures_text hbodies v .old, Endpoint.operations_signature]
  refine List.map_congr_left fun m hm => ?_
  refine (Endpoint.describe_congr fun payload hpayload => ?_).symm
  exact payloadFields_eq (h.payloads entry f hentry hfile _ (List.mem_map_of_mem hm) payload hpayload) _ _

end SourceRevision

namespace Tracer

open SourceRevision (read_sources)

theorem calls_text {xs : List Passage} (h : callPattern.Spares (piecesOf xs)) (ignored : IgnoreList) (v w : Version) :
    calls ignored (Passage.text v xs) = calls ignored (Passage.text w xs) := by
  rw [calls, findAll_text h v w, calls]

theorem declaresImplements_text {xs : List Passage} (h : implementsClause.Spares (piecesOf xs)) (interface : String)
    (v w : Version) :
    declaresImplements (Passage.text v xs) interface = declaresImplements (Passage.text w xs) interface := by
  rw [declaresImplements_eq_any, findAll_text h v w, declaresImplements_eq_any]

theorem mem_outlines_of_body {xs : List Passage} {name : String} {o : Outline}
    (h : Source.bodyOutline? xs name = some o) : o ∈ outlines xs :=
  (List.mem_filter.1 (List.mem_of_find?_eq_some h)).1

/-! ## The second hop in both versions -/

section

variable {r : SourceRevision} {roles : RoleAssignment} {entryPoint : String} (h : r.Spared roles entryPoint)
  (root : FilePath) (ignored : IgnoreList) (v w : Version)

include h

theorem spared_component {name : String} (hname : name ∈ (roles.classesWith .component).toList) :
    ∃ entry, roles.get? name = some entry ∧ ∀ f, r.file entry.path = .ok f → Spared name f.passages := by
  obtain ⟨entry, hentry, hrole⟩ := (roles.mem_classesWith .component name).1 hname
  exact ⟨entry, hentry, fun f => h.followed name entry f hentry (.inr hrole)⟩

theorem standsFor_text (component : String) {other : String}
    (hother : other ∈ (roles.classesWith .component).toList) :
    (r.tracer root ignored v).standsFor (.of roles) component other =
      (r.tracer root ignored w).standsFor (.of roles) component other := by
  obtain ⟨entry, hentry, hspared⟩ := spared_component h hother
  have hget : (ModuleView.of roles).roles.get? other = some entry := hentry
  have hread : ∀ u, (r.tracer root ignored u).sources.read = (r.sources u).read := fun u => rfl
  unfold standsFor
  simp only [hget, hread, read_sources]
  cases hfile : r.file entry.path with
  | error fault => rfl
  | ok f => simp only [Except.map, declaresImplements_text (hspared f hfile).clauses component v w]

theorem implementations_text (component : String) :
    (r.tracer root ignored v).implementations (.of roles) component =
      (r.tracer root ignored w).implementations (.of roles) component := by
  unfold implementations
  refine congrArg (component :: ·) (List.filter_congr fun other hother => ?_)
  rw [standsFor_text h root ignored v w component hother]

/-- In both versions a component's method calls the same data access. -/
theorem dataCalls_text (method : String) {candidate : String}
    (hcandidate : candidate ∈ (roles.classesWith .component).toList) :
    (r.tracer root ignored v).dataCalls? (.of roles) method candidate =
      (r.tracer root ignored w).dataCalls? (.of roles) method candidate := by
  obtain ⟨entry, hentry, hspared⟩ := spared_component h hcandidate
  have hget : (ModuleView.of roles).roles.get? candidate = some entry := hentry
  have hread : ∀ u, (r.tracer root ignored u).sources.read = (r.sources u).read := fun u => rfl
  have hignored : ∀ u, (r.tracer root ignored u).ignored = ignored := fun u => rfl
  unfold dataCalls?
  rw [hget, Option.bind_some, Option.bind_some, hread, hread, hignored, hignored, read_sources, read_sources]
  cases hfile : r.file entry.path with
  | error fault => rfl
  | ok f =>
    simp only [Except.map, bodyOf_text, Option.map_map]
    refine Option.map_congr fun o ho => ?_
    have hcalls := (hspared f hfile).calls o (mem_outlines_of_body ho)
    simp only [Function.comp_apply, calls_text hcalls ignored v w,
      Injection.resolve_text (hspared f hfile).fields _ v w]

theorem secondHop_text {component : String} (hcomponent : component ∈ (roles.classesWith .component).toList)
    (method : String) :
    (r.tracer root ignored v).secondHop (.of roles) component method =
      (r.tracer root ignored w).secondHop (.of roles) component method := by
  unfold secondHop
  rw [implementations_text h root ignored v w, findSome?_congr fun c hc =>
    dataCalls_text h root ignored v w method (mem_implementations hcomponent hc)]

/-! ## The trace in both versions -/

/-- **One call adds the same edges in both versions.** -/
theorem addCall_text (injections : InjectionMap) (s : EdgeSet) (call : String × String) :
    (r.tracer root ignored v).addCall (.of roles) entryPoint injections s call =
      (r.tracer root ignored w).addCall (.of roles) entryPoint injections s call := by
  unfold addCall
  cases target? (.of roles) injections call.1 with
  | none => rfl
  | some target =>
    dsimp only
    by_cases hcomponent : (ModuleView.of roles).roles.roleOf target = .component
    · have hmem : target ∈ (roles.classesWith .component).toList :=
        (roles.mem_classesWith_iff_roleOf (by decide) target).2 hcomponent
      rw [secondHop_text h root ignored v w hmem]
    · simp only [if_neg hcomponent]

theorem traceBody_text (injections : InjectionMap) {xs : List Passage} (hcalls : callPattern.Spares (piecesOf xs)) :
    (r.tracer root ignored v).traceBody (.of roles) entryPoint injections (Passage.text v xs) =
      (r.tracer root ignored w).traceBody (.of roles) entryPoint injections (Passage.text w xs) := by
  unfold traceBody
  have hignored : ∀ u, (r.tracer root ignored u).ignored = ignored := fun u => rfl
  rw [hignored, hignored, calls_text hcalls ignored v w]
  exact congrArg (List.foldl · _ _)
    (funext fun s => funext fun call => addCall_text h root ignored v w injections s call)

/-- **What the tracer's patterns do not touch has no part in the sequences**: in two versions of a module's sources that
differ within literals of method bodies, none of which a pattern touches, each entry point has the same operations with
the same edges. -/
theorem traceOperations_of_spared :
    (r.tracer root ignored v).traceOperations roles entryPoint =
      (r.tracer root ignored w).traceOperations roles entryPoint := by
  have hread : ∀ u, (r.tracer root ignored u).sources.read = (r.sources u).read := fun u => rfl
  have hsources : ∀ u, (r.tracer root ignored u).sources = r.sources u := fun u => rfl
  unfold traceOperations
  cases hentry : (roles.get? entryPoint).filter (·.role = .entryPoint) with
  | none => rfl
  | some entry =>
    have hget : roles.get? entryPoint = some entry := (Option.filter_eq_some_iff.1 hentry).1
    dsimp only
    rw [hread, hread, read_sources, read_sources]
    cases hfile : r.file entry.path with
    | error fault => dsimp only [Except.map]
    | ok f =>
      have hspared := h.followed entryPoint entry f hget (.inl rfl) hfile
      have hoperations := SourceRevision.operations_eq h hget hfile
      dsimp only [Except.map]
      rw [hsources, hsources, hoperations v, hoperations w]
      refine congrArg Except.ok (List.map_congr_left fun operation _ => ?_)
      rw [bodyOf_text, bodyOf_text, Injection.resolve_text hspared.fields _ v w]
      cases hbody : Source.bodyOutline? f.passages operation.name with
      | none => rfl
      | some o =>
        have hcalls := hspared.calls o (mem_outlines_of_body hbody)
        simp only [Option.map_some, traceBody_text h root ignored v w _ hcalls]

end

/-! ## A log and an order -/

/-- characters without quotes and backslashes, as content of a string -/
def plainOf (text : String) : List (Inner .string) :=
  text.toList.filterMap fun c => if h : c ≠ '"' ∧ c ≠ '\\' then some (.plain c h) else none

def spoken (old new : String) : Version → List (Inner .string)
  | .old => plainOf old
  | .new => plainOf new

/-- code of both versions -/
def written (text : String) (unquoted : text.toList.all (fun c => c != '"' && c != '\'') = true)
    (uncommented : ¬ ['/', '/'] <:+: text.toList ∧ ¬ ['/', '*'] <:+: text.toList) : Draft :=
  .shared (.code text.toList (fun c hc => by simpa using List.all_eq_true.1 unquoted c hc) uncommented) trivial

/-- a page that logs something about its store -/
def logPage : Revision where
  drafts := [
    written "class Page \x7b public void run() \x7b log(" (by decide +kernel) (by decide +kernel),
    .reworded .string (spoken "store.scan(all)" "store scan (all)") (by decide +kernel),
    written "); \x7d \x7d" (by decide +kernel) (by decide +kernel)]
  separated := by decide +kernel

def logRevision : SourceRevision := ⟨fun _ => .ok logPage, fun _ => none⟩

/-- What a literal says adds an edge, where it reads like a call. -/
theorem edges_spokenCall :
    logPage.source .old = "class Page \x7b public void run() \x7b log(\"store.scan(all)\"); \x7d \x7d" ∧
      logPage.source .new = "class Page \x7b public void run() \x7b log(\"store scan (all)\"); \x7d \x7d" ∧
      InBodies logPage.passages ∧
      ((logRevision.tracer (.ofText "src") ⟨[]⟩ .old).traceOperations pageRoles "Page").toOption.map
        (List.map CallSequence.edges) = some [[.make "Page" "Store" "scan" .dataAccess]] ∧
      ((logRevision.tracer (.ofText "src") ⟨[]⟩ .new).traceOperations pageRoles "Page").toOption.map
        (List.map CallSequence.edges) = some [[]] := by
  simp only [SourceRevision.tracer, SourceRevision.sources_eq]
  decide +kernel

/-- a page whose text has a brace in one version and reads almost like a call in the other -/
def orderPage : Revision where
  drafts := [
    written "class Page \x7b @GetMapping(" (by decide +kernel) (by decide +kernel),
    .shared (.literal .string (plainOf "/orders") (by decide +kernel)) trivial,
    written ") A go(@RequestBody Order o) \x7b log(" (by decide +kernel) (by decide +kernel),
    .reworded .string (spoken "placing \x7b the order" "sent. (os put)") (by decide +kernel),
    written "); os.put(o); \x7d \x7d" (by decide +kernel) (by decide +kernel)]
  separated := by decide +kernel

def orderService : Revision where
  drafts := [
    written "class Os \x7b " (by decide +kernel) (by decide +kernel),
    .shared (.lineComment " stores".toList (by decide +kernel) true) trivial,
    written "void put(Order o) \x7b ss.add(" (by decide +kernel) (by decide +kernel),
    .reworded .string (spoken "insert; (o)" "update ss . add") (by decide +kernel),
    written "); \x7d \x7d" (by decide +kernel) (by decide +kernel)]
  separated := by decide +kernel

/-- the payload, with a text that reads almost like a field -/
def orderClass : Revision where
  drafts := [
    written "class Order \x7b private String name; String show() \x7b return " (by decide +kernel) (by decide +kernel),
    .reworded .string (spoken "order " "private order ") (by decide +kernel),
    written " + name; \x7d \x7d" (by decide +kernel) (by decide +kernel)]
  separated := by decide +kernel

def orderRevision : SourceRevision where
  file path := .ok (if path.text = "Page" then orderPage else if path.text = "Os" then orderService else orderClass)
  fileOfType name := if name = "Order" then some (.ofText "Order") else none

theorem spared_orderRevision : orderRevision.Spared orderRoles "Page" := by
  have hentries : orderRoles.entries.entries = [("A", ⟨.unclassified, .ofText "A"⟩), ("Os", ⟨.component, .ofText "Os"⟩),
      ("Page", ⟨.entryPoint, .ofText "Page"⟩), ("Ss", ⟨.dataAccess, .ofText "Ss"⟩)] := by decide +kernel
  constructor
  case followed =>
    intro name entry f hget hfollowed hfile
    rw [RoleAssignment.get?, Ordered.get?_eq_some_iff, hentries] at hget
    have hname : name = "Page" ∧ entry.path = .ofText "Page" ∨ name = "Os" ∧ entry.path = .ofText "Os" := by grind
    rcases hname with ⟨rfl, hpath⟩ | ⟨rfl, hpath⟩
    all_goals
      rw [hpath] at hfile
      cases hfile
      decide +kernel
  case payloads =>
    intro entry f _ _ operation _ payload _ path g hpath hfile
    have horder : path = .ofText "Order" := by grind [orderRevision]
    rw [horder] at hfile
    cases hfile
    decide +kernel

theorem traceOperations_orderRevision :
    orderRevision.Spared orderRoles "Page" ∧
      (∀ f ∈ [orderPage, orderService, orderClass], f.source .old ≠ f.source .new) ∧
      (orderRevision.tracer (.ofText "src") ⟨[]⟩ .old).traceOperations orderRoles "Page" =
        (orderRevision.tracer (.ofText "src") ⟨[]⟩ .new).traceOperations orderRoles "Page" ∧
      ((orderRevision.tracer (.ofText "src") ⟨[]⟩ .old).traceOperations orderRoles "Page").toOption =
        some [⟨⟨"go", some "Order", ["name: String"], some "A", none⟩,
          [.make "Page" "Os" "put" .component, .make "Os" "Ss" "add" .dataAccess], .dataAccess⟩] := by
  refine ⟨spared_orderRevision, by decide +kernel, traceOperations_of_spared spared_orderRevision _ _ _ _, ?_⟩
  rw [SourceRevision.tracer, SourceRevision.sources_eq]
  decide +kernel

end Tracer

end CodeSurvey
