/-
Architectural roles of classes.

A class takes part in traces as an entry point, a component or data access; every other class is unclassified. A
`RoleAssignment` gives each class one role and the file it was found in. The first insertion of a class counts and later
ones change nothing. `classify` decides the role of one source file: by its annotations, else by marker types, else by
words in its path, else by the end of its file name; within each step the roles are tried in one order.
-/
import CodeSurvey.Ordered
import CodeSurvey.Path
import CodeSurvey.Pattern.Search
import CodeSurvey.Text.Case
import CodeSurvey.Text.Words

namespace CodeSurvey

open Text

/-- the part a class plays -/
inductive Role where
  | entryPoint
  | component
  | dataAccess
  | unclassified
  deriving DecidableEq, Repr

/-- takes part in traces -/
def Role.isActive : Role → Bool
  | .unclassified => false
  | _ => true

/-- a class's role and the file that declares it -/
structure RoleEntry where
  role : Role
  path : FilePath
  deriving DecidableEq, Repr

/-- one role and file for each class -/
structure RoleAssignment where
  entries : Ordered String RoleEntry

/-- how many classes have each role -/
structure RoleCounts where
  entryPoints : Nat
  components : Nat
  dataAccess : Nat
  unclassified : Nat
  deriving DecidableEq, Repr

namespace RoleCounts

def zero : RoleCounts := ⟨0, 0, 0, 0⟩

/-- one more class of the role -/
def add (n : RoleCounts) : Role → RoleCounts
  | .entryPoint => { n with entryPoints := n.entryPoints + 1 }
  | .component => { n with components := n.components + 1 }
  | .dataAccess => { n with dataAccess := n.dataAccess + 1 }
  | .unclassified => { n with unclassified := n.unclassified + 1 }

end RoleCounts

namespace RoleAssignment

def empty : RoleAssignment := ⟨Ordered.empty⟩

def get? (a : RoleAssignment) (name : String) : Option RoleEntry := a.entries.get? name

/-- whether the class is new, and the assignment with it -/
def insert (a : RoleAssignment) (name : String) (entry : RoleEntry) : Bool × RoleAssignment :=
  if a.entries.contains name then (false, a) else (true, ⟨a.entries.insert name entry⟩)

/-- the role of a class; a class that is not there is unclassified -/
def roleOf (a : RoleAssignment) (name : String) : Role :=
  ((a.get? name).map (·.role)).getD .unclassified

/-- the classes of a role -/
def classesWith (a : RoleAssignment) (role : Role) : NameSet :=
  (a.entries.filter fun _ e => e.role == role).map fun _ => ()

def size (a : RoleAssignment) : Nat := a.entries.size

/-- how many classes have each role -/
def counts (a : RoleAssignment) : RoleCounts :=
  a.entries.entries.foldl (fun n e => n.add e.2.role) .zero

theorem mem_classesWith (a : RoleAssignment) (role : Role) (name : String) :
    name ∈ (a.classesWith role).toList ↔ ∃ entry, a.get? name = some entry ∧ entry.role = role := by
  rw [classesWith, NameSet.toList, Ordered.keys_map, Ordered.mem_keys_filter]
  simp [get?]

theorem roleOf_of_get? {a : RoleAssignment} {name : String} {entry : RoleEntry} (h : a.get? name = some entry) :
    a.roleOf name = entry.role := by
  simp [roleOf, h]

/-- A class has an active role exactly when it stands among the classes of that role. -/
theorem mem_classesWith_iff_roleOf (a : RoleAssignment) {role : Role} (h : role ≠ .unclassified) (name : String) :
    name ∈ (a.classesWith role).toList ↔ a.roleOf name = role := by
  rw [mem_classesWith, roleOf]
  cases a.get? name with
  | none => simpa using h.symm
  | some entry => simp

end RoleAssignment

namespace Role

/-- annotations of each role -/
def annotations : List (Role × List String) :=
  [(.entryPoint, ["RestController", "Controller", "WebServlet", "Path"]),
    (.component, ["Service", "Stateless", "Stateful", "Singleton", "Component"]),
    (.dataAccess, ["Repository"])]

/-- one of the annotations, as a whole word -/
def annotated (names : List String) : Pattern :=
  .lit "@" ++ .oneOf names ++ .wordEdge

/-- a supertype in a list: a dotted name with type arguments -/
def listedType : Pattern :=
  .some1 (fun c => isWord c || c == '.' || c == '<' || c == '>') ++ .gap ++ .lit "," ++ .gap

/-- types whose mention decides a role -/
def markers : List (Role × Pattern) :=
  [(.entryPoint, .wordEdge ++ .lit "extends" ++ .blank ++ .lit "HttpServlet" ++ .wordEdge),
    (.component, .wordEdge ++ .lit "implements" ++ .blank ++ .star listedType
      ++ .oneOf ["SessionBean", "EntityBean", "MessageDrivenBean"] ++ .wordEdge),
    (.dataAccess, .wordEdge ++ .lit "EntityManager" ++ .wordEdge)]

/-- words of a path that decide a role -/
def pathWords : List (Role × List String) :=
  [(.entryPoint, ["controller"]), (.component, ["service"]), (.dataAccess, ["repository", "dao"])]

/-- ends of file names that decide a role -/
def fileEndings : List (Role × List String) :=
  [(.entryPoint, ["Controller", "Resource", "Endpoint", "Servlet", "Action"]),
    (.component, ["Service", "ServiceImpl", "Manager", "Facade", "Bean"]),
    (.dataAccess, ["Repository", "RepositoryImpl", "Dao", "DaoImpl"])]

/-- the role of a source file; the path is read as it is written -/
def classify (path : FilePath) (normalized : String) : Role :=
  let written := lower path.text
  let stem := path.fileStem.getD ""
  let choice :=
    (annotations.find? fun r => (annotated r.2).occurs normalized).map (·.1)
    |>.or ((markers.find? fun r => r.2.occurs normalized).map (·.1))
    |>.or ((pathWords.find? fun r => r.2.any (contains written)).map (·.1))
    |>.or ((fileEndings.find? fun r => r.2.any (endsWith stem)).map (·.1))
  choice.getD .unclassified

end Role

end CodeSurvey
