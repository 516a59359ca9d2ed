/-
Which known class a field holds.

A field gets its class from its declared type: by an annotation that asks for injection, by a constructor that assigns a
parameter to it, or by a plain private or protected declaration, in this order. The first declaration whose type is
resolved counts, so a declaration of an unknown type neither records nor blocks the name.
-/
import CodeSurvey.Names
import CodeSurvey.Pattern.Search

namespace CodeSurvey

open Text

/-- the class that each field or variable holds -/
abbrev InjectionMap := Ordered String String

namespace Injection

/-- a dotted type name with type arguments -/
def declaredType : Pattern :=
  .some1 (fun c => isWord c || c == '.')
    ++ .opt (.lit "<" ++ .span true (Pattern.except ";=") ++ .lit ">")

/-- an argument list without parentheses in it -/
def arguments : Pattern := .gap ++ .lit "(" ++ .any0 (Pattern.except ")") ++ .lit ")"

/-- an annotation, with or without arguments -/
def annotationUse : Pattern := .lit "@" ++ .word ++ .opt arguments

/-- a field declared under an injection annotation: group 1 its type, group 2 its name -/
def annotatedField : Pattern :=
  .lit "@" ++ .oneOf ["Autowired", "Inject", "EJB", "Resource", "PersistenceContext"] ++ .opt arguments ++ .blank
    ++ .star (annotationUse ++ .blank)
    ++ .star (.oneOf ["private", "protected", "public", "final", "static", "transient"] ++ .blank)
    ++ .group 1 declaredType ++ .blank ++ .group 2 .word ++ .gap ++ .lit ";"

/-- a field assigned in a constructor: group 1 the field, group 2 the value -/
def assignment : Pattern :=
  .wordEdge ++ .lit "this." ++ .group 1 .word ++ .gap ++ .lit "=" ++ .gap ++ .group 2 .word ++ .gap ++ .lit ";"

/-- a private or protected field: group 1 its type, group 2 its name -/
def plainField : Pattern :=
  .wordEdge ++ .oneOf ["private", "protected"] ++ .blank ++ .opt (.lit "final" ++ .blank)
    ++ .group 1 declaredType ++ .blank ++ .group 2 .word ++ .gap ++ .lit ";"

/-- the head of a constructor of the class: group 1 its parameters -/
def constructorHead (name : String) : Pattern :=
  .opt (.wordEdge ++ .oneOf ["public", "protected", "private"] ++ .blank)
    ++ .wordEdge ++ .lit name ++ .gap ++ .lit "(" ++ .group 1 (.any0 (Pattern.except ")")) ++ .lit ")" ++ .gap
    ++ .opt (.lit "throws" ++ .blank ++ .some1 (fun c => isWord c || c == '.' || c == ',' || isBlank c))
    ++ .lit "\x7b"

/-- innermost type arguments -/
def typeArguments : Pattern := .lit "<" ++ .any0 (Pattern.except "<>") ++ .lit ">"

/-- the text without type arguments, removed from the inside out at most `n` times -/
def dropTypeArguments : Nat → String → String
  | 0, s => s
  | n + 1, s => if typeArguments.occurs s then dropTypeArguments n (typeArguments.replaceAll (fun _ => "") s) else s

/-- the name and the declared type of one parameter: its last two words -/
def parameter? (param : List Char) : Option (String × String) :=
  match ((words param).filter (· != "final".toList)).reverse with
  | name :: type :: _ => some (String.ofList name, String.ofList type)
  | _ => none

/-- the parameters that a parameter list declares; annotations and type arguments do not count -/
def parameters (list : String) : List (String × String) :=
  let plain := annotationUse.replaceAll (fun _ => "") list
  let raw := dropTypeArguments plain.length plain
  (splitBy (· == ',') raw.toList).filterMap parameter?

/-- the declared type of every constructor parameter; of two with one name the first counts -/
def constructorParameters (text name : String) : Ordered String String :=
  (((constructorHead name).findAll text).flatMap fun m => parameters (m.group 1)).foldl
    (fun t p => t.insertNew p.1 p.2) Ordered.empty

/-- the fields that constructors assign, each with the declared type of its parameter, in text order -/
def constructorAssignments (text name : String) : List (String × String) :=
  let declared := constructorParameters text name
  (assignment.findAll text).filterMap fun m => (declared.get? (m.group 2)).map fun type => (m.group 1, type)

/-- the declarations of fields in the order in which they count -/
def declarations (text : String) (className : Option String) : List (String × String) :=
  (annotatedField.findAll text).map (fun m => (m.group 2, m.group 1))
    ++ (className.map (constructorAssignments text)).getD []
    ++ (plainField.findAll text).map fun m => (m.group 2, m.group 1)

/-- the map with one declaration more: it counts if the name is new and its type is known -/
def record (known : NameSet) (map : InjectionMap) (d : String × String) : InjectionMap :=
  if map.contains d.1 then map
  else
    match Names.resolveType d.2 known with
    | some target => map.insert d.1 target
    | none => map

/-- the class of each field in the normalized text of a class -/
def resolve (text : String) (className : Option String) (known : NameSet) : InjectionMap :=
  (declarations text className).foldl (record known) Ordered.empty

/-- every value of the map is a known class -/
def Within (known : NameSet) (map : InjectionMap) : Prop := ∀ x c, map.get? x = some c → c ∈ known.toList

theorem within_record {known : NameSet} {map : InjectionMap} (h : Within known map) (d : String × String) :
    Within known (record known map d) := by
  intro x c hx
  unfold record at hx
  split at hx
  · exact h x c hx
  · split at hx
    · rename_i target ht
      rw [Ordered.get?_insert] at hx
      split at hx
      · exact Option.some.inj hx ▸ Names.mem_of_resolveType ht
      · exact h x c hx
    · exact h x c hx

theorem within_foldl_record {known : NameSet} (ds : List (String × String)) {map : InjectionMap}
    (h : Within known map) : Within known (ds.foldl (record known) map) := by
  induction ds generalizing map with
  | nil => exact h
  | cons d ds ih => exact ih (within_record h d)

/-- Every value of a file's injection map is a known class. -/
theorem within_resolve (text : String) (className : Option String) (known : NameSet) :
    Within known (resolve text className known) :=
  within_foldl_record _ fun _ _ h => by simp [Ordered.get?, Ordered.empty] at h

end Injection

end CodeSurvey
