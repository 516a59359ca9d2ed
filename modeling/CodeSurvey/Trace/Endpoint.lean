/-
The operations of an entry point.

An operation is a method under a mapping annotation; a class without any offers its public instance methods that have
a body. Of several methods with one name the first is taken. An operation's payload is the type of the parameter that
holds the request's body, its fields those that the payload's source file declares, and its response is the declared
type without annotations, modifiers and the response wrapper.
-/
import CodeSurvey.Source.Files
import CodeSurvey.Source.Methods
import CodeSurvey.Trace.Injection
import CodeSurvey.Trace.Sequence

namespace CodeSurvey.Endpoint

open Text

/-- an annotation that maps a request to a method -/
def mapping : Pattern :=
  Role.annotated ["GetMapping", "PostMapping", "PutMapping", "DeleteMapping", "PatchMapping", "RequestMapping", "GET",
    "POST", "PUT", "DELETE", "PATCH"]

/-- the parameter that holds the request's body: group 1 its type -/
def requestBody : Pattern :=
  .lit "@RequestBody" ++ .wordEdge ++ .opt Injection.arguments ++ .blank
    ++ .star (Injection.annotationUse ++ .blank) ++ .opt (.lit "final" ++ .blank)
    ++ .group 1 (.some1 (fun c => isWord c || c == '.')
      ++ .opt (.lit "<" ++ .span true (Pattern.except "()") ++ .lit ">"))
    ++ .blank ++ .word

/-- the status that an annotation gives the response: group 1 -/
def responseStatus : Pattern :=
  .lit "@ResponseStatus" ++ .gap ++ .lit "(" ++ .gap
    ++ .opt (.oneOf ["code", "value"] ++ .gap ++ .lit "=" ++ .gap) ++ .opt (.lit "HttpStatus.") ++ .group 1 .word

/-- modifiers and type parameters at the start of a header -/
def leadingModifiers : Pattern :=
  .star (.oneOf ["public", "protected", "private", "static", "final", "synchronized", "abstract", "default", "native"]
      ++ .blank)
    ++ .opt (.lit "<" ++ .any0 (Pattern.except ">") ++ .lit ">" ++ .gap)

/-- a field of a payload: group 1 its type, group 2 its name -/
def payloadField : Pattern :=
  .wordEdge ++ .oneOf ["private", "protected", "public"] ++ .blank ++ .opt (.lit "final" ++ .blank)
    ++ .group 1 (Injection.declaredType ++ .star (.lit "[]")) ++ .blank ++ .group 2 .word ++ .gap ++ .lit ";"

/-- the text behind the leading modifiers -/
def dropModifiers (header : String) : String :=
  match leadingModifiers.matchHere none header.toList with
  | some m => String.ofList (header.toList.drop m.text.length)
  | none => header

/-- a response type without its wrapper -/
def unwrap (declared : String) : String :=
  (((stripStart declared "ResponseEntity<").bind fun inner => stripEnd inner ">").map trimmed).getD declared

/-- the type that a method answers with; none where it answers with nothing -/
def responseType (header : String) : Option String :=
  let plain := trimmed (Injection.annotationUse.replaceAll (fun _ => " ") header)
  let type := unwrap (trimmed (dropModifiers plain))
  if ["", "void", "Void", "?"].contains type then none else some type

/-- the name of a payload's source file without its ending -/
def payloadName (payload : String) : String := afterLast (beforeFirst payload '<') '.'

/-- the fields in the text of a payload's source file -/
def fieldsOf (normalized : String) : List String :=
  (payloadField.findAll normalized).map fun m => m.group 2 ++ ": " ++ m.group 1

/-- the fields of a payload; none where its source is missing or cannot be read -/
def payloadFields (sources : Sources) (payload : String) : List String :=
  match sources.fileOfType (payloadName payload) with
  | none => []
  | some file =>
    match sources.read file with
    | .ok text => fieldsOf text
    | .error _ => []

/-- the operation of a method -/
def describe (sources : Sources) (m : Source.Method) : Operation where
  name := m.name
  requestType := (requestBody.find? m.params).map (·.group 1)
  requestFields := (((requestBody.find? m.params).map (·.group 1)).map (payloadFields sources)).getD []
  responseType := responseType m.header
  responseStatus := (responseStatus.find? m.header).map (·.group 1)

/-- the method is offered where no method is mapped -/
def isOffered (className : String) (m : Source.Method) : Bool :=
  m.body.isSome && m.isPublic && !m.isStatic && m.name != className

/-- the first method of each name -/
def firstOfName (ms : List Source.Method) : List Source.Method :=
  ms.foldl (fun kept m => if kept.any (·.name == m.name) then kept else kept ++ [m]) []

/-- the methods that are operations of the class, in order -/
def selected (className : String) (ms : List Source.Method) : List Source.Method :=
  let mapped := ms.filter fun m => mapping.occurs m.header
  firstOfName (if mapped.isEmpty then ms.filter (isOffered className) else mapped)

/-- the operations of a class -/
def operations (sources : Sources) (className : String) (ms : List Source.Method) : List Operation :=
  (selected className ms).map (describe sources)

end CodeSurvey.Endpoint
