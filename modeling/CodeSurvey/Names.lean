/-
Names of classes, variables and methods, and what they have in common.

Two names mean the same class approximately when they agree in their core: lower case, without the words that only say
which layer a class belongs to. `resolve` picks, among known classes in name order, one with the same core, else one
whose core contains the wanted core or is contained in it; `resolveType` takes a known class of that very name first.
`label` turns a method name into a readable verb and the rest of the name.
-/
import CodeSurvey.Ordered
import CodeSurvey.Text.Case
import CodeSurvey.Text.Words

namespace CodeSurvey.Names

open Text

/-- words that say which layer a class belongs to -/
def layerWords : List String := ["impl", "repository", "dao", "service"]

/-- the name in lower case without layer words -/
def core (name : String) : String :=
  layerWords.foldl (fun s w => replace s w "") (lower name)

/-- the last part of a dotted type name, without type arguments -/
def simpleType (declared : String) : String :=
  afterLast (trimmed (beforeFirst declared '<')) '.'

/-- one core contains the other -/
def coresOverlap (a b : String) : Bool := contains a b || contains b a

/-- the first class with the wanted core, else the first whose core overlaps it -/
def resolveCore (wanted : String) (classes : List String) : Option String :=
  (classes.find? fun c => core c == wanted).orElse fun _ =>
    classes.find? fun c => coresOverlap (core c) wanted

/-- the known class that a variable's name most likely refers to -/
def resolve (receiver : String) (known : NameSet) : Option String :=
  resolveCore (core receiver) known.toList

/-- the known class that a declared type refers to -/
def resolveType (declared : String) (known : NameSet) : Option String :=
  let simple := simpleType declared
  if known.contains simple then some simple else resolveCore (core simple) known.toList

theorem mem_of_resolveCore {wanted c : String} {classes : List String} (h : resolveCore wanted classes = some c) :
    c ∈ classes := by
  unfold resolveCore at h
  cases hsame : classes.find? fun c => core c == wanted with
  | some c' =>
    rw [hsame] at h
    exact Option.some.inj h ▸ List.mem_of_find?_eq_some hsame
  | none =>
    rw [hsame] at h
    exact List.mem_of_find?_eq_some h

/-- A name is resolved to a known class. -/
theorem mem_of_resolve {receiver c : String} {known : NameSet} (h : resolve receiver known = some c) :
    c ∈ known.toList :=
  mem_of_resolveCore h

/-- A type is resolved to a known class. -/
theorem mem_of_resolveType {declared c : String} {known : NameSet} (h : resolveType declared known = some c) :
    c ∈ known.toList := by
  simp only [resolveType] at h
  split at h
  · rename_i hc
    obtain rfl := Option.some.inj h
    exact (Ordered.contains_iff known _).1 hc
  · exact mem_of_resolveCore h

/-- leading verbs of method names, and how a label shows them -/
def verbs : List (String × String) :=
  [("get", "fetch"), ("find", "fetch"), ("fetch", "fetch"), ("retrieve", "fetch"), ("save", "save"),
    ("persist", "save"), ("load", "load"), ("add", "add"), ("create", "create"), ("update", "update"),
    ("delete", "remove"), ("list", "list")]

/-- the verb of names that start with none of the listed ones -/
def otherVerb : String := "execute"

/-- may start the part of a name after its verb -/
def startsPart (c : Char) : Bool := isUppercase c || isAsciiDigit c

/-- what follows the verb, when the name starts with it up to ASCII case -/
def afterVerb (verb : String) (name : List Char) : Option (List Char) :=
  let n := verb.length
  if (name.take n).map lowerAscii == verb.toList then some (name.drop n) else none

/-- a verb and the rest of a name -/
def withVerb (verb : String) : List Char → String
  | [] => verb
  | rest => verb ++ " " ++ String.ofList rest

/-- the label by one listed verb, if the name has it and a new part or nothing follows -/
def labelBy (name : List Char) (entry : String × String) : Option String :=
  match afterVerb entry.1 name with
  | some [] => some entry.2
  | some (c :: rest) => if startsPart c then some (withVerb entry.2 (c :: rest)) else none
  | none => none

/-- a readable label: a verb and the rest of the name -/
def label (method : String) : String :=
  let name := trim method.toList
  if name.isEmpty then otherVerb
  else
    (verbs.findSome? (labelBy name)).getD <|
      match name.drop 3 with
      | c :: rest => if isUppercase c then withVerb otherVerb (c :: rest) else String.ofList name
      | [] => String.ofList name

end CodeSurvey.Names
