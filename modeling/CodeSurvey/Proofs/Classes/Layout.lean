/-
The head of a class file as it is written.

A `Layout` is a class file up to its interfaces, with anything behind them: four bytes of version, the pool's count, the
entries of the pool, then the numbers of the class, its superclass and its interfaces. `render` writes it. The first
entry has number 1, and a long or a double takes two numbers, so the number of an entry is one more than the entries
before it use up (`Numbered`). Entries go on until the numbers used reach the count; the last one may run one over.

`Names` says which header a layout stands for: every number of a class is that of a class entry, whose own number is
that of a name entry. How the bytes of a name stand for a text is a parameter of it, since a reader takes any bytes and
a writer writes UTF-8.
-/
import Mathlib.Data.List.Forall2
import CodeSurvey.Classes.ClassFile

namespace CodeSurvey.ClassFile

open Text

/-- a number in two bytes, the high one first -/
def twoBytes (n : UInt16) : Bytes := [UInt8.ofNat (n.toNat / 256), UInt8.ofNat (n.toNat % 256)]

/-- the constants that no name needs -/
inductive ValueKind where
  | int
  | float
  | long
  | double
  | string
  | field
  | method
  | interfaceMethod
  | nameAndType
  | methodHandle
  | methodType
  | dynamic
  | invokeDynamic
  | moduleName
  | packageName
  deriving DecidableEq, Repr

namespace ValueKind

/-- the byte that announces the constant -/
def tag : ValueKind → UInt8
  | int => 3
  | float => 4
  | long => 5
  | double => 6
  | string => 8
  | field => 9
  | method => 10
  | interfaceMethod => 11
  | nameAndType => 12
  | methodHandle => 15
  | methodType => 16
  | dynamic => 17
  | invokeDynamic => 18
  | moduleName => 19
  | packageName => 20

/-- how many bytes follow -/
def size : ValueKind → Nat
  | long | double => 8
  | string | methodType | moduleName | packageName => 2
  | methodHandle => 3
  | _ => 4

/-- how many numbers the constant takes -/
def width : ValueKind → Nat
  | long | double => 2
  | _ => 1

end ValueKind

/-- an entry of the constant pool -/
inductive Entry where
  /-- the bytes of a name, behind their length -/
  | name (bytes : Bytes) (fits : bytes.length < 65536)
  /-- a class, by the number of its name -/
  | classAt (number : UInt16)
  | value (kind : ValueKind) (payload : Bytes) (sized : payload.length = kind.size)

namespace Entry

/-- the byte that announces the entry -/
def tag : Entry → UInt8
  | name _ _ => 1
  | classAt _ => 7
  | value kind _ _ => kind.tag

/-- the bytes behind the tag -/
def content : Entry → Bytes
  | name bs _ => twoBytes (UInt16.ofNat bs.length) ++ bs
  | classAt n => twoBytes n
  | value _ payload _ => payload

def bytes (e : Entry) : Bytes := e.tag :: e.content

/-- how many numbers the entry takes -/
def width : Entry → Nat
  | value kind _ _ => kind.width
  | _ => 1

end Entry

/-- how many numbers entries take -/
def used : List Entry → Nat
  | [] => 0
  | e :: es => e.width + used es

/-- the entry has the number among the entries -/
def Numbered (entries : List Entry) (number : Nat) (e : Entry) : Prop :=
  ∃ before after, entries = before ++ e :: after ∧ number = used before + 1

/-- the entries take `n` numbers, the last of them perhaps one more, and none is more than are needed -/
structure Fills (n : Nat) (entries : List Entry) : Prop where
  enough : n ≤ used entries
  needed : ∀ before e after, entries = before ++ e :: after → used before < n

/-- the number is that of a class whose name's bytes stand for the text -/
def Leads (entries : List Entry) (written : Bytes → String → Prop) (number : UInt16) (s : String) : Prop :=
  ∃ target bs fits, Numbered entries number.toNat (.classAt target) ∧ Numbered entries target.toNat (.name bs fits) ∧
    written bs s

/-- a class file up to its interfaces, and what stands behind them -/
structure Layout where
  version : Bytes
  /-- one more than the numbers that the pool has -/
  count : UInt16
  entries : List Entry
  flags : UInt16
  this : UInt16
  /-- the number of the superclass, 0 for none -/
  above : UInt16
  interfaces : List UInt16
  rest : Bytes
  version_length : version.length = 4
  fills : Fills (count.toNat - 1) entries
  interfaces_fit : interfaces.length < 65536

namespace Layout

/-- the bytes up to the interfaces -/
def head (l : Layout) : Bytes :=
  [0xCA, 0xFE, 0xBA, 0xBE] ++ (l.version ++ ((twoBytes l.count ++ l.entries.flatMap Entry.bytes) ++
    (twoBytes l.flags ++ (twoBytes l.this ++ (twoBytes l.above ++
      (twoBytes (UInt16.ofNat l.interfaces.length) ++ l.interfaces.flatMap twoBytes))))))

/-- the bytes of the file -/
def render (l : Layout) : Bytes := l.head ++ l.rest

/-- the layout stands for the header -/
structure Names (l : Layout) (written : Bytes → String → Prop) (h : ClassHeader) : Prop where
  flags : h.flags = l.flags
  name : Leads l.entries written l.this h.name
  superclass : match h.superclass with
    | none => l.above = 0
    | some s => l.above ≠ 0 ∧ Leads l.entries written l.above s
  interfaces : List.Forall₂ (Leads l.entries written) l.interfaces h.interfaces

end Layout

end CodeSurvey.ClassFile
