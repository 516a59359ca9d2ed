/-
The head of a compiled class.

A class file starts with a magic number, four bytes of version and a pool of numbered constants; then come the flags,
the class, its superclass and its interfaces. `decode` reads that far and no further, so nothing behind the interfaces
can change its answer. A class is named by the number of a class constant, which holds the number of a name; a long or
a double takes two numbers, of which the second names nothing.
-/
import CodeSurvey.Text.Letter
import CodeSurvey.Text.Utf8
import CodeSurvey.Text.Words

namespace CodeSurvey

open Text

/-- what the head of a class file says; names have slashes between packages -/
structure ClassHeader where
  flags : UInt16
  name : String
  /-- only the class above all others has none -/
  superclass : Option String
  /-- in file order -/
  interfaces : List String
  deriving DecidableEq, Repr

namespace ClassHeader

def isInterface (h : ClassHeader) : Bool := h.flags &&& 0x0200 != 0

def isAnnotation (h : ClassHeader) : Bool := h.flags &&& 0x2000 != 0

/-- made by the compiler -/
def isSynthetic (h : ClassHeader) : Bool := h.flags &&& 0x1000 != 0

/-- a class without a name of its own: it is numbered within the class around it -/
def isAnonymous (h : ClassHeader) : Bool :=
  let number := afterLast h.name '$'
  h.name.toList.contains '$' && !number.isEmpty && number.toList.all isAsciiDigit

/-- a class that a reader of the source would name -/
def isStandard (h : ClassHeader) : Bool :=
  !h.isInterface && !h.isAnnotation && !h.isSynthetic && !h.isAnonymous

end ClassHeader

namespace ClassFile

/-- why bytes are no class file -/
inductive Fault where
  /-- the bytes end where the ones from `position` were needed -/
  | truncated (position : Nat)
  | badMagic (magic : Nat)
  | unknownTag (tag number : Nat)
  | notAClass (number : Nat)
  | notAName (number : Nat)
  deriving DecidableEq, Repr

/-- a number in at least eight hexadecimal digits -/
def hexText (n : Nat) : String :=
  let digits := (Nat.toDigits 16 n).map Char.toUpper
  String.ofList (List.replicate (8 - digits.length) '0' ++ digits)

def Fault.message : Fault → String
  | truncated position => "class file truncated at byte " ++ toString position
  | badMagic magic => "bad magic 0x" ++ hexText magic
  | unknownTag tag number => "unknown constant pool tag " ++ toString tag ++ " at entry " ++ toString number
  | notAClass number => "constant " ++ toString number ++ " is not a class reference"
  | notAName number => "constant " ++ toString number ++ " is not a UTF-8 name"

/-- the bytes not yet read, and how many were read before them -/
structure ByteCursor where
  position : Nat
  rest : Bytes
  deriving DecidableEq, Repr

/-- reads something from the front of the bytes -/
abbrev Step (α : Type) : Type := ByteCursor → Except Fault (α × ByteCursor)

/-- the next `n` bytes -/
def take (n : Nat) : Step Bytes := fun c =>
  if (c.rest.take n).length = n then .ok (c.rest.take n, ⟨c.position + n, c.rest.drop n⟩)
  else .error (.truncated c.position)

/-- the number that bytes write, the highest first -/
def bigEndian (bytes : Bytes) : Nat := bytes.foldl (fun n b => n * 256 + b.toNat) 0

/-- a number of `n` bytes -/
def readNumber (n : Nat) : Step Nat := fun c => do
  let (bytes, c) ← take n c
  .ok (bigEndian bytes, c)

/-- an entry of the pool -/
inductive Constant where
  | name (s : String)
  /-- a class, by the number of its name -/
  | classAt (number : Nat)
  /-- a value that no name needs -/
  | value
  /-- a value that takes two numbers -/
  | wideValue
  /-- a number that names nothing -/
  | unusable
  deriving DecidableEq, Repr

/-- how many bytes follow the tag of a constant that no name needs, and whether it takes two numbers -/
def payload? (tag : Nat) : Option (Nat × Bool) :=
  if [3, 4, 9, 10, 11, 12, 17, 18].contains tag then some (4, false)
  else if [5, 6].contains tag then some (8, true)
  else if [8, 16, 19, 20].contains tag then some (2, false)
  else if tag = 15 then some (3, false)
  else none

/-- the constant with the given number -/
def readConstant (number : Nat) : Step Constant := fun c => do
  let (tag, c) ← readNumber 1 c
  if tag = 1 then
    let (length, c) ← readNumber 2 c
    let (bytes, c) ← take length c
    .ok (.name (decodeLossy bytes), c)
  else if tag = 7 then
    let (target, c) ← readNumber 2 c
    .ok (.classAt target, c)
  else
    match payload? tag with
    | some (length, wide) =>
      let (_, c) ← take length c
      .ok (if wide then .wideValue else .value, c)
    | none => .error (.unknownTag tag number)

/-- the constants of the numbers from the given one on, so many of them; `second` says that the first number belongs
to a wide value before it -/
def readConstants (number : Nat) (second : Bool) : Nat → Step (List Constant)
  | 0, c => .ok ([], c)
  | n + 1, c =>
    if second then do
      let (constants, c) ← readConstants (number + 1) false n c
      .ok (.unusable :: constants, c)
    else do
      let (constant, c) ← readConstant number c
      let (constants, c) ← readConstants (number + 1) (constant == .wideValue) n c
      .ok (constant :: constants, c)

/-- the constants by number; number 0 names nothing -/
def readPool : Step (List Constant) := fun c => do
  let (count, c) ← readNumber 2 c
  let (constants, c) ← readConstants 1 false (count - 1) c
  .ok (.unusable :: constants, c)

/-- the name of the class with the number -/
def className (pool : List Constant) (number : Nat) : Except Fault String :=
  match pool[number]? with
  | some (.classAt target) =>
    match pool[target]? with
    | some (.name s) => .ok s
    | _ => .error (.notAName target)
  | _ => .error (.notAClass number)

/-- the names of the next `n` classes -/
def readClassNames (pool : List Constant) : Nat → Step (List String)
  | 0, c => .ok ([], c)
  | n + 1, c => do
    let (number, c) ← readNumber 2 c
    let name ← className pool number
    let (names, c) ← readClassNames pool n c
    .ok (name :: names, c)

/-- first four bytes of every class file -/
def magicNumber : Nat := 0xCAFEBABE

/-- the head of a class file -/
def readHeader : Step ClassHeader := fun c => do
  let (magic, c) ← readNumber 4 c
  if magic ≠ magicNumber then .error (.badMagic magic)
  let (_, c) ← take 4 c
  let (pool, c) ← readPool c
  let (flags, c) ← readNumber 2 c
  let (this, c) ← readNumber 2 c
  let name ← className pool this
  let (above, c) ← readNumber 2 c
  let superclass ← if above = 0 then .ok none else (className pool above).map some
  let (count, c) ← readNumber 2 c
  let (interfaces, c) ← readClassNames pool count c
  .ok (⟨UInt16.ofNat flags, name, superclass, interfaces⟩, c)

/-- the head of the class that the bytes hold -/
def decode (bytes : Bytes) : Except Fault ClassHeader :=
  (readHeader ⟨0, bytes⟩).map (·.1)

end ClassFile

end CodeSurvey
