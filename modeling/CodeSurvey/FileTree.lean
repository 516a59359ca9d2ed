/-
A tree of files and directories, as a value.

A place in the tree is the list of names from the top. The entries stand in the order of their places, which is the
order of a walk that visits a directory before what it holds and the names of a directory in order. `Disk` adds what a
path needs to be read: the working directory, and the places that programs know without a path. Reading never changes
a disk; writing gives a new one or a fault. For each operation a lemma says when it succeeds and with what
(`locate_ok_iff`, `entry_ok_iff`, `write_ok_iff` and so on).
-/
import CodeSurvey.Error
import CodeSurvey.Ordered
import CodeSurvey.Text.Utf8

namespace CodeSurvey

open Text

/-- names from the top of the tree -/
abbrev Place := List String

/-- what stands at a place -/
inductive Entry where
  | directory
  | file (content : Bytes)
  /-- what is always empty and keeps nothing that is written to it -/
  | void
  deriving DecidableEq, Repr

def Entry.isFile : Entry → Bool
  | .file _ => true
  | _ => false

def Entry.isDirectory : Entry → Bool
  | .directory => true
  | _ => false

/-- what reading the entry gives; a directory cannot be read -/
def Entry.content? : Entry → Option Bytes
  | .directory => none
  | .file content => some content
  | .void => some []

/-- files and directories; the top is a directory and is not listed -/
structure FileTree where
  entries : Ordered Place Entry

namespace FileTree

def empty : FileTree := ⟨Ordered.empty⟩

/-- what every tree holds that programs run in -/
def standard : FileTree := ⟨(Ordered.empty.insert ["dev"] .directory).insert ["dev", "null"] .void⟩

/-- what stands at the place -/
def entryAt? (t : FileTree) (place : Place) : Option Entry :=
  if place = [] then some .directory else t.entries.get? place

/-- the place holds a directory, else why not -/
def requireDirectory (t : FileTree) (place : Place) : Except IoFault Unit :=
  match t.entryAt? place with
  | some .directory => .ok ()
  | some _ => .error .notDirectory
  | none => .error .notFound

/-- bytes that one name may have -/
def nameLimit : Nat := 255

/-- the name can stand in a directory -/
def requireFit (name : String) : Except IoFault Unit :=
  if name.utf8ByteSize ≤ nameLimit then .ok () else .error .nameTooLong

def put (t : FileTree) (place : Place) (e : Entry) : FileTree := ⟨t.entries.insert place e⟩

/-- the tree without the place and what is below it -/
def cut (t : FileTree) (place : Place) : FileTree :=
  ⟨t.entries.filter fun p _ => !place.isPrefixOf p⟩

/-- what stands below the place, each with its names from there, in walk order -/
def below (t : FileTree) (place : Place) : List (List String × Entry) :=
  t.entries.entries.filterMap fun (p, e) =>
    if place.isPrefixOf p && p.length != place.length then some (p.drop place.length, e) else none

/-- the tree with the directory and those above it -/
def makeDirectories (t : FileTree) (place : Place) : Except IoFault FileTree :=
  (List.range place.length).foldlM (fun t n =>
    match t.entryAt? (place.take (n + 1)) with
    | some .directory => .ok t
    | some _ => .error (if n + 1 = place.length then .alreadyExists else .notDirectory)
    | none => (requireFit (place.getD n "")).map fun _ => t.put (place.take (n + 1)) .directory) t

/-- the tree with the file, whose directory must be there -/
def writeFile (t : FileTree) (place : Place) (content : Bytes) : Except IoFault FileTree := do
  if place = [] then .error .isDirectory
  t.requireDirectory place.dropLast
  match t.entryAt? place with
  | some .directory => .error .isDirectory
  | some .void => .ok t
  | _ => .ok (t.put place (.file content))

end FileTree

/-- a file tree, and where programs look in it -/
structure Disk where
  tree : FileTree
  /-- the working directory -/
  here : Place
  home : Option FilePath
  /-- directories searched for programs -/
  programs : List Place
  /-- the directory of temporary files -/
  temp : Place
  /-- files that may be run as programs -/
  executable : List Place

namespace Disk

/-- one step along a path -/
def step (d : Disk) (place : Place) : Component → Except IoFault Place
  | .root => .ok []
  | .here => .ok place
  | .up => (d.tree.requireDirectory place).map fun _ => place.dropLast
  | .name s => do
    d.tree.requireDirectory place
    FileTree.requireFit s
    .ok (place ++ [s])

/-- bytes that a path must stay below -/
def pathLimit : Nat := 4096

/-- the text can be a path -/
def requirePath (text : String) : Except IoFault Unit :=
  if text.toList.contains '\x00' then .error .nulInName
  else if text.isEmpty then .error .notFound
  else if text.utf8ByteSize < pathLimit then .ok ()
  else .error .nameTooLong

/-- the place that a path leads to from the working directory, whatever its last slash asks for -/
def reach (d : Disk) (p : FilePath) : Except IoFault Place := do
  requirePath p.text
  p.components.foldlM d.step d.here

/-- the place that a path leads to from the working directory; only the last step need not be there -/
def locate (d : Disk) (p : FilePath) : Except IoFault Place := do
  let place ← d.reach p
  if p.endsOpen then d.tree.requireDirectory place
  .ok place

/-- what the path leads to -/
def entry (d : Disk) (p : FilePath) : Except IoFault Entry := do
  let place ← d.locate p
  match d.tree.entryAt? place with
  | some e => .ok e
  | none => .error .notFound

def exists? (d : Disk) (p : FilePath) : Bool := (d.entry p).toBool

def isFile (d : Disk) (p : FilePath) : Bool :=
  match d.entry p with
  | .ok e => e.isFile
  | .error _ => false

def isDirectory (d : Disk) (p : FilePath) : Bool :=
  match d.entry p with
  | .ok e => e.isDirectory
  | .error _ => false

/-- the content of a file -/
def readBytes (d : Disk) (p : FilePath) : Except IoFault Bytes := do
  match (← d.entry p).content? with
  | some content => .ok content
  | none => .error .isDirectory

/-- the content of a file that must be UTF-8 -/
def readText (d : Disk) (p : FilePath) : Except IoFault String := do
  match decode? (← d.readBytes p) with
  | some s => .ok s
  | none => .error .notUtf8

/-- the disk with the file; a path that ends in a slash can only mean a directory -/
def write (d : Disk) (p : FilePath) (content : Bytes) : Except IoFault Disk := do
  let place ← d.reach p
  if p.names.isEmpty && endsWith p.head "/" then .error .isDirectory
  let place ← if p.endsOpen then d.locate p else .ok place
  .ok { d with tree := ← d.tree.writeFile place content }

/-- the place of a path whose directories may be missing -/
def target (d : Disk) (p : FilePath) : Place :=
  p.components.foldl (fun place c =>
    match c with
    | .root => []
    | .here => place
    | .up => place.dropLast
    | .name s => place ++ [s]) d.here

def makeDirectories (d : Disk) (p : FilePath) : Except IoFault Disk := do
  if p.text.isEmpty then .ok d
  else
    requirePath p.text
    .ok { d with tree := ← d.tree.makeDirectories (d.target p) }

def remove (d : Disk) (p : FilePath) : Except IoFault Disk := do
  let place ← d.locate p
  match d.tree.entryAt? place with
  | some .directory => .error .isDirectory
  | some _ => .ok { d with tree := d.tree.cut place }
  | none => .error .notFound

/-! ## Walks -/

/-- an entry met on a walk: its names below the start of the walk, none for the start itself -/
structure Item where
  names : List String
  entry : Entry
  deriving DecidableEq

def Item.depth (i : Item) : Nat := i.names.length

/-- the name of the entry; the start has the last name of its path -/
def Item.name (i : Item) (start : FilePath) : String :=
  (i.names.getLast?).getD (start.fileName.getD start.text)

/-- the path of the entry -/
def Item.path (i : Item) (start : FilePath) : FilePath := start.descend i.names

/-- the start and everything below it, in walk order; nothing where the start is missing -/
def walk (d : Disk) (start : FilePath) : List Item :=
  match d.locate start with
  | .error _ => []
  | .ok place =>
    match d.tree.entryAt? place with
    | none => []
    | some e => ⟨[], e⟩ :: (d.tree.below place).map fun (names, e) => ⟨names, e⟩

/-- the walk down to a depth -/
def walkTo (d : Disk) (depth : Nat) (start : FilePath) : List Item :=
  (d.walk start).filter (·.depth ≤ depth)

/-- the walk without the entries that are passed over, and without what is below them -/
def pruned (skip : Item → Bool) (items : List Item) : List Item :=
  let skipped := (items.filter skip).map (·.names)
  items.filter fun i => !skipped.any (·.isPrefixOf i.names)

end Disk

/-! ## Where operations succeed -/

namespace FileTree

variable {t t' : FileTree} {place : Place}

theorem requireDirectory_ok_iff : t.requireDirectory place = .ok () ↔ t.entryAt? place = some .directory := by
  unfold requireDirectory
  split <;> simp_all

/-- A file is written below a directory, where no directory stands. -/
theorem writeFile_ok_iff {content : Bytes} : t.writeFile place content = .ok t' ↔
    place ≠ [] ∧ t.requireDirectory place.dropLast = .ok () ∧ t.entryAt? place ≠ some .directory ∧
      (if t.entryAt? place = some .void then t else t.put place (.file content)) = t' := by
  unfold writeFile
  by_cases hplace : place = []
  · simp [hplace, bind, Except.bind]
  · simp only [hplace, if_false, then_ok_iff, ne_eq, not_false_eq_true, true_and]
    cases hentry : t.entryAt? place with
    | none => simp
    | some e => cases e <;> simp

end FileTree

namespace Disk

variable {d d' : Disk} {p : FilePath} {place : Place}

theorem reach_ok_iff : d.reach p = .ok place ↔
    requirePath p.text = .ok () ∧ p.components.foldlM d.step d.here = .ok place :=
  then_ok_iff

theorem locate_ok_iff : d.locate p = .ok place ↔
    d.reach p = .ok place ∧ (p.endsOpen = true → d.tree.requireDirectory place = .ok ()) := by
  unfold locate
  rw [bind_ok_iff]
  by_cases hopen : p.endsOpen = true
  · simp only [hopen, if_true, then_ok_iff, true_implies, Except.ok.injEq]
    constructor
    · rintro ⟨_, hreach, hdirectory, rfl⟩
      exact ⟨hreach, hdirectory⟩
    · rintro ⟨hreach, hdirectory⟩
      exact ⟨place, hreach, hdirectory, rfl⟩
  · simp [hopen]

theorem entry_ok_iff {e : Entry} : d.entry p = .ok e ↔
    ∃ place, d.locate p = .ok place ∧ d.tree.entryAt? place = some e := by
  unfold entry
  rw [bind_ok_iff]
  refine exists_congr fun place => and_congr_right fun _ => ?_
  split <;> simp_all

theorem isDirectory_iff_entry : d.isDirectory p = true ↔ d.entry p = .ok .directory := by
  unfold isDirectory
  cases d.entry p with
  | error fault => simp
  | ok e => cases e <;> simp [Entry.isDirectory]

theorem readText_ok_iff {text : String} : d.readText p = .ok text ↔
    ∃ e content, d.entry p = .ok e ∧ e.content? = some content ∧ decode? content = some text := by
  have hbytes : ∀ content, d.readBytes p = .ok content ↔ ∃ e, d.entry p = .ok e ∧ e.content? = some content := by
    intro content
    unfold readBytes
    rw [bind_ok_iff]
    refine exists_congr fun e => and_congr_right fun _ => ?_
    split <;> simp_all
  have htext : d.readText p = .ok text ↔ ∃ content, d.readBytes p = .ok content ∧ decode? content = some text := by
    unfold readText
    rw [bind_ok_iff]
    refine exists_congr fun content => and_congr_right fun _ => ?_
    split <;> simp_all
  simp only [htext, hbytes]
  constructor
  · rintro ⟨content, ⟨e, hentry, hcontent⟩, hdecoded⟩
    exact ⟨e, content, hentry, hcontent, hdecoded⟩
  · rintro ⟨e, content, hentry, hcontent, hdecoded⟩
    exact ⟨content, ⟨e, hentry, hcontent⟩, hdecoded⟩

/-- A file is written where its path leads, unless the path can only mean a directory. -/
theorem write_ok_iff {content : Bytes} : d.write p content = .ok d' ↔
    (p.names.isEmpty && endsWith p.head "/") = false ∧ ∃ place t, d.locate p = .ok place ∧
      d.tree.writeFile place content = .ok t ∧ { d with tree := t } = d' := by
  unfold write
  rw [bind_ok_iff]
  by_cases hhead : (p.names.isEmpty && endsWith p.head "/") = true
  · simp [hhead, bind, Except.bind]
  have hplain : (p.names.isEmpty && endsWith p.head "/") = false := Bool.eq_false_iff.2 hhead
  by_cases hopen : p.endsOpen = true
  · simp only [hplain, hopen, if_true, Bool.false_eq_true, if_false, bind_ok_iff, Except.ok.injEq, true_and]
    constructor
    · rintro ⟨_, -, place, hlocate, t, hwritten, rfl⟩
      exact ⟨place, t, hlocate, hwritten, rfl⟩
    · rintro ⟨place, t, hlocate, hwritten, rfl⟩
      exact ⟨place, (locate_ok_iff.1 hlocate).1, place, hlocate, t, hwritten, rfl⟩
  · have hlocate : ∀ place, d.locate p = .ok place ↔ d.reach p = .ok place := by
      simp [locate_ok_iff, hopen]
    simp only [hplain, hopen, Bool.false_eq_true, if_false, bind_ok_iff, Except.ok.injEq, true_and, hlocate,
      exists_eq_left', exists_and_left]

theorem remove_ok_iff : d.remove p = .ok d' ↔ ∃ place e, d.locate p = .ok place ∧
    d.tree.entryAt? place = some e ∧ e ≠ .directory ∧ { d with tree := d.tree.cut place } = d' := by
  unfold remove
  rw [bind_ok_iff]
  refine exists_congr fun place => ?_
  cases hentry : d.tree.entryAt? place with
  | none => simp
  | some e => cases e <;> simp

end Disk

end CodeSurvey
