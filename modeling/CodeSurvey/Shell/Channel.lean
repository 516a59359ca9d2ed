/-
Channels of running programs.

What a program reads comes from a channel, and what it writes goes to one: a file that was opened, with how far it was
used; a pipe; or nothing at all. Programs know channels by the numbers of their streams. Several streams may lead to one
channel, also those of different programs; they then share how far it was used.
-/
import CodeSurvey.Shell.ByteText

namespace CodeSurvey.Shell

open Text

/-- what can be read from or written to -/
inductive Channel where
  /-- always at its end, and keeps nothing -/
  | void
  /-- a file from some byte on; `atEnd` says that what is written goes behind all that it holds -/
  | file (place : Place) (offset : Nat) (atEnd : Bool)
  /-- what is left to be read, and what was written, last one first -/
  | pipe (rest : Bytes) (written : List Bytes)
  deriving DecidableEq, Repr

/-- a disk with the channels that were opened -/
structure OpenDisk where
  disk : Disk
  channels : Array Channel

namespace OpenDisk

/-- the disk with one channel more, and the number of that channel -/
def add (d : OpenDisk) (c : Channel) : OpenDisk × Nat := ({ d with channels := d.channels.push c }, d.channels.size)

def channel (d : OpenDisk) (n : Nat) : Channel := (d.channels[n]?).getD .void

def put (d : OpenDisk) (n : Nat) (c : Channel) : OpenDisk := { d with channels := d.channels.setIfInBounds n c }

/-- what a file holds -/
def content (d : OpenDisk) (place : Place) : Bytes := ((d.disk.tree.entryAt? place).bind Entry.content?).getD []

/-- what is left to be read -/
def remaining (d : OpenDisk) (n : Nat) : Bytes :=
  match d.channel n with
  | .void => []
  | .file place offset _ => (d.content place).drop offset
  | .pipe rest _ => rest

/-- the disk after so many bytes of a channel were read -/
def advance (d : OpenDisk) (n count : Nat) : OpenDisk :=
  match d.channel n with
  | .void => d
  | .file place offset atEnd => d.put n (.file place (offset + count) atEnd)
  | .pipe rest written => d.put n (.pipe (rest.drop count) written)

/-- the next line with its end, and the disk after it was read -/
def takeLine (d : OpenDisk) (n : Nat) : OpenDisk × Bytes :=
  let rest := d.remaining n
  let line := rest.take ((rest.takeWhile (· != 10)).length + 1)
  (d.advance n line.length, line)

/-- all that is left, and the disk after it was read -/
def takeAll (d : OpenDisk) (n : Nat) : OpenDisk × Bytes :=
  let rest := d.remaining n
  (d.advance n rest.length, rest)

/-- the bytes with others in their place from some byte on -/
def overwritten (before : Bytes) (offset : Nat) (content : Bytes) : Bytes :=
  if offset = before.length then before ++ content
  else
    before.take offset ++ List.replicate (offset - before.length) 0 ++ content ++ before.drop (offset + content.length)

/-- the disk after something was written to a channel; a file that is gone takes nothing -/
def write (d : OpenDisk) (n : Nat) (content : Bytes) : OpenDisk :=
  match d.channel n with
  | .void => d
  | .pipe rest written => d.put n (.pipe rest (content :: written))
  | .file place offset atEnd =>
    match d.disk.tree.entryAt? place with
    | some (.file before) =>
      let offset := if atEnd then before.length else offset
      let tree := d.disk.tree.put place (.file (overwritten before offset content))
      ({ d with disk := { d.disk with tree := tree } }).put n (.file place (offset + content.length) atEnd)
    | _ => d

/-- all that was written to a pipe -/
def written (d : OpenDisk) (n : Nat) : Bytes :=
  match d.channel n with
  | .pipe _ written => written.reverse.flatten
  | _ => []

/-- the disk where what was written to a pipe can be read -/
def turn (d : OpenDisk) (n : Nat) : OpenDisk := d.put n (.pipe (d.written n) [])

/-- the disk with the file open from its start, and the number of the channel -/
def openFile (d : OpenDisk) (place : Place) (atEnd : Bool) : OpenDisk × Nat :=
  match d.disk.tree.entryAt? place with
  | some .void => d.add .void
  | _ => d.add (.file place 0 atEnd)

end OpenDisk

end CodeSurvey.Shell
