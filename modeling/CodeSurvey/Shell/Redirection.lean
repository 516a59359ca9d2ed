/-
Streams that are led elsewhere.

Redirections are carried out one after another before a command runs, and taken back behind it. One that cannot be
carried out keeps the command from running.
-/
import CodeSurvey.Shell.Expansion

namespace CodeSurvey.Shell

open Text

namespace Redirection

/-- the stream that a path names -/
def streamOf? (name : String) : Option Nat :=
  match name with
  | "/dev/stdin" => some 0
  | "/dev/stdout" => some 1
  | "/dev/stderr" => some 2
  | _ => (stripStart name "/dev/fd/").bind Number.count?

/-- why a file could not be opened for reading -/
def openText (name : String) (fault : IoFault) : String :=
  "cannot open " ++ name ++ ": " ++ (if fault = .notFound then "No such file" else words fault)
where
  words : IoFault → String
    | .notDirectory => "Not a directory"
    | .isDirectory => "Is a directory"
    | .notExecutable => "Permission denied"
    | .alreadyExists => "File exists"
    | .nameTooLong => "File name too long"
    | fault => fault.message

/-- why a file could not be opened for writing -/
def createText (name : String) (fault : IoFault) : String :=
  "cannot create " ++ name ++ ": " ++ (if fault = .notFound then "Directory nonexistent" else openText.words fault)

/-- the run with a file open for reading -/
def openFile (r : Run) (stream : Nat) (name : String) : Except String Run :=
  match r.disk.entry (path name), r.disk.locate (path name) with
  | .ok _, .ok place =>
    let (files, channel) := r.files.openFile place false
    .ok ({ r with files := files }.lead stream (some channel))
  | .error fault, _ | _, .error fault => .error (openText name fault)

/-- the run with a file open for writing; what it holds is kept where `kept` says so -/
def createFile (r : Run) (stream : Nat) (name : String) (kept atEnd isNew : Bool) : Except String Run :=
  let before := r.disk.entry (path name)
  match before with
  | .ok .directory => .error (createText name .isDirectory)
  | _ =>
    let content := if kept then (before.toOption.bind Entry.content?).getD [] else []
    match if isNew && (before.toOption.map Entry.isFile) == some true then .error .alreadyExists
      else if name.isEmpty then .error .notFound
      else r.disk.write (path name) content with
    | .error fault => .error (createText name fault)
    | .ok d =>
      match d.reach (path name) with
      | .error fault => .error (createText name fault)
      | .ok place =>
        let (files, channel) := (r.withDisk d).files.openFile place atEnd
        .ok ({ r with files := files }.lead stream (some channel))

/-- the run with a stream that goes where another one goes -/
def join (r : Run) (stream : Nat) (text : String) : Except String Run :=
  if text == "-" then .ok (r.lead stream none)
  else
    match Number.count? text with
    | none => .error "Syntax error: Bad fd number"
    | some n =>
      match r.stream? n with
      | some channel => .ok (r.lead stream (some channel))
      | none => .error (text ++ ": Bad file descriptor")

/-- the run with a redirection to what its word stands for, or why there is none -/
def carryOut (r : Run) (redirect : Redirect) (text : String) : Except String Run :=
  let stream := redirect.stream
  match redirect.kind with
  | .document => .ok (r.openStream stream (.pipe (bytesOf text) []))
  | .join => join r stream text
  | kind =>
    match (streamOf? text).bind r.stream? with
    | some channel => .ok (r.lead stream (some channel))
    | none =>
      match kind with
      | .read => openFile r stream text
      | .write => createFile r stream text false false (r.has 'C')
      | .append => createFile r stream text true true false
      | .both => createFile r stream text true false false
      | _ => createFile r stream text false false false

/-- the run with all redirections, or with those up to one that could not be carried out, and why -/
def all (deeper : Deeper) : List Redirect → Run → Run × Option String
  | [], r => (r, none)
  | redirect :: rest, r =>
    let expand := if redirect.kind = .document then expandDocument else expandText
    let (r, text) := expand deeper redirect.target r
    if !r.goesOn then (r, none)
    else
      match carryOut r redirect text with
      | .ok r => all deeper rest r
      | .error reason => (r, some reason)

/-- the run whose streams are again as in another one, as far as redirections changed them -/
def takeBack (redirects : List Redirect) (before r : Run) : Run :=
  redirects.foldl (fun r redirect => r.lead redirect.stream (before.stream? redirect.stream)) r

end Redirection

/-- the run after commands with redirections; a redirection that fails ends the script where `special` says so -/
def Run.withStreams (deeper : Deeper) (redirects : List Redirect) (special : Bool) (commands : Run → Run) (r : Run) :
    Run :=
  if redirects.isEmpty then commands r
  else
    let back := Redirection.takeBack redirects r
    match Redirection.all deeper redirects r with
    | (r, none) => back (if r.goesOn then commands r else r)
    | (r, some reason) =>
      back (if special || startsWith reason "Syntax" then r.fail reason else (r.withStatus 2).blame reason)

end CodeSurvey.Shell
