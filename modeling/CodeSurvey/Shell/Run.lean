/-
The state of a running script.

A run changes a disk, uses channels and takes time; all programs that run share these. What one shell knows besides is
its `Scope`: variables, functions, streams and so on, of which a shell inside of it gets a copy. `Run` is the state
between two commands. Commands that run beside others are `Job`s: they wait until someone waits for them, or until
time goes by.
-/
import CodeSurvey.Shell.Channel
import CodeSurvey.Shell.Number
import CodeSurvey.Shell.Script

namespace CodeSurvey.Shell

open Text

/-- how a program ended -/
inductive Ending where
  | exited (status : Nat)
  | killed (signal : Nat)
  /-- its time was over -/
  | timedOut
  deriving DecidableEq, Repr

/-- the status that a shell shows for an ending -/
def Ending.status : Ending → Nat
  | .exited n => n
  | .killed n => 128 + n
  | .timedOut => 0

/-- how a run goes on -/
inductive Flow where
  | onward
  /-- out of so many loops; `again` goes on with the next round of the last one -/
  | leaving (loops : Nat) (again : Bool)
  | returning
  | ended (e : Ending)
  deriving DecidableEq, Repr

structure Variable where
  value : Option String
  /-- other programs see it -/
  exported : Bool
  /-- its value stays -/
  fixed : Bool
  deriving DecidableEq, Repr

def Variable.none : Variable := ⟨.none, false, false⟩

/-- what one shell knows -/
structure Scope where
  /-- the number of the process -/
  process : Nat
  /-- the number of the process that its script calls its own -/
  script : Nat
  /-- the number of the process that started the script -/
  parent : Nat
  /-- the processes that wait for this one -/
  above : List Nat
  name : String
  arguments : List String
  bindings : Ordered String Variable
  functions : Ordered String Command
  /-- the texts that words stand for, and the lines where that was said -/
  aliases : Ordered String (String × Nat)
  /-- the channels of streams -/
  streams : List (Nat × Nat)
  /-- letters of options that are on -/
  options : List Char
  /-- what is done on a signal, or at the end for signal 0 -/
  traps : List (Nat × String)
  /-- how many loops the commands stand in -/
  loops : Nat
  inFunction : Bool
  /-- what variables of a function were before it -/
  covered : List (String × Option Variable)
  /-- a failure of the commands is only looked at -/
  tested : Bool
  line : Nat
  /-- the process that was started last beside the commands -/
  lastJob : Option Nat
  /-- letters of the option word that were read -/
  optionAt : Nat
  /-- permissions that new files do not get -/
  mask : Nat

/-- commands that run beside others -/
structure Job where
  process : Nat
  /-- the shell that started it -/
  owner : Nat
  /-- when it started -/
  start : Nat
  place : Place
  commands : Command
  scope : Scope
  /-- how it ended, if it did -/
  ending : Option Ending

/-- a run between two commands -/
structure Run where
  files : OpenDisk
  scope : Scope
  status : Nat
  /-- the status of the script that a word held last -/
  heard : Nat
  flow : Flow
  /-- milliseconds gone by -/
  elapsed : Nat
  /-- milliseconds that may go by -/
  limit : Nat
  /-- how many processes there were -/
  processes : Nat
  jobs : List Job
  /-- signals on their way to processes -/
  signals : List (Nat × Nat)

/-- how a script is run inside a run -/
abbrev Deeper := Script → Run → Run

/-- what a program does with its arguments -/
abbrev Program := List String → Run → Run

namespace Run

def disk (r : Run) : Disk := r.files.disk

def withDisk (r : Run) (d : Disk) : Run := { r with files := { r.files with disk := d } }

/-- the run with the status of its last command -/
def withStatus (r : Run) (status : Nat) : Run := { r with status := status }

/-- the run that ended -/
def finish (r : Run) (e : Ending) : Run := { r with flow := .ended e }

/-- nothing keeps the next command from running -/
def goesOn (r : Run) : Bool := r.flow == .onward

/-- how the run ended, or would end here -/
def ending (r : Run) : Ending :=
  match r.flow with
  | .ended e => e
  | _ => .exited (r.status % 256)

/-- the option of the letter is on -/
def has (r : Run) (letter : Char) : Bool := r.scope.options.contains letter

/-! ## Streams -/

/-- the channel of a stream -/
def stream? (r : Run) (n : Nat) : Option Nat := r.scope.streams.lookup n

/-- the run that wrote to a stream; where it leads nowhere, its command failed -/
def say (r : Run) (stream : Nat) (content : Bytes) : Run :=
  match r.stream? stream with
  | some channel => if content.isEmpty then r else { r with files := r.files.write channel content }
  | none => if stream = 1 && !content.isEmpty then r.withStatus 1 else r

/-- the run that wrote a text to its output -/
def print (r : Run) (text : String) : Run := r.say 1 (bytesOf text)

/-- the run that wrote lines to its output -/
def printLines (r : Run) (lines : List String) : Run := r.print (String.join (lines.map (· ++ "\n")))

/-- the run that wrote a line about a mistake -/
def tell (r : Run) (text : String) : Run := r.say 2 (bytesOf (text ++ "\n"))

/-- the run that wrote what is wrong in a line of its script -/
def blame (r : Run) (text : String) : Run :=
  r.tell (r.scope.name ++ ": " ++ toString r.scope.line ++ ": " ++ text)

/-- the run after a mistake that no script survives -/
def fail (r : Run) (text : String) : Run := (r.blame text).finish (.exited 2)

/-- all that is left of a stream, and the run after it was read -/
def takeAll (r : Run) (stream : Nat) : Run × Bytes :=
  match r.stream? stream with
  | some channel => let (files, content) := r.files.takeAll channel; ({ r with files := files }, content)
  | none => (r, [])

/-- the next line of a stream with its end, and the run after it was read -/
def takeLine (r : Run) (stream : Nat) : Run × Bytes :=
  match r.stream? stream with
  | some channel => let (files, line) := r.files.takeLine channel; ({ r with files := files }, line)
  | none => (r, [])

/-- the run that has not read the last bytes that it took from a file -/
def putBack (r : Run) (stream count : Nat) : Run :=
  match r.stream? stream with
  | some channel =>
    match r.files.channel channel with
    | .file place offset atEnd => { r with files := r.files.put channel (.file place (offset - count) atEnd) }
    | _ => r
  | none => r

/-- the run with a stream that leads to a channel, or to none -/
def lead (r : Run) (stream : Nat) (channel : Option Nat) : Run :=
  let others := r.scope.streams.filter (·.1 != stream)
  { r with scope := { r.scope with streams := (channel.map (stream, ·)).toList ++ others } }

/-- the run with a stream that leads to a new channel -/
def openStream (r : Run) (stream : Nat) (c : Channel) : Run :=
  let (files, channel) := r.files.add c
  { r with files := files }.lead stream (some channel)

/-! ## Variables -/

/-- the variable of a name -/
def known (r : Run) (name : String) : Variable := (r.scope.bindings.get? name).getD Variable.none

/-- the run with other variables -/
def withVariables (r : Run) (bindings : Ordered String Variable) : Run :=
  { r with scope := { r.scope with bindings := bindings } }

/-- the run with a variable as given -/
def setVariable (r : Run) (name : String) (v : Variable) : Run := r.withVariables (r.scope.bindings.insert name v)

/-- the run without a variable -/
def dropVariable (r : Run) (name : String) : Run := r.withVariables (r.scope.bindings.filter fun n _ => n != name)

/-- the run with the value of a variable that may be changed -/
def put (r : Run) (name value : String) : Run :=
  let v := r.known name
  let r := if name == "OPTIND" then { r with scope := { r.scope with optionAt := 0 } } else r
  r.setVariable name { v with value := some value, exported := v.exported || r.has 'a' }

/-- what is said about a variable whose value stays -/
def fixedText (name : String) : String := name ++ ": is read only"

/-- the run in which a variable has a value -/
def assign (r : Run) (name value : String) : Run :=
  if (r.known name).fixed then r.fail (fixedText name) else r.put name value

/-- the value of a variable -/
def value? (r : Run) (name : String) : Option String := (r.known name).value

/-- the value of a variable, or what stands for it -/
def valueOr (r : Run) (name other : String) : String := (r.value? name).getD other

/-- letters of options in the order in which they are shown -/
def optionLetters : List Char := ['e', 'f', 'I', 'i', 'm', 'n', 's', 'x', 'v', 'V', 'E', 'C', 'a', 'b', 'u']

/-- the value of a parameter that is one text -/
def parameter? (r : Run) (name : String) : Option String :=
  match name with
  | "#" => some (toString r.scope.arguments.length)
  | "?" => some (toString r.status)
  | "$" => some (toString r.scope.script)
  | "!" => r.scope.lastJob.map fun n => toString n
  | "-" => some (String.ofList (optionLetters.filter r.has))
  | name =>
    match Number.count? name with
    | some 0 => some r.scope.name
    | some (n + 1) => r.scope.arguments[n]?
    | none => r.value? name

/-- what other programs see -/
def environment (r : Run) : Ordered String Variable := r.scope.bindings.filter fun _ v => v.exported && v.value.isSome

/-! ## Processes -/

/-- the run after some milliseconds -/
def pass (r : Run) (time : Nat) : Run :=
  let r := { r with elapsed := r.elapsed + time }
  if r.elapsed ≥ r.limit then r.finish .timedOut else r

/-- the run in a process of its own, which starts with what is known here -/
def fork (r : Run) : Run :=
  let n := r.processes + 1
  let traps := r.scope.traps.filter fun (signal, action) => signal != 0 && action.isEmpty
  { r with processes := n, scope := { r.scope with process := n, above := r.scope.process :: r.scope.above, traps := traps }
           flow := .onward }

/-- a run after another one that could change only the disk, the channels and the time -/
def absorb (r inner : Run) : Run :=
  { inner with
    files := { inner.files with disk := { inner.files.disk with here := r.disk.here } }
    scope := r.scope
    status := inner.ending.status
    heard := r.heard
    flow := if inner.ending = .timedOut then .ended .timedOut else r.flow
    limit := r.limit }

/-- the run that sends a signal to a process -/
def post (r : Run) (process signal : Nat) : Run :=
  if r.jobs.any fun j => j.process = process && j.ending.isNone then
    { r with jobs := r.jobs.map fun j =>
        if j.process = process && j.ending.isNone then { j with ending := some (.killed signal) } else j }
  else { r with signals := r.signals ++ [(process, signal)] }

/-- the first run of a program on a disk -/
def new (d : Disk) (limit : Nat) (name : String) (arguments : List String) : Run :=
  let shown := fun (name value : String) => (name, Variable.mk (some value) true false)
  let search := joined ":" (d.programs.map shownPlace)
  let home := (d.home.map fun p => shown "HOME" (ofLetters p.text)).toList
  { files := ⟨d, #[.void, .pipe [] [], .pipe [] []]⟩
    scope :=
      { process := 1, script := 1, parent := 0, above := [], name := name, arguments := arguments
        bindings := Ordered.ofList (home ++ [shown "PATH" search, shown "TMPDIR" (shownPlace d.temp)])
        functions := Ordered.empty, aliases := Ordered.empty, streams := [(0, 0), (1, 1), (2, 2)], options := []
        traps := [], loops := 0, inFunction := false, covered := [], tested := false, line := 1, lastJob := none
        optionAt := 0, mask := 18 }
    status := 0, heard := 0, flow := .onward, elapsed := 0, limit := limit, processes := 1, jobs := [], signals := [] }

end Run

end CodeSurvey.Shell
