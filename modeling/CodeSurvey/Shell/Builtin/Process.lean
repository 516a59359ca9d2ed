/-
What a shell does with its process and with others.

The working directory, the signals that a shell waits for and sends, the commands that run beside it, and the words that
stand for texts.
-/
import CodeSurvey.Shell.Builtin.Variables
import CodeSurvey.Shell.Program.Files

namespace CodeSurvey.Shell.Builtin

open Text

/-! ## The working directory -/

/-- the place as it is known to the disk -/
def hereText (r : Run) : String := shownPlace r.disk.here

/-- the run with another working directory -/
def moveTo (r : Run) (place : Place) : Run :=
  let before := r.valueOr "PWD" (hereText r)
  let r := r.withDisk { r.disk with here := place }
  let shown := fun (value : String) => Variable.mk (some value) true false
  (r.setVariable "OLDPWD" (shown before)).setVariable "PWD" (shown (shownPlace place))

def cd : Program := fun args r =>
  let (letters, names) := takeOptions args
  match letters.find? fun c => c != 'L' && c != 'P' with
  | some c => refuse r "cd" (illegalOption c)
  | none =>
    let back := names.head? == some "-"
    let target := match names with
      | [] => r.valueOr "HOME" ""
      | name :: _ => if back then r.valueOr "OLDPWD" (hereText r) else name
    if target.isEmpty then r.withStatus 0
    else
      let place := r.disk.target (path target)
      let fits := (r.disk.tree.requireDirectory place).toOption.isSome
        && (Disk.requirePath (path target).text).toOption.isSome
      if fits then
        let r := (moveTo r place).withStatus 0
        if back then r.printLines [shownPlace place] else r
      else refuse r "cd" ("can\x27t cd to " ++ target)

def pwd : Program := fun args r =>
  let (letters, _) := takeOptions args
  match letters.find? fun c => c != 'L' && c != 'P' with
  | some c => refuse r "pwd" (illegalOption c)
  | none => (r.withStatus 0).printLines [hereText r]

/-! ## Limits -/

/-- three letters of permissions that are there -/
def permissionLetters (bits : Nat) : String :=
  (if bits / 4 % 2 = 1 then "r" else "") ++ (if bits / 2 % 2 = 1 then "w" else "") ++ (if bits % 2 = 1 then "x" else "")

/-- a number in eighths with four digits -/
def eighths (n : Nat) : String :=
  let digits := String.ofList (Nat.toDigits 8 n)
  String.ofList (List.replicate (4 - digits.length) '0') ++ digits

def umask : Program := fun args r =>
  let (letters, names) := takeOptions args
  match letters.find? (· != 'S') with
  | some c => refuse r "umask" (illegalOption c)
  | none =>
    match names with
    | [] =>
      let kept := 511 - r.scope.mask
      (r.withStatus 0).printLines [if letters.contains 'S' then
        "u=" ++ permissionLetters (kept / 64) ++ ",g=" ++ permissionLetters (kept / 8 % 8) ++ ",o=" ++
          permissionLetters (kept % 8) else eighths r.scope.mask]
    | text :: _ =>
      let cs := text.toList
      if (cs.head?.map isAsciiDigit) == some true then
        if cs.all fun c => '0' ≤ c && c ≤ '7' then
          { r.withStatus 0 with scope := { r.scope with mask := Number.ofDigits 8 cs % 512 } }
        else refuse r "umask" ("Illegal number: " ++ text)
      else if (Files.runnable? text).isSome then r.withStatus 0
      else refuse r "umask" ("Illegal mode: " ++ text)

def ulimit : Program := fun args r =>
  let (letters, names) := takeOptions args
  let known := ['H', 'S', 'a', 't', 'f', 'd', 's', 'c', 'm', 'l', 'p', 'n', 'v', 'w', 'r']
  match letters.find? fun c => !known.contains c with
  | some c => refuse r "ulimit" (illegalOption c)
  | none => if names.isEmpty then (r.withStatus 0).printLines ["unlimited"] else r.withStatus 0

/-! ## Signals and jobs -/

/-- shows what is done on signals, or sets it -/
def trap : Program := fun args r =>
  let args := if args.head? == some "--" then args.drop 1 else args
  let r := r.withStatus 0
  let name := fun (n : Nat) => if n = 0 then "EXIT" else (Signal.name? n).getD (toString n)
  match args with
  | [] =>
    let traps := r.scope.traps.mergeSort fun a b => decide (a.1 ≤ b.1)
    r.printLines (traps.map fun (n, action) => "trap -- " ++ quoted action ++ " " ++ name n)
  | first :: rest =>
    let onlyNames := rest.isEmpty || (Number.count? first).isSome
    let action := if onlyNames || first == "-" then none else some first
    (if onlyNames then args else rest).foldl (fun r text =>
      match Signal.number? text with
      | none => (r.tell ("trap: " ++ text ++ ": bad trap")).withStatus 1
      | some n =>
        let others := r.scope.traps.filter (·.1 != n)
        { r with scope := { r.scope with traps := (action.map (n, ·)).toList ++ others } }) r

/-- the process that an argument names -/
def process? (r : Run) (text : String) : Option Nat :=
  match stripStart text "%" with
  | some job =>
    let mine := r.jobs.filter fun j => j.owner = r.scope.process
    match Number.count? job with
    | some n => (mine[n - 1]?).map (·.process)
    | none => (mine.getLast?).map (·.process)
  | none => Number.count? text

/-- the usage of the command that sends signals -/
def killUsage : String :=
  "Usage: kill [-s sigspec | -signum | -sigspec] [pid | job]... or\nkill -l [exitstatus]"

/-- sends a signal to processes -/
def send (signal : Nat) (names : List String) (r : Run) : Run :=
  names.foldl (fun r text =>
    match process? r text with
    | some n =>
      if n = r.scope.process || r.scope.above.contains n || r.jobs.any fun j => j.process = n then
        if signal = 0 then r else r.post n signal
      else (refuse r "kill" "No such process\n").withStatus 1
    | none => if startsWith text "-" then r else refuse r "kill" ("Illegal number: " ++ text)) (r.withStatus 0)

def kill : Program := fun args r =>
  match args with
  | ["-l"] => (r.withStatus 0).printLines ("0" :: Signal.names.map (·.1))
  | "-l" :: text :: _ =>
    match Number.count? text with
    | none => refuse r "kill" ("Illegal number: " ++ text)
    | some n =>
      match Signal.name? (if 128 < n then n - 128 else n) with
      | some name => (r.withStatus 0).printLines [name]
      | none => refuse r "kill" ("invalid signal number or exit status: " ++ text)
  | "-s" :: name :: names =>
    match Signal.number? name with
    | none => refuse r "kill" ("invalid signal number or name: " ++ name)
    | some signal => if names.isEmpty then refuse r "kill" killUsage else send signal names r
  | ["-s"] => refuse r "kill" "No arg for -s option"
  | first :: names =>
    if first == "--" then if names.isEmpty then refuse r "kill" killUsage else send 15 names r
    else
      match stripStart first "-" with
      | some name =>
        match Signal.number? name with
        | none => refuse r "kill" ("Illegal option -" ++ String.ofList (name.toList.take 1))
        | some signal =>
          let names := if names.head? == some "--" then names.drop 1 else names
          if names.isEmpty then refuse r "kill" killUsage else send signal names r
      | none => send 15 args r
  | [] => refuse r "kill" killUsage

/-- waits for jobs, all of them or some -/
def wait (deeper : Deeper) : Program := fun args r =>
  let (letters, names) := takeOptions args
  match letters with
  | c :: _ => refuse r "wait" (illegalOption c)
  | [] =>
    if names.isEmpty then (r.awaitJobs deeper (fun j => j.owner = r.scope.process) Run.jobsAtOnce).withStatus 0
    else
      names.foldl (fun r text =>
        if !r.goesOn then r
        else
          match process? r text with
          | none =>
            if startsWith text "%" then refuse r "wait" ("No such job: " ++ text)
            else refuse r "wait" ("Illegal number: " ++ text)
          | some n =>
            if !r.jobs.any fun j => j.process = n && j.owner = r.scope.process then r.withStatus 127
            else
              let r := r.awaitJobs deeper (fun j => j.process = n) 1
              let ending := (r.jobs.find? (·.process = n)).bind Job.ending
              r.withStatus ((ending.map Ending.status).getD 0)) r

/-- shows the jobs that are not over -/
def jobs (deeper : Deeper) : Program := fun _ r =>
  let r := (r.settleJobs deeper).withStatus 0
  let open' := (r.jobs.filter fun j => j.owner = r.scope.process).zipIdx.filter fun (j, _) => j.isOpen
  let last := open'.length
  r.printLines (open'.zipIdx.reverse.map fun ((_, n), i) =>
    let mark := if i + 1 = last then "+" else if i + 2 = last then "-" else " "
    "[" ++ toString (n + 1) ++ "] " ++ mark ++ " Running                    ")

/-! ## Words that stand for texts -/

/-- what is said about a word that stands for a text -/
def aliasLine (name text : String) : String := name ++ "=" ++ quoted text

def aliasing : Program := fun args r =>
  let r := r.withStatus 0
  if args.isEmpty then r.printLines (r.scope.aliases.entries.map fun (name, text, _) => aliasLine name text)
  else
    args.foldl (fun r arg =>
      let (name, value) := setting arg
      match value with
      | some text => { r with scope := { r.scope with aliases := r.scope.aliases.insert name (text, r.scope.line) } }
      | none =>
        match r.scope.aliases.get? name with
        | some (text, _) => r.printLines [aliasLine name text]
        | none => (r.tell ("alias: " ++ name ++ " not found")).withStatus 1) r

def unalias : Program := fun args r =>
  let (letters, names) := takeOptions args
  match letters.find? (· != 'a') with
  | some c => refuse r "unalias" (illegalOption c)
  | none =>
    if letters.contains 'a' then { r.withStatus 0 with scope := { r.scope with aliases := Ordered.empty } }
    else
      names.foldl (fun r name =>
        if r.scope.aliases.contains name then
          { r with scope := { r.scope with aliases := r.scope.aliases.filter fun n _ => n != name } }
        else (r.tell ("unalias: " ++ name ++ " not found")).withStatus 1) (r.withStatus 0)

/-! ## The course of a script -/

/-- the run that leaves loops; outside of them nothing happens -/
def leave (again : Bool) : Program := fun args r =>
  let name := if again then "continue" else "break"
  let text := args.headD "1"
  match Number.count? text with
  | some (n + 1) =>
    if r.scope.loops = 0 then r.withStatus 0
    else { r.withStatus 0 with flow := .leaving (min (n + 1) r.scope.loops) again }
  | _ => failIn r name ("Illegal number: " ++ text)

/-- the run that ends with a status -/
def exit : Program := fun args r =>
  match args.head?.map fun text => (text, Number.count? text) with
  | none => r.finish (.exited (r.status % 256))
  | some (_, some n) => r.finish (.exited (n % 256))
  | some (text, none) => failIn r "exit" ("Illegal number: " ++ text)

/-- the run that comes back from a function or a script that was read in -/
def comeBack : Program := fun args r =>
  match args.head?.map fun text => (text, Number.count? text) with
  | none => { r with flow := .returning }
  | some (_, some n) => { r with flow := .returning, status := n }
  | some (text, none) => failIn r "return" ("Illegal number: " ++ text)

end CodeSurvey.Shell.Builtin
