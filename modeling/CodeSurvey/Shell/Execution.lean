/-
Running command scripts.

`Command.run` carries out a command, `execute` a script. Scripts hold scripts: functions, what stands behind a dollar
sign, other programs. Each of these uses up one level of the depth that a run has, and every loop has a last round, so
that all runs end; a loop that would go on runs until its time is over. `start` runs a program on a disk.
-/
import CodeSurvey.Shell.Builtin.Process
import CodeSurvey.Shell.Program.System
import CodeSurvey.Shell.Redirection

namespace CodeSurvey.Shell

open Text

/-! ## Programs on the disk -/

/-- the file may be run -/
def mayRun (d : Disk) (place : Place) : Bool :=
  match d.tree.entryAt? place with
  | some (.file _) => d.executable.contains place
  | _ => false

/-- the first of the program directories that holds a file of the name which may be run -/
def findProgram (d : Disk) (name : String) : Option FilePath :=
  ((d.programs.map fun place => place ++ [name]).find? (mayRun d)).map fun place => .ofText (placeText place)

/-- what a name of a program leads to -/
inductive Target where
  | system (name shown : String)
  | file (p : FilePath) (shown : String)
  /-- a file that may not be run; by its path, or met on a search -/
  | denied (byPath : Bool)
  | missing
  deriving DecidableEq, Repr

/-- what a path of a program leads to -/
def targetAt (d : Disk) (text : String) : Target :=
  match System.nameAt? text with
  | some name => .system name text
  | none =>
    match d.locate (path text), d.entry (path text) with
    | .ok place, .ok _ => if mayRun d place then .file (path text) text else .denied true
    | _, _ => .missing

/-- the paths of a name in the directories of a search, which stand between colons -/
def searchPaths (search name : String) : List String :=
  (split search ':').map fun directory => Files.inDirectory (if directory.isEmpty then "." else directory) name

/-- what the name of a program leads to -/
def Run.target (r : Run) (name : String) : Target :=
  if contains name "/" then targetAt r.disk name
  else
    let found := (searchPaths (r.valueOr "PATH" "") name).map (targetAt r.disk)
    let runs := fun (t : Target) => match t with
      | .system _ _ | .file _ _ => true
      | _ => false
    if name.isEmpty then .denied false
    else
      match found.find? runs with
      | some t => t
      | none => if found.contains (.denied true) then .denied false else .missing

/-- the first line of a script that names the program which reads it, cut where the system cuts it -/
def readerLine? (content : Bytes) : Option String :=
  match content with
  | 35 :: 33 :: rest => some (textOf ((rest.takeWhile (· != 10)).take 253))
  | _ => none

/-- the program that reads a script, and the argument that it gets -/
def reader? (line : String) : Option (String × List String) :=
  let isGap := fun (c : Char) => c == ' ' || c == '\t'
  let cs := ((line.toList.dropWhile isGap).reverse.dropWhile isGap).reverse
  let program := cs.takeWhile fun c => !isGap c
  let argument := (cs.drop program.length).dropWhile isGap
  if program.isEmpty then none
  else some (String.ofList program, if argument.isEmpty then [] else [String.ofList argument])

/-! ## Scripts as programs -/

/-- how a shell is asked to run a script -/
structure Request where
  options : List Char
  name : String
  arguments : List String
  text : String

/-- what the arguments of a shell ask for -/
structure Asked where
  options : List Char
  /-- the first operand is the script -/
  inline : Bool
  operands : List String

/-- what arguments ask for, or what is wrong with them -/
def Asked.read (a : Asked) : List String → Except String Asked
  | [] => .ok a
  | first :: rest =>
    let on := startsWith first "-"
    if first == "--" || first == "-" then .ok { a with operands := rest }
    else if on || startsWith first "+" then
      let letters := first.toList.drop 1
      match letters.find? fun c => !Run.optionLetters.contains c && c != 'c' && c != 'o' && c != 'l' && c != 'p' with
      | some c => .error ("Illegal option " ++ String.ofList (first.toList.take 1) ++ String.singleton c)
      | none =>
        let set := letters.filter Run.optionLetters.contains
        let a := { a with
          options := set.foldl (fun options c => Builtin.withOption options on c) a.options
          inline := a.inline || letters.contains 'c' }
        if letters.contains 'o' then
          match rest with
          | [] => .ok a
          | name :: rest =>
            match Builtin.optionNames.lookup name with
            | some letter =>
              Asked.read { a with options := (letter.map (Builtin.withOption a.options on)).getD a.options } rest
            | none => .error ("Illegal option " ++ String.ofList (first.toList.take 1) ++ "o " ++ name)
        else Asked.read a rest
    else .ok { a with operands := first :: rest }

/-- the run and what the arguments of a shell ask for, or what is wrong with them -/
def Request.read (r : Run) (shell : String) (args : List String) : Run × Except String Request :=
  match Asked.read ⟨[], false, []⟩ args with
  | .error text => (r, .error text)
  | .ok a =>
    match a.inline, a.operands with
    | true, [] => (r, .error "-c requires an argument")
    | true, text :: rest => (r, .ok ⟨a.options, rest.headD shell, rest.drop 1, text⟩)
    | false, operands =>
      if a.options.contains 's' || operands.isEmpty then
        let (r, content) := r.takeAll 0
        (r, .ok ⟨a.options, shell, operands, textOf content⟩)
      else
        let name := operands.headD ""
        let ask := fun (text : String) => Except.ok ⟨a.options, name, operands.drop 1, text⟩
        match r.disk.readBytes (path name) with
        | .ok content => (r, ask (textOf content))
        | .error .isDirectory => (r, ask "")
        | .error fault => (r, .error (Redirection.openText name fault))

/-- the run of a script as a program of its own, up to its end -/
def runRequest (deeper : Deeper) (q : Request) (r : Run) : Run :=
  let place := Variable.mk (some (shownPlace r.disk.here)) (r.known "PWD").exported false
  let own := fun (value : String) => Variable.mk (some value) false false
  let known := (r.environment.filter fun name _ => name != "IFS").map fun v => { v with fixed := false }
  let bindings := (((known.insert "IFS" (own " \t\n")).insert "OPTIND" (own "1")).insert "PWD" place).insert "PPID"
    (own (toString (r.scope.above.headD 0)))
  let scope : Scope :=
    { process := r.scope.process, script := r.scope.process, parent := r.scope.above.headD 0, above := r.scope.above
      name := q.name, arguments := q.arguments, bindings := bindings, functions := Ordered.empty
      aliases := Ordered.empty, streams := r.scope.streams, options := q.options
      traps := r.scope.traps.filter fun (signal, action) => signal != 0 && action.isEmpty
      loops := 0, inFunction := false, covered := [], tested := false, line := 1, lastJob := none, optionAt := 0
      mask := r.scope.mask }
  let inner := { r with scope := scope, status := 0, heard := 0, flow := .onward }
  let s := Script.read q.text
  if q.options.contains 'n' then (if s.readable then inner else inner.fail "Syntax error").conclude deeper
  else (deeper s inner).conclude deeper

/-- the run of a shell with arguments -/
def runShell (deeper : Deeper) (shell : String) : Program := fun args r =>
  match Request.read r shell args with
  | (r, .ok q) => runRequest deeper q r
  | (r, .error text) => (r.tell (shell ++ ": 0: " ++ text)).finish (.exited 2)

/-- why a program could not be run -/
inductive Refusal where
  | missing
  | denied (byPath : Bool)
  | noReader
  /-- the file does not say what reads it -/
  | noFormat (shown : String) (content : Bytes)

/-- how often a reader of scripts may be a script itself -/
def readerDepth : Nat := 4

/-- the run of a program that was found, in its own process; it is called `name` -/
def runAt (deeper : Deeper) (launch : Launch) (depth : Nat) (name : String) (t : Target) (args : List String) (r : Run) :
    Except Refusal Run :=
  match t with
  | .missing => .error .missing
  | .denied byPath => .error (.denied byPath)
  | .system program _ =>
    if System.shells.contains program then .ok (runShell deeper name args r)
    else
      match System.program? launch (fun text => (System.nameAt? text).isSome) program with
      | some program => .ok (program args r)
      | none => .ok (which args r)
  | .file p shown =>
    match r.disk.readBytes p with
    | .error _ => .error .missing
    | .ok content =>
      match (readerLine? content).map reader?, depth with
      | none, _ | some none, _ => .error (.noFormat shown content)
      | some (some _), 0 => .error .noReader
      | some (some (program, argument)), depth + 1 =>
        match runAt deeper launch depth program (targetAt r.disk program) (argument ++ shown :: args) r with
        | .error .missing => .error .noReader
        | other => other
where
  /-- writes where programs lie -/
  which (args : List String) (r : Run) : Run :=
    let names := args.filter fun a => !startsWith a "-"
    names.foldl (fun r name =>
      match r.target name with
      | .system _ shown | .file _ shown => r.printLines [shown]
      | _ => r.withStatus 1) (r.withStatus (if names.isEmpty then 1 else 0))

/-- the run after another program; its end does not end the run -/
def Run.asProgram (program : Run → Run) (r : Run) : Run :=
  let inner := program r.fork
  let after := r.absorb inner
  match inner.ending with
  | .killed n => if (Signal.farewell n).isEmpty then after else after.tell (Signal.farewell n)
  | _ => after

/-- the run after a program that is no part of the shell -/
def runProgram (deeper : Deeper) (launch : Launch) (name : String) (args : List String) (r : Run) : Run :=
  let r := r.settleJobs deeper
  let inner := r.fork
  let run := fun (found : Run) => (r.asProgram fun _ => found)
  match runAt deeper launch readerDepth name (r.target name) args inner with
  | .ok found => run found
  | .error .missing | .error .noReader => (r.blame (name ++ ": not found")).withStatus 127
  | .error (.denied byPath) =>
    (r.blame (name ++ ": Permission denied")).withStatus (if byPath then 126 else 127)
  | .error (.noFormat shown content) => run (runRequest deeper ⟨[], shown, args, textOf content⟩ inner)

/-- runs programs for programs that run others; so deep they may do so -/
def launchTo (deeper : Deeper) (depth : Nat) : Launch := fun name args r =>
  match depth with
  | 0 => r.withStatus 126
  | depth + 1 => runProgram deeper (launchTo deeper depth) name args r

/-- how deep programs may run others -/
def launchDepth : Nat := 8

/-! ## What a shell does itself -/

/-- the run after a script that it reads in -/
def source (deeper : Deeper) : Program := fun args r =>
  let args := if args.head? == some "--" then args.drop 1 else args
  match args with
  | [] => Builtin.failIn r "." "usage: . filename"
  | name :: _ =>
    let paths := if contains name "/" then [name] else searchPaths (r.valueOr "PATH" "") name
    match paths.findSome? fun p => (r.disk.readBytes (path p)).toOption with
    | some content =>
      let after := deeper (Script.read (textOf content)) (r.withStatus 0)
      { after with
        flow := if after.flow == .returning then .onward else after.flow
        scope := { after.scope with line := r.scope.line } }
    | none =>
      if contains name "/" then Builtin.failIn r "." (Redirection.openText name .notFound)
      else Builtin.failIn r "." (name ++ ": not found")

/-- the commands that a shell carries out itself and whose mistakes end it -/
def special? (deeper : Deeper) (name : String) : Option Program :=
  match name with
  | ":" => some (System.status 0)
  | "exit" => some Builtin.exit
  | "return" => some Builtin.comeBack
  | "break" => some (Builtin.leave false)
  | "continue" => some (Builtin.leave true)
  | "export" => some Builtin.exportNames
  | "readonly" => some Builtin.fixNames
  | "local" => some Builtin.cover
  | "unset" => some Builtin.unset
  | "set" => some Builtin.set
  | "shift" => some Builtin.shift
  | "trap" => some Builtin.trap
  | "times" => some fun _ r => (r.withStatus 0).printLines ["0m0.00s 0m0.00s", "0m0.00s 0m0.00s"]
  | "eval" => some fun args r =>
    if args.isEmpty then r.withStatus 0
    else
      let after := deeper (Script.readFrom r.scope.line (joined " " args)) (r.withStatus 0)
      { after with scope := { after.scope with line := r.scope.line } }
  | "." => some (source deeper)
  | _ => none

/-- other commands that a shell carries out itself -/
def builtIn? (deeper : Deeper) (name : String) : Option Program :=
  match name with
  | "cd" | "chdir" => some Builtin.cd
  | "pwd" => some Builtin.pwd
  | "echo" => some Formatted.echo
  | "printf" => some (Formatted.printf true)
  | "test" => some (Conditions.test (fun text => (System.nameAt? text).isSome) false)
  | "[" => some (Conditions.test (fun text => (System.nameAt? text).isSome) true)
  | "true" => some (System.status 0)
  | "false" => some (System.status 1)
  | "read" => some Builtin.read
  | "getopts" => some Builtin.getopts
  | "kill" => some Builtin.kill
  | "wait" => some (Builtin.wait deeper)
  | "jobs" => some (Builtin.jobs deeper)
  | "umask" => some Builtin.umask
  | "ulimit" => some Builtin.ulimit
  | "alias" => some Builtin.aliasing
  | "unalias" => some Builtin.unalias
  | "bg" | "fg" => some fun _ r => Builtin.refuse r name "No current job"
  | _ => none

/-- commands that run others -/
def outerNames : List String := ["command", "exec", "type", "hash"]

/-- the name is one of a special command -/
def isSpecial (deeper : Deeper) (name : String) : Bool := (special? deeper name).isSome || name == "exec"

/-- what a name means to a shell -/
inductive Meaning where
  | aliased (text : String)
  | keyword
  | function
  | special
  | builtIn
  | program (shown : String)
  | unknown
  deriving DecidableEq, Repr

/-- what a name means -/
def Run.meaning (deeper : Deeper) (r : Run) (name : String) : Meaning :=
  if keywords.contains name then .keyword
  else
    match r.scope.aliases.get? name with
    | some (text, _) => .aliased text
    | none =>
      if isSpecial deeper name then .special
      else if r.scope.functions.contains name then .function
      else if (builtIn? deeper name).isSome || outerNames.contains name then .builtIn
      else
        match r.target name with
        | .system _ shown | .file _ shown => .program shown
        | _ => .unknown

/-- the run that wrote what a name means in words -/
def describe (deeper : Deeper) (r : Run) (name : String) : Run :=
  let put := fun (text : String) => r.printLines [name ++ text]
  match r.meaning deeper name with
  | .aliased text => put (" is an alias for " ++ text)
  | .keyword => put " is a shell keyword"
  | .function => put " is a shell function"
  | .special => put " is a special shell builtin"
  | .builtIn => put " is a shell builtin"
  | .program shown => put (" is " ++ shown)
  | .unknown => (put ": not found").withStatus 127

/-- the run that wrote how a name is run -/
def tellName (deeper : Deeper) (r : Run) (name : String) : Run :=
  match r.meaning deeper name with
  | .aliased text => r.printLines ["alias " ++ Builtin.aliasLine name text]
  | .program shown => r.printLines [shown]
  | .unknown => r.withStatus 127
  | _ => r.printLines [name]

/-- the run after a function -/
def callFunction (deeper : Deeper) (body : Command) (args : List String) (r : Run) : Run :=
  let before := r.scope
  let inner := { r with scope := { before with
    arguments := args, covered := [], inFunction := true, loops := 0, optionAt := 0 } }
  let after := deeper ⟨[body], true⟩ inner
  let bindings := after.scope.covered.foldl (fun t (name, v) =>
    match v with
    | some v => t.insert name v
    | none => t.filter fun n _ => n != name) after.scope.bindings
  { after with
    scope := { after.scope with
      arguments := before.arguments, covered := before.covered, inFunction := before.inFunction, loops := before.loops
      bindings := bindings, optionAt := before.optionAt, line := before.line }
    flow := if after.flow == .returning then .onward else after.flow }

/-- the run after a command that is no function -/
def performProgram (deeper : Deeper) (name : String) (args : List String) (r : Run) : Run :=
  match (special? deeper name).or (builtIn? deeper name) with
  | some program => program args r
  | none => runProgram deeper (launchTo deeper launchDepth) name args r

/-- the run that becomes another program -/
def become (deeper : Deeper) (name : String) (args : List String) (r : Run) : Run :=
  let launch := launchTo deeper launchDepth
  let r := { r with scope := { r.scope with traps := r.scope.traps.filter (·.1 != 0) } }
  let refuse := fun (text : String) (status : Nat) => (r.blame ("exec: " ++ name ++ ": " ++ text)).finish (.exited status)
  match runAt deeper launch readerDepth name (r.target name) args r with
  | .ok after => after.finish after.ending
  | .error .missing | .error .noReader => refuse "not found" 127
  | .error (.denied _) => refuse "Permission denied" 126
  | .error (.noFormat shown content) =>
    let after := runRequest deeper ⟨[], shown, args, textOf content⟩ r
    after.finish after.ending

/-- the run after a command that runs or tells about another one -/
def performOuter (deeper : Deeper) (name : String) (args : List String) (r : Run) : Run :=
  match name with
  | "exec" =>
    match if args.head? == some "--" then args.drop 1 else args with
    | [] => r.withStatus 0
    | wanted :: args => become deeper wanted args r
  | "type" => args.foldl (describe deeper) (r.withStatus 0)
  | "hash" =>
    let (letters, names) := Builtin.takeOptions args
    if letters.contains 'r' then r.withStatus 0
    else
      names.foldl (fun r wanted =>
        match r.meaning deeper wanted with
        | .unknown => (r.blame ("hash: " ++ wanted ++ ": not found")).withStatus 1
        | _ => r) (r.withStatus 0)
  | _ =>
    let (letters, names) := Builtin.takeOptions args
    match letters.find? fun c => c != 'p' && c != 'v' && c != 'V' with
    | some c => Builtin.refuse r "command" (Builtin.illegalOption c)
    | none =>
      if letters.contains 'v' then (names.take 1).foldl (tellName deeper) (r.withStatus 0)
      else if letters.contains 'V' then (names.take 1).foldl (describe deeper) (r.withStatus 0)
      else
        match names with
        | [] => r.withStatus 0
        | "exec" :: "--" :: wanted :: args | "exec" :: wanted :: args => become deeper wanted args r
        | wanted :: args =>
          if outerNames.contains wanted then r.withStatus 0
          else
            let after := performProgram deeper wanted args r
            if after.flow == .ended (.exited 2) && (special? deeper wanted).isSome && wanted != "exit" then
              { after with flow := .onward, status := 2 }
            else after

/-- the run after a command -/
def perform (deeper : Deeper) (name : String) (args : List String) (r : Run) : Run :=
  match (if isSpecial deeper name then none else r.scope.functions.get? name) with
  | some body => callFunction deeper body args r
  | none =>
    if outerNames.contains name then performOuter deeper name args r else performProgram deeper name args r

/-! ## Commands -/

/-- the run with the values of assignments; commands see them where `exported` says so -/
def assignAll (deeper : Deeper) (exported : Bool) (ws : List (String × Word)) (r : Run) : Run × List String :=
  ws.foldl (fun (r, told) (name, w) =>
    if !r.goesOn then (r, told)
    else
      let (r, text) := expandValue deeper w r
      if !r.goesOn then (r, told)
      else
        let r := r.assign name text
        let told := told ++ [name ++ "=" ++ text]
        if r.goesOn && exported then (r.setVariable name { r.known name with exported := true }, told) else (r, told))
    (r, [])

/-- commands whose arguments may be assignments -/
def declaringNames : List String := ["export", "readonly", "local", "alias"]

/-- the run and the fields of words; arguments that are assignments stay whole where the command declares something -/
def expandCommand (deeper : Deeper) (ws : List Word) (r : Run) : Run × List String :=
  match ws with
  | first :: rest =>
    let declares := match plainText? first with
      | some name => declaringNames.contains name
      | none => false
    if !declares then expandAll deeper ws r
    else
      let (r, name) := expandFields deeper first r
      let (r, args) := rest.foldl (fun (r, args) w =>
        if !r.goesOn then (r, args)
        else
          match assignment? w with
          | some (name, value) =>
            let (r, text) := expandValue deeper value r
            (r, args ++ [name ++ "=" ++ text])
          | none =>
            let (r, fields) := expandFields deeper w r
            (r, args ++ fields)) (r, [])
      (r, name ++ args)
  | [] => (r, [])

/-- the run that tells what it does, if it is to, on a channel -/
def Run.trace (r : Run) (channel : Option Nat) (parts : List String) : Run :=
  match channel with
  | some n =>
    if r.has 'x' && !parts.isEmpty then
      { r with files := r.files.write n (bytesOf (r.valueOr "PS4" "+ " ++ joined " " parts ++ "\n")) }
    else r
  | none => r

/-- the run in which some variables are as in another one -/
def restore (names : List String) (before r : Run) : Run :=
  names.foldl (fun r name =>
    match before.scope.bindings.get? name with
    | some v => r.setVariable name v
    | none => r.dropVariable name) r

/-- the run after a simple command -/
def runSimple (deeper : Deeper) (ws : List Word) (redirects : List Redirect) (r : Run) : Run :=
  let assignments := (ws.map assignment?).takeWhile Option.isSome |>.filterMap id
  let names := assignments.map (·.1)
  let (r, fields) := expandCommand deeper (ws.drop assignments.length) { r with heard := 0 }
  let told := r.stream? 2
  if !r.goesOn then r
  else
    match fields with
    | [] =>
      r.withStreams deeper redirects false fun r =>
        let (r, parts) := assignAll deeper false assignments r
        if r.goesOn then (r.trace told parts).withStatus r.heard else r
    | name :: args =>
      let special := isSpecial deeper name
      if name == "exec" && args.isEmpty then
        let r := r.trace told [name]
        match Redirection.all deeper redirects r with
        | (r, none) => if r.goesOn then r.withStatus 0 else r
        | (r, some reason) => r.fail reason
      else
        r.withStreams deeper redirects special fun before =>
          let (r, parts) := assignAll deeper (!special) assignments before
          if !r.goesOn then r
          else
            let after := perform deeper name args (r.trace told (parts ++ fields))
            if special then after else restore names before after

/-- the command that an alias makes of words, if the first one is an alias that was set before the line -/
def withAlias? (r : Run) (line : Nat) (ws : List Word) (redirects : List Redirect) : Option (String × Command) :=
  let count := ((ws.map assignment?).takeWhile Option.isSome).length
  match (ws.drop count) with
  | [] => none
  | first :: rest => do
    let name ← plainText? first
    let (text, setAt) ← r.scope.aliases.get? name
    if line ≤ setAt then none
    let before := (ws.take count).map fun w => Token.word w line
    let own := tokens .none 0 ⟨[], none, 0, line⟩ text.toList
    let behind := rest.map fun w => Token.word w line
    let ts := before ++ own ++ behind
    let (command, rest) ← Command.takeList (8 * ts.length + 8) false ts
    if rest.isEmpty then
      some (name, match command with
        | .simple line ws more => .simple line ws (more ++ redirects)
        | other => if redirects.isEmpty then other else .redirected other redirects)
    else none

/-- the run after commands, unless something keeps them from running -/
def onward (commands : Run → Run) (r : Run) : Run := if r.goesOn then commands r else r

/-- the run with the answer to whether a failure of its commands is only looked at -/
def Run.withTested (r : Run) (tested : Bool) : Run := { r with scope := { r.scope with tested := tested } }

/-- the run after commands of which only the status is asked for -/
def testing (commands : Run → Run) (r : Run) : Run := (commands (r.withTested true)).withTested r.scope.tested

/-- the run after a command whose failure may end the script -/
def settle (r : Run) : Run :=
  if r.has 'e' && !r.scope.tested && r.status != 0 && r.goesOn then r.finish (.exited r.status) else r

/-- the run after one round of a loop, and whether another one may follow -/
def afterRound (r : Run) : Run × Bool :=
  match r.flow with
  | .leaving (n + 2) again => ({ r with flow := .leaving (n + 1) again }, false)
  | .leaving _ again => ({ r with flow := .onward }, again)
  | .onward => (r, true)
  | _ => (r, false)

/-- the run after a loop that a condition ends -/
def runLoop (stopOnSuccess : Bool) (condition body : Run → Run) (rounds status : Nat) (r : Run) : Run :=
  match rounds with
  | 0 => r.finish .timedOut
  | rounds + 1 =>
    let r := testing condition r
    if !r.goesOn then
      match afterRound r with
      | (r, true) => runLoop stopOnSuccess condition body rounds status r
      | (r, false) => r
    else if (r.status == 0) == stopOnSuccess then r.withStatus status
    else
      match afterRound (body r) with
      | (r, true) => runLoop stopOnSuccess condition body rounds r.status r
      | (r, false) => r

/-- the run after a loop over fields -/
def runEach (name : String) (body : Run → Run) (fields : List String) (r : Run) : Run :=
  match fields with
  | [] => r
  | field :: fields =>
    let r := r.assign name field
    if !r.goesOn then r
    else
      match afterRound (body r) with
      | (r, true) => runEach name body fields r
      | (r, false) => r

/-- the run with so many loops around its commands -/
def Run.withLoops (r : Run) (loops : Nat) : Run := { r with scope := { r.scope with loops := loops } }

/-- the run after a loop that stands inside as many loops as the run -/
def inLoop (commands : Run → Run) (r : Run) : Run :=
  (commands (r.withLoops (r.scope.loops + 1))).withLoops r.scope.loops

/-- the run, and whether one of the patterns fits the text -/
def anyFits (deeper : Deeper) (text : String) : List Word → Run → Run × Bool
  | [], r => (r, false)
  | w :: ws, r =>
    let (r, ls) := expandPattern deeper w r
    if !r.goesOn then (r, false)
    else if Wildcard.accepts (Wildcard.read 0 ls) text.toList then (r, true)
    else anyFits deeper text ws r

/-- the run after commands in a process of their own -/
def Run.apart (deeper : Deeper) (commands : Run → Run) (r : Run) : Run :=
  let r := r.settleJobs deeper
  r.absorb ((commands r.fork).conclude deeper)

/-- the run after two commands of which the second reads what the first writes; the first one ends where nobody reads
on -/
def runPipe (deeper : Deeper) (first second : Run → Run) (r : Run) : Run :=
  let r := r.settleJobs deeper
  let (files, channel) := r.files.add (.pipe [] [])
  let r := { r with files := files }
  let wrote := ((first (r.fork.lead 1 (some channel))).conclude deeper).awaitWriters deeper [channel]
  let isEndless := wrote.ending = .timedOut && wrote.elapsed < r.limit
  let between := { r.absorb wrote with elapsed := r.elapsed }
  let between := { between with files := between.files.turn channel }
  if wrote.ending = .timedOut && !isEndless then between.finish .timedOut
  else
    let between := { between with flow := .onward }
    let read := (second (between.fork.lead 0 (some channel))).conclude deeper
    let after := r.absorb read
    if isEndless && (read.files.remaining channel).isEmpty then after.finish .timedOut
    else { after with elapsed := max wrote.elapsed read.elapsed }

/-- how many rounds a loop has at most -/
def loopRounds : Nat := 30000

/-- the run after a command -/
def Command.run (deeper : Deeper) : Command → Run → Run
  | .nothing => fun r => r.withStatus 0
  | .simple line ws redirects => fun r =>
    let r := { r with scope := { r.scope with line := line } }
    match withAlias? r line ws redirects with
    | some (name, command) =>
      let aliases := r.scope.aliases
      let without := aliases.filter fun n _ => n != name
      let after := deeper ⟨[command], true⟩ { r with scope := { r.scope with aliases := without } }
      let isSame := after.scope.aliases.keys == without.keys
      { after with scope := { after.scope with aliases := if isSame then aliases else after.scope.aliases } }
    | none =>
      let after := settle (runSimple deeper ws redirects r)
      (if after.elapsed = r.elapsed then after else after.settleJobs deeper).takeSignals deeper
  | .redirected c redirects => fun r => r.withStreams deeper redirects false (run deeper c)
  | .sequence first second => fun r => onward (run deeper second) (run deeper first r)
  | .aside c => fun r => r.begin c
  | .both first second => fun r =>
    let r := testing (run deeper first) r
    if r.status = 0 then onward (run deeper second) r else r
  | .either first second => fun r =>
    let r := testing (run deeper first) r
    if r.status = 0 then r else onward (run deeper second) r
  | .negated c => fun r => onward (fun r => r.withStatus (if r.status = 0 then 1 else 0)) (testing (run deeper c) r)
  | .pipe first second => fun r =>
    (settle (runPipe deeper (run deeper first) (run deeper second) r)).takeSignals deeper
  | .apart c => fun r => (settle (r.apart deeper (run deeper c))).takeSignals deeper
  | .branch condition yes no => fun r =>
    onward (fun r => if r.status = 0 then run deeper yes r else run deeper no r) (testing (run deeper condition) r)
  | .loop stopOnSuccess condition body => fun r =>
    inLoop (runLoop stopOnSuccess (run deeper condition) (run deeper body) loopRounds 0) r
  | .each name words body => fun r =>
    let (r, fields) := match words with
      | some ws => expandAll deeper ws r
      | none => (r, r.scope.arguments)
    onward (inLoop (runEach name (run deeper body) fields)) (if r.goesOn then r.withStatus 0 else r)
  | .choice subject patterns body rest => fun r =>
    let (r, text) := expandText deeper subject r
    if !r.goesOn then r
    else
      let (r, found) := anyFits deeper text patterns r
      if !r.goesOn then r else if found then run deeper body (r.withStatus 0) else run deeper rest r
  | .define _ name body => fun r =>
    { r.withStatus 0 with scope := { r.scope with functions := r.scope.functions.insert name body } }

/-- the run after a script that may hold others so deep -/
def execute (depth : Nat) : Deeper :=
  match depth with
  | 0 => fun _ r => r.fail "Maximum function recursion depth (1000) reached"
  | depth + 1 => fun s r =>
    let run := fun (r : Run) (c : Command) => if r.has 'n' then r else onward (c.run (execute depth)) r
    let r := s.lines.foldl run r
    if s.readable then r else onward (fun r => r.fail "Syntax error") r

/-- how deep scripts may hold others -/
def scriptDepth : Nat := 300

/-! ## Starting a program -/

/-- why a program cannot be started -/
def Refusal.fault : Refusal → IoFault
  | .missing | .noReader => .notFound
  | .denied _ => .notExecutable
  | .noFormat _ _ => .unknownFormat

/-- the run at the end of all that could still write to what the program was given -/
def Run.drain (r : Run) : Run :=
  let ending := r.ending
  let after := ({ r with flow := .onward }.awaitWriters (execute scriptDepth) [1, 2])
  let after := after.settleJobs (execute scriptDepth)
  if after.flow == .ended .timedOut || ending = .timedOut then after.finish .timedOut else after.finish ending

/-- the run of a program that may take so many milliseconds, or why it could not be started -/
def start (d : Disk) (limit : Nat) (name : String) (args : List String) : Except IoFault Run :=
  let program := ofLetters name
  let arguments := args.map ofLetters
  let r := Run.new d limit program arguments
  let fits := if contains program "/" then Disk.requirePath name else FileTree.requireFit name
  if name.isEmpty then .error .notFound
  else
    match fits with
    | .error fault => .error fault
    | .ok _ =>
      let deeper := execute scriptDepth
      match runAt deeper (launchTo deeper launchDepth) readerDepth program (r.target program) arguments r with
      | .ok after => .ok (after.finish after.ending).drain
      | .error refusal => .error refusal.fault

end CodeSurvey.Shell
