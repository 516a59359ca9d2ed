/-
Programs that run other programs.

They say what is run, in which surroundings, how often and how long. `Launch` runs a program of a name with arguments;
how that is done they do not know.
-/
import CodeSurvey.Shell.Program.Contents
import CodeSurvey.Shell.Signal

namespace CodeSurvey.Shell

open Text

/-- how a program of a name is run with arguments -/
abbrev Launch := String → List String → Run → Run

namespace Running

/-! ## Surroundings -/

/-- a text cut into words, with quotes and backslashes; `word` is open, last character first -/
def splitWords (quote : Option Char) (word : Option (List Char)) : List Char → List String
  | [] => (word.map fun cs => String.ofList cs.reverse).toList
  | c :: cs =>
    match quote with
    | some q => if c = q then splitWords none word cs else splitWords quote (some (c :: word.getD [])) cs
    | none =>
      if isSpace c then (word.map fun cs => String.ofList cs.reverse).toList ++ splitWords none none cs
      else if c = '\x27' || c = '"' then splitWords (some c) (some (word.getD [])) cs
      else if c = '\\' then
        match cs with
        | e :: rest => splitWords none (some (e :: word.getD [])) rest
        | [] => splitWords none word []
      else splitWords none (some (c :: word.getD [])) cs

/-- the arguments with those that one argument holds in its place -/
def splitArguments (fuel : Nat) (args : List String) : List String :=
  match fuel, args with
  | fuel + 1, a :: rest =>
    match stripStart a "-S", stripStart a "--split-string=" with
    | some text, _ =>
      if text.isEmpty then splitArguments fuel (splitWords none none (rest.headD "").toList ++ rest.drop 1)
      else splitArguments fuel (splitWords none none text.toList ++ rest)
    | none, some text => splitArguments fuel (splitWords none none text.toList ++ rest)
    | none, none =>
      if startsWith a "-" && a != "-" && a != "--" then
        if a == "-u" || a == "-C" then a :: rest.take 1 ++ splitArguments fuel (rest.drop 1)
        else a :: splitArguments fuel rest
      else args
  | _, args => args

/-- the variable that a text sets, and its value -/
def setting? (text : String) : Option (String × String) :=
  match splitBy (· == '=') text.toList with
  | name :: value :: more =>
    if name.isEmpty then none else some (String.ofList name, String.ofList (['='].intercalate (value :: more)))
  | _ => none

/-- runs a program with other variables, or writes the variables -/
def env (launch : Launch) : Program := fun args r =>
  { flags := "i0v", valued := "uC", inOrder := true
    long := [("ignore-environment", 'i'), ("unset", 'u'), ("chdir", 'C'), ("null", '0')] : OptionForm }.program "env" 125
    (fun g r =>
      let operands := if g.operands.head? == some "-" then g.operands.drop 1 else g.operands
      let isEmpty := g.has 'i' || g.operands.head? == some "-"
      let settings := (operands.map setting?).takeWhile Option.isSome |>.filterMap id
      let command := operands.drop settings.length
      let before := if isEmpty then Ordered.empty else r.environment
      let kept := before.filter fun name _ => !(g.values 'u').contains name
      let bindings := settings.foldl (fun t (name, value) => t.insert name ⟨some value, true, false⟩) kept
      let inner := r.withVariables bindings
      let place := match g.value? 'C' with
        | some directory => r.disk.locate (path directory)
        | none => .ok r.disk.here
      match place, command with
      | .error fault, _ =>
        r.refuse 125 ("env: cannot change directory to " ++ Files.quoted ((g.value? 'C').getD "") ++ ": "
          ++ faultWords fault)
      | _, [] =>
        r.printLines (bindings.entries.map fun (name, v) => name ++ "=" ++ v.value.getD "")
      | .ok place, name :: args =>
        let after := launch name args (inner.withDisk { inner.disk with here := place })
        { after with
          scope := { after.scope with bindings := r.scope.bindings }
          files := { after.files with disk := { after.files.disk with here := r.disk.here } } })
    (splitArguments 16 args) r

/-- runs a program as it is -/
def plainly (launch : Launch) (name : String) (form : OptionForm) : Program :=
  form.program name 125 fun g r =>
    match g.operands with
    | [] => Files.missing r name "missing operand"
    | program :: args => launch program args r

/-! ## Time -/

/-- the milliseconds of a text that writes a time -/
def milliseconds? (text : String) : Option Nat :=
  let cs := text.toList
  let (cs, unit) := match cs.getLast? with
    | some 's' => (cs.dropLast, 1)
    | some 'm' => (cs.dropLast, 60)
    | some 'h' => (cs.dropLast, 3600)
    | some 'd' => (cs.dropLast, 86400)
    | _ => (cs, 1)
  let seconds := match splitBy (· == '.') cs with
    | [whole] => (Number.count? (String.ofList whole)).map (· * 1000)
    | [whole, part] => do
      let n ← if whole.isEmpty then some 0 else Number.count? (String.ofList whole)
      let m ← Number.count? (String.ofList ((part ++ ['0', '0', '0']).take 3))
      if whole.isEmpty && part.isEmpty then none else some (n * 1000 + m)
    | _ => none
  seconds.map (· * unit)

/-- lets time go by -/
def sleep : Program := fun args r =>
  if args.isEmpty then Files.missing r "sleep" "missing operand"
  else
    match args.mapM milliseconds? with
    | some times => (r.withStatus 0).pass (times.foldl (· + ·) 0)
    | none =>
      let wrong := (args.find? fun a => (milliseconds? a).isNone).getD ""
      Files.missing r "sleep" ("invalid time interval " ++ Files.quoted wrong)

/-- runs a program for some time at most -/
def timeout (launch : Launch) : Program :=
  { flags := "vf", valued := "sk", inOrder := true
    long := [("signal", 's'), ("kill-after", 'k'), ("preserve-status", 'p'), ("foreground", 'f')] : OptionForm }.program
    "timeout" 125 fun g r =>
      match g.operands with
      | time :: program :: args =>
        match milliseconds? time with
        | none => (r.refuse 125 ("timeout: invalid time interval " ++ Files.quoted time)).tell
            "Try 'timeout --help' for more information."
        | some 0 => launch program args r
        | some limit =>
          let last := r.elapsed + limit
          if r.limit ≤ last then launch program args r
          else
            let after := launch program args { r with limit := last }
            if after.ending = .timedOut then
              let name := (g.value? 's').getD "TERM"
              let signal := (Signal.number? ((stripStart name "SIG").getD name)).getD 15
              let status := if g.has 'p' || signal = 9 then 128 + signal else 124
              { after with limit := r.limit, elapsed := last, flow := r.flow, status := status }
            else { after with limit := r.limit }
      | _ => (Files.missing r "timeout" "missing operand").withStatus 125

/-! ## Arguments from the input -/

/-- runs a program with arguments that are read -/
def xargs (launch : Launch) : Program :=
  { flags := "0rtpxo", valued := "nILdPsEa", inOrder := true
    long := [("null", '0'), ("no-run-if-empty", 'r'), ("max-args", 'n'), ("replace", 'I'), ("delimiter", 'd'),
      ("max-lines", 'L'), ("max-procs", 'P'), ("verbose", 't'), ("arg-file", 'a')] : OptionForm }.program "xargs" 1
    fun g r =>
      let (r, content) := match g.value? 'a' with
        | some name => (r, (r.disk.readBytes (path name)).toOption.getD [])
        | none => r.takeAll 0
      let cs := (textOf content).toList
      let delimiter := if g.has '0' then some '\x00'
        else (g.value? 'd').bind fun t => if t == "\\n" then some '\n' else if t == "\\t" then some '\t' else t.toList.head?
      let words := match delimiter with
        | some d =>
          let parts := (splitBy (· == d) cs).map String.ofList
          if parts.getLast? == some "" then parts.dropLast else parts
        | none =>
          if g.has 'I' then
            ((linesOf content).map fun line => String.ofList (line.toList.dropWhile isSpace)).filter (!·.isEmpty)
          else splitWords none none cs
      let (program, fixed) := match g.operands with
        | [] => ("echo", [])
        | program :: args => (program, args)
      let number := fun (c : Char) => ((g.value? c).bind Number.count?).filter (· != 0)
      let groups := match g.value? 'I', number 'n', number 'L' with
        | some mark, _, _ => words.map fun word => (fixed.map fun a => replace a mark word)
        | none, some n, _ => (chunks n words.length words).map (fixed ++ ·)
        | none, none, some n =>
          (chunks n content.length (linesOf content)).map fun lines =>
            fixed ++ lines.flatMap fun line => splitWords none none line.toList
        | none, none, none => [fixed ++ words]
      let groups := if words.isEmpty then (if g.has 'r' || g.has 'I' then [] else [fixed]) else groups
      let input := r.stream? 0
      let r := r.openStream 0 .void
      let r := groups.foldl (fun r args =>
        if !r.goesOn || r.status = 124 then r
        else
          let r := if g.has 't' then r.tell (joined " " (program :: args)) else r
          let after := launch program args (r.withStatus 0)
          let status := match after.status with
            | 0 => r.status
            | 126 => 126
            | 127 => 127
            | 255 => 124
            | n => if n < 126 then 123 else 125
          after.withStatus status) (r.withStatus 0)
      r.lead 0 input
where
  /-- a list in pieces of a length -/
  chunks (n fuel : Nat) (words : List String) : List (List String) :=
    match fuel with
    | 0 => []
    | fuel + 1 => if words.isEmpty then [] else words.take n :: chunks n fuel (words.drop n)

/-! ## Files below directories -/

/-- what is asked about a file, or done with it -/
inductive Question where
  | name (pattern : String) (anyCase : Bool)
  | path (pattern : String)
  | kind (letters : String)
  | isEmpty
  | runnable
  | size (sign : Option Char) (bytes : Nat) (unit : Nat)
  | print (ending : String)
  | delete
  /-- runs a program; `together` puts all files behind each other -/
  | run (command : List String) (together : Bool)
  | prune
  | quit
  | constant (b : Bool)
  | notAll (q : Question)
  | both (a b : Question)
  | either (a b : Question)
  deriving Repr

/-- how deep the search goes, and where it starts to look -/
structure Depths where
  least : Nat
  most : Option Nat
  /-- directories come behind what they hold -/
  contentsFirst : Bool

/-- the files that are found below a path: their written paths, places, kinds and depths -/
structure Found where
  written : String
  place : Place
  entry : Entry
  depth : Nat

/-- the state of a search -/
structure Hunt where
  run : Run
  /-- what is below these is passed over -/
  pruned : List Place
  /-- the files for each command that takes them together, last one first -/
  gathered : List (List String × String)
  stopped : Bool

/-- a question does something besides asking -/
def Question.acts : Question → Bool
  | .print _ | .delete | .run _ _ => true
  | .notAll q => q.acts
  | .both a b | .either a b => a.acts || b.acts
  | _ => false

/-- a question of files that are about to go -/
def Question.deletes : Question → Bool
  | .delete => true
  | .notAll q => q.deletes
  | .both a b | .either a b => a.deletes || b.deletes
  | _ => false

/-- the pattern accepts the text -/
def fits (pattern text : String) : Bool :=
  Wildcard.accepts (Wildcard.read 0 (Letter.ofText false pattern)) text.toList

def lowered (text : String) : String := String.ofList (text.toList.map Char.toLower)

/-- the answer about a file, and the search behind it -/
def Question.answer (launch : Launch) (f : Found) : Question → Hunt → Hunt × Bool
  | .name pattern anyCase, h =>
    let name := ((split f.written '/').filter (!·.isEmpty)).getLastD "/"
    (h, if anyCase then fits (lowered pattern) (lowered name) else fits pattern name)
  | .path pattern, h => (h, fits pattern f.written)
  | .kind letters, h =>
    (h, (split letters ',').any fun l => (l == "f" && f.entry.isFile) || (l == "d" && f.entry.isDirectory))
  | .isEmpty, h =>
    (h, match f.entry with
      | .file content => content.isEmpty
      | .directory => (h.run.disk.tree.below f.place).isEmpty
      | .void => false)
  | .runnable, h => (h, f.entry.isDirectory || h.run.disk.executable.contains f.place)
  | .size sign n unit, h =>
    let size := match f.entry with
      | .file content => (content.length + unit - 1) / unit
      | _ => 0
    (h, match sign with
      | some '+' => n < size
      | some '-' => size < n
      | _ => size = n)
  | .print ending, h => ({ h with run := h.run.print (f.written ++ ending) }, true)
  | .delete, h =>
    match if f.entry.isDirectory then Files.removeDirectory h.run.disk (shown f.place)
      else Files.removeFile h.run.disk (shown f.place) with
    | .ok d => ({ h with run := h.run.withDisk d }, true)
    | .error fault =>
      ({ h with run := h.run.refuse 1 ("find: cannot delete " ++ Files.quoted f.written ++ ": " ++ faultWords fault) },
        false)
  | .run command together, h =>
    if together then ({ h with gathered := (command, f.written) :: h.gathered }, true)
    else
      match command.map fun a => replace a "\x7b\x7d" f.written with
      | [] => (h, false)
      | program :: args =>
        let before := h.run.status
        let after := launch program args h.run
        ({ h with run := after.withStatus before }, after.status = 0)
  | .prune, h => ({ h with pruned := f.place :: h.pruned }, true)
  | .quit, h => ({ h with stopped := true }, true)
  | .constant b, h => (h, b)
  | .notAll q, h => let (h, b) := q.answer launch f h; (h, !b)
  | .both a b, h =>
    let (h, first) := a.answer launch f h
    if first && !h.stopped then b.answer launch f h else (h, false)
  | .either a b, h =>
    let (h, first) := a.answer launch f h
    if first || h.stopped then (h, true) else b.answer launch f h
where
  /-- the path of a place -/
  shown (place : Place) : FilePath := .ofText (placeText place)

/-- the arguments of a command up to the sign that ends it -/
def takeCommand : List String → Option (List String × Bool × List String)
  | [] => none
  | ";" :: rest => some ([], false, rest)
  | "\x7b\x7d" :: "+" :: rest => some (["\x7b\x7d"], true, rest)
  | a :: rest => (takeCommand rest).map fun (command, together, rest) => (a :: command, together, rest)

/-- a size with its sign and unit -/
def takeSize (text : String) : Option Question :=
  let sign := text.toList.head?.filter fun c => c == '+' || c == '-'
  let cs := if sign.isSome then text.toList.drop 1 else text.toList
  let digits := cs.takeWhile isAsciiDigit
  let unit := match String.ofList (cs.drop digits.length) with
    | "c" => some 1
    | "w" => some 2
    | "" | "b" => some 512
    | "k" => some 1024
    | "M" => some (1024 * 1024)
    | _ => none
  unit.map fun u => .size sign (Number.ofDigits 10 digits) u

mutual

/-- questions of which one must be answered well -/
def anyOf (fuel : Nat) (args : List String) : Option (Question × List String) :=
  match fuel with
  | 0 => none
  | fuel + 1 => do
    let (a, rest) ← allOf fuel args
    match rest with
    | sign :: rest =>
      if sign == "-o" || sign == "-or" then
        let (b, rest) ← anyOf fuel rest
        return (.either a b, rest)
      else return (a, sign :: rest)
    | [] => return (a, [])

/-- questions that must all be answered well -/
def allOf (fuel : Nat) (args : List String) : Option (Question × List String) :=
  match fuel with
  | 0 => none
  | fuel + 1 => do
    let (a, rest) ← one fuel args
    match rest with
    | [] => return (a, [])
    | sign :: more =>
      if sign == "-o" || sign == "-or" || sign == ")" then return (a, rest)
      else
        let (b, rest) ← allOf fuel (if sign == "-a" || sign == "-and" then more else rest)
        return (.both a b, rest)

/-- one question -/
def one (fuel : Nat) (args : List String) : Option (Question × List String) :=
  match fuel with
  | 0 => none
  | fuel + 1 =>
    match args with
    | "!" :: rest | "-not" :: rest => (one fuel rest).map fun (q, rest) => (.notAll q, rest)
    | "(" :: rest => do
      let (q, rest) ← anyOf fuel rest
      let ")" :: rest := rest | none
      return (q, rest)
    | "-name" :: pattern :: rest => some (.name pattern false, rest)
    | "-iname" :: pattern :: rest => some (.name pattern true, rest)
    | "-path" :: pattern :: rest | "-wholename" :: pattern :: rest => some (.path pattern, rest)
    | "-type" :: letters :: rest => some (.kind letters, rest)
    | "-size" :: text :: rest => (takeSize text).map (·, rest)
    | "-empty" :: rest => some (.isEmpty, rest)
    | "-executable" :: rest => some (.runnable, rest)
    | "-print" :: rest => some (.print "\n", rest)
    | "-print0" :: rest => some (.print "\x00", rest)
    | "-delete" :: rest => some (.delete, rest)
    | "-prune" :: rest => some (.prune, rest)
    | "-quit" :: rest => some (.quit, rest)
    | "-true" :: rest | "-depth" :: rest | "-follow" :: rest | "-noleaf" :: rest => some (.constant true, rest)
    | "-false" :: rest => some (.constant false, rest)
    | "-exec" :: rest | "-ok" :: rest =>
      (takeCommand rest).map fun (command, together, rest) => (.run command together, rest)
    | _ => none

end

/-- the numbers of options that hold for the whole search, and the arguments without them -/
def takeDepths (d : Depths) : List String → Depths × List String
  | "-maxdepth" :: n :: rest => takeDepths { d with most := Number.count? n } rest
  | "-mindepth" :: n :: rest => takeDepths { d with least := (Number.count? n).getD 0 } rest
  | a :: rest =>
    let (d, rest) := takeDepths (if a == "-depth" then { d with contentsFirst := true } else d) rest
    (d, a :: rest)
  | [] => (d, [])

/-- what a search below a path meets, in order -/
def meets (d : Disk) (start : String) : Except IoFault (List Found) := do
  let e ← d.entry (path start)
  let place ← d.locate (path start)
  .ok (⟨start, place, e, 0⟩ :: (d.tree.below place).map fun (names, e) =>
    ⟨names.foldl (fun p n => Files.inDirectory p (ofLetters n)) start, place ++ names, e, names.length⟩)

/-- files with directories behind what they hold -/
def contentsFirst (found : List Found) : List Found :=
  found.mergeSort fun a b =>
    if a.place.isPrefixOf b.place && a.place != b.place then false
    else if b.place.isPrefixOf a.place then true
    else a.place < b.place

/-- looks for files below paths -/
def find (launch : Launch) : Program := fun args r =>
  let isStart := fun (a : String) => !startsWith a "-" && a != "(" && a != "!"
  let args := args.dropWhile fun a => a == "-H" || a == "-L" || a == "-P"
  let starts := args.takeWhile isStart
  let starts := if starts.isEmpty then ["."] else starts
  let (depths, rest) := takeDepths ⟨0, none, false⟩ (args.dropWhile isStart)
  let question := if rest.isEmpty then some (.print "\n", []) else anyOf (8 * rest.length + 8) rest
  match question with
  | some (q, []) =>
    let q := if q.acts then q else .both q (.print "\n")
    let hunt : Hunt := starts.foldl (fun (h : Hunt) start =>
      match meets h.run.disk start with
      | .error fault => { h with run := h.run.refuse 1 ("find: " ++ Files.quoted start ++ ": " ++ faultWords fault) }
      | .ok found =>
        let found := if depths.contentsFirst || q.deletes then contentsFirst found else found
        found.foldl (fun (h : Hunt) (f : Found) =>
          let tooDeep := match depths.most with | some n => n < f.depth | none => false
          if h.stopped || !h.run.goesOn || tooDeep || f.depth < depths.least then h
          else if h.pruned.any fun p => p.isPrefixOf f.place && p != f.place then h
          else (q.answer launch f h).1) h) ⟨r.withStatus 0, [], [], false⟩
    let commands := (hunt.gathered.map (·.1)).reverse.eraseDups
    commands.foldl (fun r command =>
      let files := (hunt.gathered.filter (·.1 == command)).reverse.map (·.2)
      match command.flatMap fun a => if a == "\x7b\x7d" then files else [a] with
      | program :: args =>
        let after := launch program args r
        if after.status = 0 then after.withStatus r.status else after.withStatus 1
      | [] => r) hunt.run
  | some (_, word :: _) => r.refuse 1 ("find: paths must precede expression: " ++ Files.quoted word)
  | none =>
    let wrong := (rest.find? fun a => startsWith a "-").getD ""
    r.refuse 1 ("find: unknown predicate " ++ Files.quoted wrong)

/-- the programs by their names -/
def program? (launch : Launch) (name : String) : Option Program :=
  match name with
  | "env" => some (env launch)
  | "sleep" => some sleep
  | "timeout" => some (timeout launch)
  | "xargs" => some (xargs launch)
  | "find" => some (find launch)
  | "nohup" => some (plainly launch "nohup" { flags := "", inOrder := true })
  | "nice" => some (plainly launch "nice" { flags := "", valued := "n", inOrder := true })
  | "setsid" => some (plainly launch "setsid" { flags := "wcf", inOrder := true })
  | "stdbuf" => some (plainly launch "stdbuf" { flags := "", valued := "ioe", inOrder := true })
  | _ => none

end Running

end CodeSurvey.Shell
