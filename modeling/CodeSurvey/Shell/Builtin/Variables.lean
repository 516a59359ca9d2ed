/-
What a shell does with its variables and arguments.

These commands are part of the shell, so that what they set stays. A mistake of one whose work the script depends on
ends the script.
-/
import CodeSurvey.Shell.Options
import CodeSurvey.Shell.Expansion

namespace CodeSurvey.Shell.Builtin

open Text

/-- the run after a mistake of a command that the script survives -/
def refuse (r : Run) (name text : String) : Run := (r.withStatus 2).blame (name ++ ": " ++ text)

/-- the run after a mistake of a command that the script does not survive -/
def failIn (r : Run) (name text : String) : Run := r.fail (name ++ ": " ++ text)

/-- a text in quotes, so that a script reads it as it is -/
def quoted (text : String) : String :=
  let parts := (splitBy (· == '\x27') text.toList).map fun cs => if cs.isEmpty then "" else "\x27" ++ String.ofList cs ++ "\x27"
  if text.isEmpty then "\x27\x27" else joined "\"\x27\"" parts

/-- the letters of options in front of arguments, and the arguments behind them -/
def takeOptions : List String → List Char × List String
  | [] => ([], [])
  | a :: rest =>
    if a == "--" then ([], rest)
    else if startsWith a "-" && a != "-" then
      let (letters, rest) := takeOptions rest
      (a.toList.drop 1 ++ letters, rest)
    else ([], a :: rest)

/-- what is said about a letter that is no option -/
def illegalOption (c : Char) : String := "Illegal option -" ++ String.singleton c

/-- the variable that a text sets, and its value -/
def setting (text : String) : String × Option String :=
  let name := beforeFirst text '='
  (name, if name.length < text.length then some (String.ofList (text.toList.drop (name.length + 1))) else none)

/-- the lines that set variables as they are -/
def declarations (command : String) (r : Run) (shown : Variable → Bool) : List String :=
  (r.scope.bindings.entries.filter fun (_, v) => shown v).map fun (name, v) =>
    command ++ " " ++ name ++ match v.value with
      | some value => "=" ++ quoted value
      | none => ""

/-- the command that marks variables and may set them -/
def declare (command : String) (shown : Variable → Bool) (mark : Variable → Variable) : Program := fun args r =>
  let (letters, names) := takeOptions args
  match letters.find? (· != 'p') with
  | some c => failIn r command (illegalOption c)
  | none =>
    if letters.contains 'p' || names.isEmpty then (r.withStatus 0).printLines (declarations command r shown)
    else
      names.foldl (fun r text =>
        if !r.goesOn then r
        else
          let (name, value) := setting text
          if !isName name.toList then failIn r command (name ++ ": bad variable name")
          else
            match value with
            | some value =>
              if (r.known name).fixed then failIn r command (Run.fixedText name)
              else
                let r := r.put name value
                r.setVariable name (mark (r.known name))
            | none => r.setVariable name (mark (r.known name))) (r.withStatus 0)

def exportNames : Program := declare "export" Variable.exported fun v => { v with exported := true }

def fixNames : Program := declare "readonly" Variable.fixed fun v => { v with fixed := true }

/-- keeps what variables were before the function -/
def cover : Program := fun args r =>
  if !r.scope.inFunction then failIn r "local" "not in a function"
  else
    args.foldl (fun r text =>
      if !r.goesOn then r
      else
        let (name, value) := setting text
        if name == "-" then r
        else if !isName name.toList then failIn r "local" (name ++ ": bad variable name")
        else
          let isCovered := r.scope.covered.any (·.1 == name)
          let covered := if isCovered then r.scope.covered
            else (name, r.scope.bindings.get? name) :: r.scope.covered
          let r := { r with scope := { r.scope with covered := covered } }
          match value with
          | some value => if (r.known name).fixed then failIn r "local" (Run.fixedText name) else r.put name value
          | none => r) (r.withStatus 0)

def unset : Program := fun args r =>
  let (letters, names) := takeOptions args
  match letters.find? fun c => c != 'f' && c != 'v' with
  | some c => failIn r "unset" (illegalOption c)
  | none =>
    names.foldl (fun r name =>
      if !r.goesOn then r
      else if letters.contains 'f' then
        { r with scope := { r.scope with functions := r.scope.functions.filter fun n _ => n != name } }
      else if !isName name.toList then failIn r "unset" (name ++ ": bad variable name")
      else if (r.known name).fixed then failIn r "unset" (Run.fixedText name)
      else r.dropVariable name) (r.withStatus 0)

/-! ## Options and arguments -/

/-- the names of options and their letters; some have no letter -/
def optionNames : List (String × Option Char) :=
  [("errexit", some 'e'), ("noglob", some 'f'), ("ignoreeof", some 'I'), ("interactive", some 'i'),
    ("monitor", some 'm'), ("noexec", some 'n'), ("stdin", some 's'), ("xtrace", some 'x'), ("verbose", some 'v'),
    ("vi", some 'V'), ("emacs", some 'E'), ("noclobber", some 'C'), ("allexport", some 'a'), ("notify", some 'b'),
    ("nounset", some 'u'), ("privileged", some 'p'), ("nolog", none), ("debug", none)]

/-- the options with a letter on or off -/
def withOption (options : List Char) (on : Bool) (c : Char) : List Char :=
  let others := options.filter (· != c)
  if on then c :: others else others

/-- options that arguments set: the letters that are on, and the arguments behind them, if there are any -/
def readOptions (options : List Char) (args : List String) :
    Except String (List Char × Option (List String)) :=
  match args with
  | [] => .ok (options, none)
  | a :: rest =>
    if a == "--" then .ok (options, some rest)
    else if a == "-" then .ok (options.filter fun c => c != 'x' && c != 'v', if rest.isEmpty then none else some rest)
    else if startsWith a "-" || startsWith a "+" then
      let on := startsWith a "-"
      let letters := a.toList.drop 1
      if a == "-o" || a == "+o" then
        match rest with
        | [] => .ok (options, none)
        | name :: rest =>
          match optionNames.lookup name with
          | some letter => readOptions ((letter.map (withOption options on)).getD options) rest
          | none => .error ("Illegal option " ++ a ++ " " ++ name)
      else
        match letters.find? fun c => !Run.optionLetters.contains c && c != 'o' with
        | some c => .error ("Illegal option " ++ String.ofList (a.toList.take 1) ++ String.singleton c)
        | none =>
          let options := (letters.filter (· != 'o')).foldl (withOption · on ·) options
          if letters.contains 'o' then
            match rest with
            | name :: rest =>
              match optionNames.lookup name with
              | some letter => readOptions ((letter.map (withOption options on)).getD options) rest
              | none => .error ("Illegal option -o " ++ name)
            | [] => .ok (options, none)
          else readOptions options rest
    else .ok (options, some (a :: rest))

/-- shows variables, or sets options and arguments -/
def set : Program := fun args r =>
  let r := r.withStatus 0
  match args with
  | [] =>
    r.printLines (r.scope.bindings.entries.filterMap fun (name, v) => v.value.map fun value => name ++ "=" ++ quoted value)
  | ["-o"] =>
    r.printLines ("Current option settings" :: optionNames.map fun (name, letter) =>
      name ++ String.ofList (List.replicate (16 - name.length) ' ') ++
        (if (letter.map r.has).getD false then "on" else "off"))
  | ["+o"] =>
    r.printLines (optionNames.map fun (name, letter) =>
      "set " ++ (if (letter.map r.has).getD false then "-o " else "+o ") ++ name)
  | _ =>
    match readOptions r.scope.options args with
    | .error text => failIn r "set" text
    | .ok (options, arguments) =>
      { r with scope := { r.scope with options := options, arguments := arguments.getD r.scope.arguments } }

def shift : Program := fun args r =>
  let text := args.headD "1"
  match Number.count? text with
  | some n =>
    if n ≤ r.scope.arguments.length then
      { r.withStatus 0 with scope := { r.scope with arguments := r.scope.arguments.drop n, optionAt := 0 } }
    else failIn r "shift" "can\x27t shift that many"
  | none => failIn r "shift" ("Illegal number: " ++ text)

/-- the run with the option that was found: its letter, its value, and where the next one is looked for -/
def foundOption (r : Run) (name letter : String) (value : Option String) (next at' : Nat) : Run :=
  let r := match value with
    | some v => r.put "OPTARG" v
    | none => r.dropVariable "OPTARG"
  let r := r.put "OPTIND" (toString next)
  let r := { r with scope := { r.scope with optionAt := at' } }
  if (r.known name).fixed then refuse r "getopts" (Run.fixedText name) else r.put name letter

/-- takes one option from arguments -/
def getopts : Program := fun args r =>
  match args with
  | form :: name :: given =>
    let arguments := if given.isEmpty then r.scope.arguments else given
    let index := max 1 (((r.value? "OPTIND").bind Number.count?).getD 1)
    let silent := startsWith form ":"
    let at' := r.scope.optionAt
    let current := arguments.getD (index - 1) ""
    let stop := fun (next : Nat) =>
      let r := foundOption r name "?" (r.value? "OPTARG") next 0
      if r.status = 2 && (r.known name).fixed then r else r.withStatus 1
    let inside := at' != 0 && at' < current.length
    if !inside && (arguments.length < index || !startsWith current "-" || current == "-") then stop index
    else if !inside && current == "--" then stop (index + 1)
    else
      let n := if inside then at' else 1
      let letter := (current.toList.drop n).headD ' '
      let behind := current.toList.drop (n + 1)
      let next := if behind.isEmpty then index + 1 else index
      let nextAt := if behind.isEmpty then 0 else n + 1
      let shown := String.singleton letter
      let place := form.toList.findIdx? fun c => c == letter
      let r := r.withStatus 0
      match if letter = ':' then none else place with
      | none =>
        if silent then foundOption r name "?" (some shown) next nextAt
        else foundOption (r.tell ("Illegal option -" ++ shown)) name "?" none next nextAt
      | some i =>
        if (form.toList.drop (i + 1)).head? == some ':' then
          if !behind.isEmpty then foundOption r name shown (some (String.ofList behind)) (index + 1) 0
          else
            match arguments[index]? with
            | some value => foundOption r name shown (some value) (index + 2) 0
            | none =>
              if silent then foundOption r name ":" (some shown) (index + 1) 0
              else foundOption (r.tell ("No arg for -" ++ shown ++ " option")) name "?" none (index + 1) 0
        else foundOption r name shown (some "") next nextAt
  | _ => refuse r "getopts" "Usage: getopts optstring var [arg...]"

/-! ## Input -/

/-- a line with its backslashes worked out: letters, of which those behind a backslash are quoted, and whether the next
line belongs to it -/
def lineLetters : List Char → List Letter × Bool
  | [] => ([], false)
  | '\\' :: cs =>
    match cs with
    | [] => ([], true)
    | ['\n'] => ([], true)
    | c :: rest => let (ls, more) := lineLetters rest; (⟨c, true⟩ :: ls, more)
  | c :: cs => let (ls, more) := lineLetters cs; (⟨c, false⟩ :: ls, more)

/-- the letters of the next line, and whether it had an end; so many lines may belong to it -/
def takeLetters (plain : Bool) (fuel : Nat) (r : Run) : Run × List Letter × Bool :=
  let (r, line) := r.takeLine 0
  let ended := line.getLast? == some 10
  let cs := ((textOf line).toList.filter (· != '\x00'))
  if plain then (r, (cs.filter (· != '\n')).map (⟨·, false⟩), ended)
  else
    let (ls, more) := lineLetters cs
    let ls := ls.filter fun l => l.char != '\n'
    match fuel with
    | fuel + 1 =>
      if more && ended then
        let (r, others, ended) := takeLetters plain fuel r
        (r, ls ++ others, ended)
      else (r, ls, ended)
    | 0 => (r, ls, ended)

/-- a separator that blanks may surround -/
def isSeparator (separators : List Char) (l : Letter) : Bool := !l.quoted && separators.contains l.char

def isSpacing (separators : List Char) (l : Letter) : Bool := isSeparator separators l && Cut.isSpacing l.char

/-- the first field of letters, and what stands behind its separator -/
def takeField (separators : List Char) (ls : List Letter) : List Letter × List Letter :=
  let field := ls.takeWhile fun l => !isSeparator separators l
  let rest := (ls.drop field.length).dropWhile (isSpacing separators)
  match rest with
  | l :: more =>
    if isSeparator separators l && !isSpacing separators l then (field, more.dropWhile (isSpacing separators))
    else (field, rest)
  | [] => (field, [])

/-- the texts of so many variables: each gets a field, and the last one all that is left, without a separator behind it
if it is only one field -/
def shares (separators : List Char) (count : Nat) (ls : List Letter) : List String :=
  match count with
  | 0 => []
  | 1 =>
    let (field, rest) := takeField separators ls
    let whole := (ls.reverse.dropWhile (isSpacing separators)).reverse
    [Letter.text (if rest.isEmpty then field else whole)]
  | n + 1 =>
    let (field, rest) := takeField separators ls
    Letter.text field :: shares separators n rest

/-- puts the fields of a line into variables -/
def read : Program := fun args r =>
  let (plain, prompt, names) := readArguments args
  match names with
  | .error text => refuse r "read" text
  | .ok [] => refuse r "read" "arg count"
  | .ok names =>
    let r := match prompt with
      | some text => r.say 2 (bytesOf text)
      | none => r
    match names.find? fun name => !isName name.toList with
    | some name => refuse r "read" (name ++ ": bad variable name")
    | none =>
      let lines := ((r.stream? 0).map fun c => (r.files.remaining c).length).getD 0
      let (r, ls, ended) := takeLetters plain lines r
      let separators := r.separators
      let texts := shares separators names.length (ls.dropWhile (isSpacing separators))
      (names.zip texts).foldl (fun r (name, text) =>
        if (r.known name).fixed then refuse r "read" (Run.fixedText name) else r.put name text)
        (r.withStatus (if ended then 0 else 1))
where
  /-- whether backslashes are plain letters, what is asked, and the names of variables -/
  readArguments (args : List String) : Bool × Option String × Except String (List String) :=
    match args with
    | [] => (false, none, .ok [])
    | a :: rest =>
      if a == "--" then (false, none, .ok rest)
      else if a == "-p" then
        let (plain, prompt, names) := readArguments (rest.drop 1)
        (plain, prompt.or rest.head?, names)
      else if startsWith a "-" && a != "-" then
        match (a.toList.drop 1).find? (· != 'r') with
        | some c => (false, none, .error (illegalOption c))
        | none => let (_, prompt, names) := readArguments rest; (true, prompt, names)
      else (false, none, .ok args)
  termination_by args.length

end CodeSurvey.Shell.Builtin
