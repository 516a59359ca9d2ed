/-
Programs that make, copy and remove files.

Each operand is a change of the disk that may be refused; a refusal is told and gives the program its status, but the
operands behind it are still worked on.
-/
import CodeSurvey.Shell.Options

namespace CodeSurvey.Shell.Files

open Text

/-- the run after a change of the disk, or after telling why it was refused -/
def change (r : Run) (told : String) (result : Except IoFault Disk) : Run :=
  match result with
  | .ok d => r.withDisk d
  | .error fault => r.refuse 1 (told ++ ": " ++ faultWords fault)

/-- the run after a program that lacks an operand -/
def missing (r : Run) (program text : String) : Run :=
  (r.refuse 1 (program ++ ": " ++ text)).tell ("Try '" ++ program ++ " --help' for more information.")

/-- a name as programs tell it -/
def quoted (name : String) : String := "'" ++ name ++ "'"

/-- what a directory holds, in order -/
def children (d : Disk) (place : Place) : List (String × Entry) :=
  (d.tree.below place).filterMap fun (names, e) =>
    match names with
    | [name] => some (ofLetters name, e)
    | _ => none

/-- the path without its last name -/
def directoryName (p : String) : String :=
  let bare := (p.toList.reverse.dropWhile (· == '/')).dropWhile (· != '/')
  let directory := String.ofList (bare.dropWhile (· == '/')).reverse
  if !directory.isEmpty then directory else if startsWith p "/" then "/" else "."

/-- the disk without the place and what is below it -/
def cutAll (d : Disk) (place : Place) : Disk :=
  { d with tree := d.tree.cut place, executable := d.executable.filter fun p => !place.isPrefixOf p }

/-! ## Directories -/

/-- a directory whose own directory is there -/
def makeDirectory (d : Disk) (p : FilePath) : Except IoFault Disk := do
  let place ← d.reach p
  if (d.tree.entryAt? place).isSome then .error .alreadyExists
  d.tree.requireDirectory place.dropLast
  .ok { d with tree := d.tree.put place .directory }

def mkdir : Program :=
  { flags := "pvZ", valued := "m"
    long := [("parents", 'p'), ("verbose", 'v'), ("mode", 'm')] : OptionForm }.program "mkdir" 1 fun g r =>
    if g.operands.isEmpty then missing r "mkdir" "missing operand"
    else
      g.operands.foldl (fun r name =>
        let result := if g.has 'p' then r.disk.makeDirectories (path name) else makeDirectory r.disk (path name)
        let isNew := !r.disk.exists? (path name)
        let r := change r ("mkdir: cannot create directory " ++ quoted name)
          (if name.isEmpty then .error .notFound else result)
        if g.has 'v' && isNew && r.disk.exists? (path name) then
          r.printLines ["mkdir: created directory " ++ quoted name]
        else r) r

/-- the disk without a directory that holds nothing -/
def removeDirectory (d : Disk) (p : FilePath) : Except IoFault Disk := do
  let place ← d.locate p
  if (d.tree.entryAt? place).isNone then .error .notFound
  d.tree.requireDirectory place
  if (d.tree.below place).isEmpty then .ok { d with tree := d.tree.cut place } else .error .directoryNotEmpty

/-- the path and those above it, as it is written -/
def pathsUp (name : String) : List String :=
  let steps := split (String.ofList (name.toList.reverse.dropWhile (· == '/')).reverse) '/'
  ((List.range steps.length).reverse.map fun n => joined "/" (steps.take (n + 1))).filter (!·.isEmpty)

def rmdir : Program :=
  { flags := "pv"
    long := [("parents", 'p'), ("verbose", 'v'), ("ignore-fail-on-non-empty", 'v')] : OptionForm }.program "rmdir" 1
    fun g r =>
      if g.operands.isEmpty then missing r "rmdir" "missing operand"
      else
        (g.operands.flatMap fun name => if g.has 'p' then pathsUp name else [name]).foldl (fun r name =>
          change r ("rmdir: failed to remove " ++ quoted name) (removeDirectory r.disk (path name))) r

/-! ## Files -/

def touch : Program :=
  { flags := "acmfh", valued := "dtr"
    long := [("no-create", 'c'), ("date", 'd'), ("reference", 'r')] : OptionForm }.program "touch" 1 fun g r =>
    if g.operands.isEmpty then missing r "touch" "missing file operand"
    else
      g.operands.foldl (fun r name =>
        let p := path name
        let told := "touch: cannot touch " ++ quoted name
        match r.disk.entry p with
        | .ok _ => r
        | .error fault =>
          if fault = .notFound then
            if g.has 'c' then r
            else change r told (if p.endsOpen then .error .notFound else r.disk.write p [])
          else r.refuse 1 (told ++ ": " ++ faultWords fault)) r

/-- the disk without a file -/
def removeFile (d : Disk) (p : FilePath) : Except IoFault Disk := do
  let place ← d.locate p
  if d.tree.entryAt? place = some .void then .error .notExecutable
  let _ ← d.remove p
  .ok (cutAll d place)

def rm : Program :=
  { flags := "rRfdiIv"
    long := [("recursive", 'r'), ("force", 'f'), ("dir", 'd'), ("verbose", 'v')] : OptionForm }.program "rm" 1
    fun g r =>
      let all := g.has 'r' || g.has 'R'
      let forced := g.has 'f'
      if g.operands.isEmpty then if forced then r else missing r "rm" "missing operand"
      else
        g.operands.foldl (fun r name =>
          let p := path name
          let told := "rm: cannot remove " ++ quoted name
          match r.disk.entry p with
          | .error fault =>
            if forced && (fault = .notFound || fault = .notDirectory) then r
            else r.refuse 1 (told ++ ": " ++ faultWords fault)
          | .ok e =>
            let last := ((split name '/').filter (!·.isEmpty)).getLastD ""
            if e.isDirectory && all && (last == "." || last == "..") then
              r.refuse 1 ("rm: refusing to remove '.' or '..' directory: skipping " ++ quoted name)
            else if e.isDirectory && all then
              change r told ((r.disk.locate p).map (cutAll r.disk))
            else if e.isDirectory && g.has 'd' then change r told (removeDirectory r.disk p)
            else change r told (removeFile r.disk p)) r

/-- the names from one place down to another one -/
def afterPlace (top place : Place) : Option (List String) :=
  if top.isPrefixOf place then some (place.drop top.length) else none

/-- the disk with a copy of all that stands at one place at another one; directories that are there stay -/
def copyAll (d : Disk) (source target : Place) : Disk :=
  match d.tree.entryAt? source with
  | none => d
  | some e =>
    let found := ([], e) :: d.tree.below source
    let executable := d.executable.filterMap fun place => (afterPlace source place).map (target ++ ·)
    let others := d.executable.filter fun place =>
      !found.any fun (names, e) => e.isFile && target ++ names == place
    { d with
      tree := found.foldl (fun t (names, e) => t.put (target ++ names) e) d.tree
      executable := others ++ executable }

/-- the name that a copy gets in a directory -/
def nameIn (source : String) : String :=
  let steps := (split source '/').filter (!·.isEmpty)
  steps.getLastD ""

/-- the path of a name in a directory, as it is written -/
def inDirectory (directory name : String) : String :=
  if endsWith directory "/" then directory ++ name else directory ++ "/" ++ name

/-- what copying and moving do with one source and one target -/
abbrev Transfer := Given → String → String → Run → Run

/-- the program that copies or moves sources to a target; in a directory they keep their names -/
def transferring (program : String) (form : OptionForm) (one : Transfer) : Program :=
  form.program program 1 fun g r =>
    let (sources, target) := match g.value? 't' with
      | some directory => (g.operands, some directory)
      | none => (g.operands.dropLast, if g.operands.length < 2 then none else g.operands.getLast?)
    match g.operands, target with
    | [], _ => missing r program "missing file operand"
    | source :: _, none => missing r program ("missing destination file operand after " ++ quoted source)
    | _, some target =>
      if r.disk.isDirectory (path target) && !g.has 'T' then
        sources.foldl (fun r source => one g source (inDirectory target (nameIn source)) r) r
      else if sources.length = 1 && !(g.value? 't').isSome then
        sources.foldl (fun r source => one g source target r) r
      else
        let fault := match r.disk.entry (path target) with
          | .ok _ => IoFault.notDirectory
          | .error fault => fault
        r.refuse 1 (program ++ ": target " ++ quoted target ++ ": " ++ faultWords fault)

/-- the place of a path whose own directory is there -/
def goal (d : Disk) (p : FilePath) : Except IoFault Place := do
  let place ← d.reach p
  d.tree.requireDirectory place.dropLast
  .ok place

/-- copies one source -/
def copy : Transfer := fun g source target r =>
  let p := path source
  let all := g.has 'r' || g.has 'R' || g.has 'a'
  let shown := quoted source ++ " and " ++ quoted target ++ " are the same file"
  match r.disk.locate p, r.disk.entry p with
  | .ok start, .ok e =>
    if e.isDirectory && !all then r.refuse 1 ("cp: -r not specified; omitting directory " ++ quoted source)
    else
      match goal r.disk (path target) with
      | .error fault =>
        let kind := if e.isDirectory then "directory " else "regular file "
        r.refuse 1 ("cp: cannot create " ++ kind ++ quoted target ++ ": " ++ faultWords fault)
      | .ok place =>
        let there := r.disk.tree.entryAt? place
        if there.isSome && g.has 'n' then r
        else if start = place && !e.isDirectory then r.refuse 1 ("cp: " ++ shown)
        else if e.isDirectory then
          if start.isPrefixOf place then
            r.refuse 1 ("cp: cannot copy a directory, " ++ quoted source ++ ", into itself, " ++ quoted target)
          else if (there.map Entry.isDirectory) == some false then
            r.refuse 1 ("cp: cannot overwrite non-directory " ++ quoted target ++ " with directory " ++ quoted source)
          else r.withDisk (copyAll r.disk start place)
        else if (there.map Entry.isDirectory) == some true then
          r.refuse 1 ("cp: cannot overwrite directory " ++ quoted target ++ " with non-directory")
        else if (path target).endsOpen then
          r.refuse 1 ("cp: cannot create regular file " ++ quoted target ++ ": Not a directory")
        else
          match e.content? with
          | some content =>
            let r := change r ("cp: cannot create regular file " ++ quoted target)
              (r.disk.write (path target) content)
            if there.isNone && r.disk.executable.contains start then
              r.withDisk { r.disk with executable := place :: r.disk.executable }
            else r
          | none => r
  | .error fault, _ | _, .error fault =>
    r.refuse 1 ("cp: cannot stat " ++ quoted source ++ ": " ++ faultWords fault)

def cp : Program :=
  transferring "cp"
    { flags := "rRafpnuvTidLPHx", valued := "t"
      long := [("recursive", 'r'), ("archive", 'a'), ("force", 'f'), ("no-clobber", 'n'), ("verbose", 'v'),
        ("no-target-directory", 'T'), ("target-directory", 't'), ("update", 'u'), ("preserve", 'p')] }
    fun g source target r =>
      let before := r.status
      let r := copy g source target (r.withStatus 0)
      let r := if r.status = 0 && g.has 'v' then r.printLines [quoted source ++ " -> " ++ quoted target] else r
      if r.status = 0 then r.withStatus before else r

/-- moves one source -/
def move : Transfer := fun g source target r =>
  let p := path source
  match r.disk.locate p, r.disk.entry p with
  | .ok start, .ok e =>
    let told := "mv: cannot move " ++ quoted source ++ " to " ++ quoted target
    match goal r.disk (path target) with
    | .error fault => r.refuse 1 (told ++ ": " ++ faultWords fault)
    | .ok place =>
      let there := r.disk.tree.entryAt? place
      if there.isSome && g.has 'n' then r
      else if start = place then
        r.refuse 1 ("mv: " ++ quoted source ++ " and " ++ quoted target ++ " are the same file")
      else if start.isPrefixOf place then
        r.refuse 1 ("mv: cannot move " ++ quoted source ++ " to a subdirectory of itself, " ++ quoted target)
      else if e.isDirectory && (there.map Entry.isDirectory) == some false then
        r.refuse 1 ("mv: cannot overwrite non-directory " ++ quoted target ++ " with directory " ++ quoted source)
      else if !e.isDirectory && (there.map Entry.isDirectory) == some true then
        r.refuse 1 ("mv: cannot overwrite directory " ++ quoted target ++ " with non-directory")
      else if !e.isDirectory && (path target).endsOpen then r.refuse 1 (told ++ ": Not a directory")
      else if there.isSome && !(r.disk.tree.below place).isEmpty then r.refuse 1 (told ++ ": Directory not empty")
      else
        let cleared := { r.disk with
          tree := if there = some .void then r.disk.tree else r.disk.tree.cut place
          executable := r.disk.executable.filter (· != place) }
        let copied := copyAll cleared start place
        r.withDisk (cutAll copied start)
  | .error fault, _ | _, .error fault =>
    r.refuse 1 ("mv: cannot stat " ++ quoted source ++ ": " ++ faultWords fault)

def mv : Program :=
  transferring "mv"
    { flags := "fnuviT", valued := "t"
      long := [("force", 'f'), ("no-clobber", 'n'), ("verbose", 'v'), ("no-target-directory", 'T'),
        ("target-directory", 't')] }
    move

/-- links are copies: nothing tells them apart until one of them is changed -/
def ln : Program := fun args r =>
  { flags := "sfnvTrP", valued := "t"
    long := [("symbolic", 's'), ("force", 'f'), ("no-dereference", 'n')] : OptionForm }.program "ln" 1 (fun g r =>
      match g.operands with
      | [] => missing r "ln" "missing file operand"
      | source :: rest =>
        let target := rest.headD (nameIn source)
        let target := if r.disk.isDirectory (path target) then inDirectory target (nameIn source) else target
        let kind := if g.has 's' then "symbolic" else "hard"
        let told := "ln: failed to create " ++ kind ++ " link " ++ quoted target
        if r.disk.exists? (path target) && !g.has 'f' then r.refuse 1 (told ++ ": File exists")
        else if g.has 's' then
          let from' := if FilePath.isAbsoluteText source then path source
            else (path (directoryName target)).join (toLetters source)
          match r.disk.locate from', goal r.disk (path target) with
          | .ok start, .ok place => r.withDisk (copyAll r.disk start place)
          | _, .error fault => r.refuse 1 (told ++ ": " ++ faultWords fault)
          | _, _ => r
        else if !r.disk.exists? (path source) then
          r.refuse 1 ("ln: failed to access " ++ quoted source ++ ": No such file or directory")
        else if r.disk.isDirectory (path source) then
          r.refuse 1 ("ln: " ++ source ++ ": hard link not allowed for directory")
        else
          match r.disk.locate (path source), goal r.disk (path target) with
          | .ok start, .ok place => r.withDisk (copyAll r.disk start place)
          | _, .error fault => r.refuse 1 (told ++ ": " ++ faultWords fault)
          | _, _ => r) args r

/-! ## Modes -/

/-- what a mode says about running a file: nothing where it leaves that open, and no mode where it is none -/
def runnable? (mode : String) : Option (Option Bool) :=
  let cs := mode.toList
  if !cs.isEmpty && cs.all fun c => '0' ≤ c && c ≤ '7' then some (some (cs.any fun c => c.toNat % 2 = 1))
  else (split mode ',').foldl (fun found clause => found.bind fun before => (clauseRuns clause).map (·.or before)) (some none)
where
  /-- what a clause with letters says -/
  clauseRuns (clause : String) : Option (Option Bool) :=
    let who := clause.toList.takeWhile fun c => ['u', 'g', 'o', 'a'].contains c
    match clause.toList.drop who.length with
    | sign :: what =>
      if !(what.all fun c => ['r', 'w', 'x', 'X', 's', 't'].contains c) then none
      else
        let runs := what.contains 'x'
        let all := who.isEmpty || who.contains 'a'
        match sign with
        | '+' => some (if runs then some true else none)
        | '-' => some (if runs && all then some false else none)
        | '=' => some (if runs then some true else if all then some false else none)
        | _ => none
    | [] => none

/-- the disk on which files may be run or not -/
def markRunnable (d : Disk) (places : List Place) (runs : Bool) : Disk :=
  let others := d.executable.filter fun place => !places.contains place
  { d with executable := if runs then places ++ others else others }

def chmod : Program := fun args r =>
  let isMode := fun (a : String) => startsWith a "-" && (runnable? a).isSome && a != "-"
  let (modes, rest) := args.partition isMode
  { flags := "Rvcf", long := [("recursive", 'R'), ("verbose", 'v'), ("changes", 'c')] : OptionForm }.program "chmod" 1
    (fun g r =>
      match modes ++ g.operands with
      | [] => missing r "chmod" "missing operand"
      | [mode] => missing r "chmod" ("missing operand after " ++ quoted mode)
      | mode :: files =>
        match runnable? mode with
        | none => missing r "chmod" ("invalid mode: " ++ quoted mode)
        | some runs =>
          files.foldl (fun r file =>
            match r.disk.entry (path file), r.disk.locate (path file) with
            | .ok e, .ok place =>
              let below := if g.has 'R' then
                (r.disk.tree.below place).filterMap fun (names, e) => if e.isFile then some (place ++ names) else none
                else []
              let places := (if e.isFile then [place] else []) ++ below
              match runs with
              | some runs => r.withDisk (markRunnable r.disk places runs)
              | none => r
            | .error fault, _ | _, .error fault =>
              r.refuse 1 ("chmod: cannot access " ++ quoted file ++ ": " ++ faultWords fault)) r) rest r

/-- copies files and lets them be run, or makes directories -/
def install : Program := fun args r =>
  { flags := "dDpvcsT", valued := "mogt"
    long := [("directory", 'd'), ("mode", 'm'), ("target-directory", 't')] : OptionForm }.program "install" 1 (fun g r =>
      let runs := ((g.value? 'm').bind runnable?).getD (some true)
      if g.has 'd' then
        g.operands.foldl (fun r name =>
          change r ("install: cannot create directory " ++ quoted name) (r.disk.makeDirectories (path name))) r
      else
        let target := (g.value? 't').getD (g.operands.getLastD "")
        let sources := if (g.value? 't').isSome then g.operands else g.operands.dropLast
        let r := if g.has 'D' then
          let directory := if (g.value? 't').isSome then path target else path (directoryName target)
          r.withDisk ((r.disk.makeDirectories directory).toOption.getD r.disk)
          else r
        sources.foldl (fun r source =>
          let target := if r.disk.isDirectory (path target) then inDirectory target (nameIn source) else target
          let r := copy ⟨[], []⟩ source target r
          match r.disk.locate (path target), runs with
          | .ok place, some runs => r.withDisk (markRunnable r.disk [place] runs)
          | _, _ => r) r) args r

/-- cuts files to a size, or makes them longer with zeros -/
def truncate : Program :=
  { flags := "c", valued := "s", long := [("size", 's'), ("no-create", 'c')] : OptionForm }.program "truncate" 1
    fun g r =>
      match (g.value? 's').bind fun t => t.toInt? with
      | none => r.refuse 1 "truncate: you must specify either '--size' or '--reference'"
      | some n =>
        let size := (g.value? 's').getD ""
        g.operands.foldl (fun r name =>
          let before := (r.disk.readBytes (path name)).toOption.getD []
          let length := if startsWith size "+" || startsWith size "-" then ((before.length : Int) + n).toNat else n.toNat
          let after := before.take length ++ List.replicate (length - before.length) 0
          change r ("truncate: cannot open " ++ quoted name ++ " for writing") (r.disk.write (path name) after)) r

/-! ## Lists -/

/-- the entry as a list shows it -/
def shownEntry (g : Given) (name : String) (e : Entry) : String :=
  if e.isDirectory && (g.has 'F' || g.has 'p') then name ++ "/" else name

/-- the lines for what a directory holds -/
def listing (g : Given) (d : Disk) (place : Place) : List String :=
  let hidden := g.has 'a' || g.has 'A'
  let found := (children d place).filter fun (name, _) => hidden || !startsWith name "."
  let found := if g.has 'a' then (".", Entry.directory) :: ("..", Entry.directory) :: found else found
  let found := if g.has 'r' then found.reverse else found
  found.map fun (name, e) => shownEntry g name e

/-- the lines for a directory and those below it -/
def listingBelow (g : Given) (d : Disk) (name : String) (place : Place) : List (String × List String) :=
  let hidden := g.has 'a' || g.has 'A'
  let deeper := (d.tree.below place).filter fun (names, e) =>
    e.isDirectory && (hidden || !names.any fun n => startsWith n ".")
  (name, listing g d place) :: deeper.map fun (names, _) =>
    (names.foldl (fun p n => inDirectory p (ofLetters n)) name, listing g d (place ++ names))

def ls : Program := fun args r =>
  { flags := "1aAdFprRltShinosuxCgGkLmNqQUXZ"
    long := [("all", 'a'), ("almost-all", 'A'), ("directory", 'd'), ("recursive", 'R'), ("reverse", 'r'),
      ("color", 'k')] : OptionForm }.program "ls" 2 (fun g r =>
      let operands := if g.operands.isEmpty then ["."] else (g.operands.mergeSort fun a b => decide (a ≤ b))
      let found := operands.filterMap fun name =>
        match r.disk.entry (path name), r.disk.locate (path name) with
        | .ok e, .ok place => some (name, e, place)
        | _, _ => none
      let r := operands.foldl (fun r name =>
        match r.disk.entry (path name) with
        | .ok _ => r
        | .error fault => r.refuse 2 ("ls: cannot access " ++ quoted name ++ ": " ++ faultWords fault)) r
      let isPlain := fun (e : Entry) => g.has 'd' || !e.isDirectory
      let files := (found.filter fun (_, e, _) => isPlain e).map fun (name, e, _) => shownEntry g name e
      let parts := (found.filter fun (_, e, _) => !isPlain e).flatMap fun (name, _, place) =>
        if g.has 'R' then listingBelow g r.disk name place else [(name, listing g r.disk place)]
      let headed := g.has 'R' || 1 < g.operands.length
      let blocks := (if files.isEmpty then [] else [files]) ++ parts.map fun (name, lines) =>
        (if headed then [name ++ ":"] else []) ++ lines
      r.printLines ([""].intercalate blocks)) args r

/-- a path from the top, without steps that lead back -/
def realpath (program : String) : Program :=
  { flags := "femqsLPnz", long := [("canonicalize", 'f'), ("canonicalize-existing", 'e')] : OptionForm }.program program 1
    fun g r =>
      g.operands.foldl (fun r name =>
        let mustBe := g.has 'e'
        match r.disk.reach (path name) with
        | .ok place =>
          if (mustBe && (r.disk.tree.entryAt? place).isNone)
              || (r.disk.tree.requireDirectory place.dropLast).toOption.isNone then
            if program == "realpath" then r.refuse 1 (program ++ ": " ++ name ++ ": No such file or directory")
            else r.withStatus 1
          else if program == "readlink" && !g.has 'f' && !mustBe && !g.has 'm' then r.withStatus 1
          else r.printLines [shownPlace place]
        | .error fault =>
          if program == "realpath" then r.refuse 1 (program ++ ": " ++ name ++ ": " ++ faultWords fault)
          else r.withStatus 1) r

/-- the programs by their names -/
def program? (name : String) : Option Program :=
  match name with
  | "mkdir" => some mkdir
  | "rmdir" => some rmdir
  | "touch" => some touch
  | "rm" => some rm
  | "cp" => some cp
  | "mv" => some mv
  | "ln" => some ln
  | "chmod" => some chmod
  | "install" => some install
  | "truncate" => some truncate
  | "ls" => some ls
  | "realpath" => some (realpath "realpath")
  | "readlink" => some (realpath "readlink")
  | _ => none

end CodeSurvey.Shell.Files
