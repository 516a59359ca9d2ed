/-
Build commands.

A command is a program with its arguments. It runs in a directory for a limited time; anything but an exit with status
zero is a failed attempt that names the command.
-/
import CodeSurvey.Shell.Execution

namespace CodeSurvey

open Text

/-- a program and its arguments -/
structure BuildCommand where
  program : String
  args : List String
  deriving DecidableEq, Repr

namespace BuildCommand

/-- the command that runs a script through the shell, so that the script need not be executable -/
def script (p : FilePath) (args : List String) : BuildCommand := ⟨"sh", p.text :: args⟩

/-- the command as shown -/
def text (c : BuildCommand) : String := joined " " (c.program :: c.args)

/-- the name of a signal -/
def signalName? (n : Nat) : Option String :=
  (Shell.Signal.name? n).map fun name => "SIG" ++ name

/-- how a program ended, as shown -/
def endingText : Shell.Ending → String
  | .exited status => "exit status: " ++ toString status
  | .killed n =>
    match signalName? n with
    | some name => "signal: " ++ toString n ++ " (" ++ name ++ ")"
    | none => "signal: " ++ toString n
  | .timedOut => "timeout"

/-- the outcome of a program that was started -/
def outcome (c : BuildCommand) (limit : Nat) (e : Shell.Ending) : Except SurveyError Unit :=
  if e = .exited 0 then .ok ()
  else if e = .timedOut then .error (.buildAttempt (c.text ++ " timed out after " ++ toString (limit / 1000) ++ "s"))
  else .error (.buildAttempt (c.text ++ " exited with " ++ endingText e))

/-- the disk as a program sees it that runs in the directory -/
def enter (d : Disk) (directory : FilePath) : Except IoFault Disk := do
  let place ← d.locate directory
  d.tree.requireDirectory place
  .ok { d with here := place }

/-- no text that a program is started with can hold the character that ends texts -/
def requireTexts (texts : List String) : Except IoFault Unit :=
  if texts.any (·.contains '\x00') then .error .nulInArgument else .ok ()

/-- what is left of starting the command in a directory, for at most so many milliseconds -/
def begin (c : BuildCommand) (directory : FilePath) (limit : Nat) (d : Disk) : Except IoFault Shell.Run := do
  requireTexts (directory.text :: c.program :: c.args)
  Shell.start (← enter d directory) limit c.program c.args

/-- runs the command in a directory for at most so many milliseconds -/
def run (c : BuildCommand) (directory : FilePath) (limit : Nat) (d : Disk) : Except SurveyError Unit × Disk :=
  match c.begin directory limit d with
  | .error fault => (.error (.buildAttempt ("could not start " ++ c.text ++ ": " ++ fault.message)), d)
  | .ok r => (c.outcome limit (r.ending), { r.disk with here := d.here })

end BuildCommand

end CodeSurvey
