/-
Signals, and what is left to do at an end.

A process that receives a signal ends, unless it set a trap for it or the signal means nothing. Signals are taken
between two commands. `Run.conclude` ends a shell: it runs what the shell left to do at its end.
-/
import CodeSurvey.Shell.Run

namespace CodeSurvey.Shell

open Text

namespace Signal

/-- signals by their names -/
def names : List (String × Nat) :=
  [("HUP", 1), ("INT", 2), ("QUIT", 3), ("ILL", 4), ("TRAP", 5), ("ABRT", 6), ("BUS", 7), ("FPE", 8), ("KILL", 9),
    ("USR1", 10), ("SEGV", 11), ("USR2", 12), ("PIPE", 13), ("ALRM", 14), ("TERM", 15), ("STKFLT", 16), ("CHLD", 17),
    ("CONT", 18), ("STOP", 19), ("TSTP", 20), ("TTIN", 21), ("TTOU", 22), ("URG", 23), ("XCPU", 24), ("XFSZ", 25),
    ("VTALRM", 26), ("PROF", 27), ("WINCH", 28), ("IO", 29), ("PWR", 30), ("SYS", 31)]

/-- the name of a signal -/
def name? (n : Nat) : Option String := (names.find? (·.2 = n)).map (·.1)

/-- signals that a process passes over -/
def passed : List Nat := [0, 17, 18, 23, 28]

/-- signals that stop a process until its time is over -/
def stopping : List Nat := [19, 20, 21, 22]

/-- the largest number of a signal -/
def last : Nat := 64

/-- the number of a signal as an argument writes it; the end of a script counts as signal 0 -/
def number? (text : String) : Option Nat :=
  let name := String.ofList (text.toList.map Char.toUpper)
  if name == "EXIT" then some 0
  else (names.lookup name).or ((Number.count? text).filter (· ≤ last))

/-- what is said about a process that a signal ended -/
def farewell (n : Nat) : String :=
  match n with
  | 1 => "Hangup"
  | 3 => "Quit"
  | 4 => "Illegal instruction"
  | 5 => "Trace/breakpoint trap"
  | 6 => "Aborted"
  | 7 => "Bus error"
  | 8 => "Floating point exception"
  | 9 => "Killed"
  | 10 => "User defined signal 1"
  | 11 => "Segmentation fault"
  | 12 => "User defined signal 2"
  | 14 => "Alarm clock"
  | 15 => "Terminated"
  | _ => ""

end Signal

namespace Run

/-- the run in its script, with the status that it had before -/
def act (deeper : Deeper) (action : String) (r : Run) : Run :=
  let after := deeper (Script.read action) { r with scope := { r.scope with tested := true } }
  { after with
    status := if after.flow == .onward then r.status else after.status
    scope := { after.scope with tested := r.scope.tested } }

/-- the run that receives a signal -/
def receive (deeper : Deeper) (r : Run) (signal : Nat) : Run :=
  if !r.goesOn then r
  else
    match if signal = 9 || signal = 19 then none else r.scope.traps.lookup signal with
    | some action => if action.isEmpty then r else r.act deeper action
    | none =>
      if Signal.passed.contains signal then r
      else r.finish (if Signal.stopping.contains signal then .timedOut else .killed signal)

/-- the run after the signals that are there for its process -/
def takeSignals (deeper : Deeper) (r : Run) : Run :=
  if r.signals.isEmpty then r
  else
    let (mine, others) := r.signals.partition (·.1 = r.scope.process)
    mine.foldl (fun r (_, signal) => r.receive deeper signal) { r with signals := others }

/-- the run after its script has ended, with what the script left to do at its end -/
def conclude (deeper : Deeper) (r : Run) : Run :=
  match r.ending, r.scope.traps.lookup 0 with
  | .exited n, some action =>
    let traps := r.scope.traps.filter (·.1 != 0)
    let last := deeper (Script.read action)
      { r with
        flow := .onward, status := n
        scope := { r.scope with traps := traps, loops := 0, inFunction := false, tested := false } }
    match last.flow with
    | .ended _ => last
    | _ => last.finish (.exited n)
  | e, _ => r.finish e

end Run

end CodeSurvey.Shell
