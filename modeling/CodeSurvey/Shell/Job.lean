/-
Commands that run beside others.

Such a job is run when its end counts: when someone waits for it, when time went by until its end, or when another
program starts, which a job without pauses is always ahead of. Jobs end in the order of their times.
-/
import CodeSurvey.Shell.Signal

namespace CodeSurvey.Shell

namespace Job

/-- the run in which the job has come to its end, as the job sees it -/
def whole (deeper : Deeper) (r : Run) (j : Job) : Run :=
  let files := { r.files with disk := { r.files.disk with here := j.place } }
  (deeper ⟨[j.commands], true⟩
    { r with files := files, scope := j.scope, elapsed := j.start, status := 0, flow := .onward }).conclude deeper

/-- the job is not over -/
def isOpen (j : Job) : Bool := j.ending.isNone

end Job

namespace Run

/-- the run after the end of a job, which took what time it took -/
def afterJob (r : Run) (process : Nat) (whole : Run) : Run :=
  { r.absorb whole with
    status := r.status, elapsed := r.elapsed, flow := r.flow
    jobs := whole.jobs.map fun j => if j.process = process then { j with ending := some whole.ending } else j }

/-- the open job that ends first, of those that count, with the run at its end -/
def firstEnd (deeper : Deeper) (counts : Job → Bool) (r : Run) : Option (Job × Run) :=
  ((r.jobs.filter fun j => j.isOpen && counts j).map fun j => (j, j.whole deeper r)).foldl
    (fun best found =>
      match best with
      | none => some found
      | some (_, whole) => if found.2.elapsed < whole.elapsed then some found else best) none

/-- the run after the jobs that end up to some time; jobs that jobs start count too -/
def settleTo (deeper : Deeper) (fuel time : Nat) (r : Run) : Run :=
  match fuel with
  | 0 => r
  | fuel + 1 =>
    match r.firstEnd deeper fun _ => true with
    | none => r
    | some (j, whole) =>
      if whole.elapsed ≤ time && whole.ending != .timedOut then settleTo deeper fuel time (r.afterJob j.process whole)
      else r

/-- how many jobs are looked at when some end -/
def jobsAtOnce : Nat := 64

/-- the run after the jobs that have ended -/
def settleJobs (deeper : Deeper) (r : Run) : Run :=
  if r.jobs.any Job.isOpen then r.settleTo deeper jobsAtOnce r.elapsed else r

/-- the run at the end of the jobs that count -/
def awaitJobs (deeper : Deeper) (counts : Job → Bool) (fuel : Nat) (r : Run) : Run :=
  match fuel with
  | 0 => r
  | fuel + 1 =>
    match r.firstEnd deeper counts with
    | none => r
    | some (j, whole) =>
      let r := if whole.elapsed = 0 then r else r.settleTo deeper jobsAtOnce (whole.elapsed - 1)
      let whole := j.whole deeper r
      let r := { r.afterJob j.process whole with elapsed := max r.elapsed whole.elapsed }
      if whole.ending = .timedOut || r.elapsed ≥ r.limit then r.finish .timedOut
      else awaitJobs deeper counts fuel r

/-- the run at the end of the jobs that could still write to a channel -/
def awaitWriters (deeper : Deeper) (channels : List Nat) (r : Run) : Run :=
  if r.jobs.any Job.isOpen then
    r.awaitJobs deeper (fun j => j.scope.streams.any fun (stream, c) => stream != 0 && channels.contains c) jobsAtOnce
  else r

/-- the run with commands that run beside it -/
def begin (r : Run) (commands : Command) : Run :=
  let inner := r.fork.openStream 0 .void
  let job : Job :=
    { process := inner.scope.process, owner := r.scope.process, start := r.elapsed, place := r.disk.here
      commands := commands, scope := { inner.scope with above := [] }, ending := none }
  { r with
    files := inner.files, processes := inner.processes, jobs := r.jobs ++ [job], status := 0
    scope := { r.scope with lastJob := some job.process } }

end Run

end CodeSurvey.Shell
