/-
Compiling a module by the first strategy that works.

A strategy says whether it applies and runs; both look at the disk, and a run may change it. `compile` tries the
applicable strategies in order. The first one that succeeds and leaves compiled classes wins; what went wrong with the
others is told when none does.
-/
import CodeSurvey.Classes.ClassGraph

namespace CodeSurvey

/-- a way to compile a module -/
structure Strategy where
  name : String
  applies : Disk → FilePath → Bool
  run : Disk → FilePath → Except SurveyError Unit × Disk

/-- compiled classes and who made them -/
structure CompiledOutput where
  strategy : String
  classDirectories : List FilePath
  deriving DecidableEq, Repr

/-- a result, and the disk after it -/
abbrev WithDisk (α : Type) : Type := Except SurveyError α × Disk

namespace Cascade

/-- what is said when no strategy was tried -/
def noStrategy : String := "no applicable build strategy"

/-- the attempts, told in order -/
def failure (attempts : List String) : SurveyError :=
  .compilationFailed (if attempts.isEmpty then [noStrategy] else attempts)

/-- tries the strategies in order, after the attempts that failed before -/
def tryAll (depth : Nat) (root : FilePath) (attempts : List String) : List Strategy → Disk → WithDisk CompiledOutput
  | [], d => (.error (failure attempts), d)
  | s :: rest, d =>
    if !s.applies d root then tryAll depth root attempts rest d
    else
      match s.run d root with
      | (.error e, d) => tryAll depth root (attempts ++ [s.name ++ ": " ++ e.message]) rest d
      | (.ok (), d) =>
        match d.classDirectories root depth with
        | [] => tryAll depth root (attempts ++ [s.name ++ ": no compiled classes produced"]) rest d
        | directories => (.ok ⟨s.name, directories⟩, d)

/-- compiles a module; classes are looked for down to a depth -/
def compile (strategies : List Strategy) (depth : Nat) (root : FilePath) (d : Disk) : WithDisk CompiledOutput :=
  if d.isDirectory root then tryAll depth root [] strategies d else (.error (.resourceNotFound root), d)

end Cascade

end CodeSurvey
