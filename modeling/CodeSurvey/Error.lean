/-
What can go wrong.

An `IoFault` is a refusal of the file tree, a `SurveyError` a failure of the survey itself, and a `RunError` says in
which part of a run such a failure ended it. Each names its cause; `message` holds all wording, so that a text is
written in one place. What is done in steps has a result exactly if each step has one (`bind_ok_iff`).
-/
import CodeSurvey.Path

namespace CodeSurvey

/-! ## Results -/

/-- a sequence has a result exactly if both of its parts have one -/
theorem bind_ok_iff {ε α β : Type} {x : Except ε α} {f : α → Except ε β} {b : β} :
    (x >>= f) = .ok b ↔ ∃ a, x = .ok a ∧ f a = .ok b := by
  cases x with
  | error fault => simp [bind, Except.bind]
  | ok a => simp [bind, Except.bind]

/-- the same where the first part only makes sure of something -/
theorem then_ok_iff {ε β : Type} {x : Except ε Unit} {f : Unit → Except ε β} {b : β} :
    (x >>= f) = .ok b ↔ x = .ok () ∧ f () = .ok b := by
  rw [bind_ok_iff]
  exact ⟨fun ⟨_, hx, hf⟩ => ⟨hx, hf⟩, fun ⟨hx, hf⟩ => ⟨(), hx, hf⟩⟩

theorem map_ok_iff {ε α β : Type} {x : Except ε α} {f : α → β} {b : β} :
    x.map f = .ok b ↔ ∃ a, x = .ok a ∧ f a = b := by
  cases x with
  | error fault => simp [Except.map]
  | ok a => simp [Except.map]

/-! ## Failures -/

/-- a refusal of the file tree -/
inductive IoFault where
  | notFound
  | alreadyExists
  | notDirectory
  | isDirectory
  | notExecutable
  | directoryNotEmpty
  | unknownFormat
  | nameTooLong
  | nulInName
  | nulInArgument
  | notUtf8
  | other (text : String)
  deriving DecidableEq, Repr

def IoFault.message : IoFault → String
  | .notFound => "No such file or directory (os error 2)"
  | .unknownFormat => "Exec format error (os error 8)"
  | .notExecutable => "Permission denied (os error 13)"
  | .alreadyExists => "File exists (os error 17)"
  | .notDirectory => "Not a directory (os error 20)"
  | .isDirectory => "Is a directory (os error 21)"
  | .nameTooLong => "File name too long (os error 36)"
  | .nulInName => "file name contained an unexpected NUL byte"
  | .nulInArgument => "nul byte found in provided data"
  | .directoryNotEmpty => "Directory not empty (os error 39)"
  | .notUtf8 => "stream did not contain valid UTF-8"
  | .other text => text

/-- a failure of the survey -/
inductive SurveyError where
  | resourceNotFound (path : FilePath)
  | compilationFailed (attempts : List String)
  | buildAttempt (reason : String)
  | classpathScan (reason : String)
  | sourceUnreadable (path : FilePath) (reason : String)
  | configuration (reason : String)
  | descriptor (reason : String)
  | io (fault : IoFault)
  | serialization (reason : String)
  | pattern (reason : String)
  deriving DecidableEq, Repr

def SurveyError.message : SurveyError → String
  | .resourceNotFound path => "Resource not found: " ++ path.text
  | .compilationFailed attempts =>
    "Compilation failed after " ++ toString attempts.length ++ " attempt(s): " ++ Text.joined "; " attempts
  | .buildAttempt reason => "Build attempt failed: " ++ reason
  | .classpathScan reason => "Classpath scan failed: " ++ reason
  | .sourceUnreadable path reason => "Could not read source " ++ path.text ++ ": " ++ reason
  | .configuration reason => "Configuration error: " ++ reason
  | .descriptor reason => "Build descriptor error: " ++ reason
  | .io fault => "IO error: " ++ fault.message
  | .serialization reason => "Serialization error: " ++ reason
  | .pattern reason => "Pattern error: " ++ reason

/-- why a run ended -/
inductive RunError where
  | configurationNotLoaded (cause : SurveyError)
  | configurationNotReloaded (cause : SurveyError)
  | directoryNotCreated (path : FilePath) (fault : IoFault)
  | fileNotWritten (path : FilePath) (cause : SurveyError)
  | fileExists (path : FilePath)
  deriving DecidableEq, Repr

def RunError.message : RunError → String
  | .configurationNotLoaded _ => "Failed to load configuration"
  | .configurationNotReloaded _ => "Failed to reload configuration"
  | .directoryNotCreated path _ => "Failed to create " ++ path.text
  | .fileNotWritten path _ => "Failed to write " ++ path.text
  | .fileExists path => path.text ++ " already exists"

/-- the failure behind the end of a run -/
def RunError.cause? : RunError → Option SurveyError
  | .configurationNotLoaded cause => some cause
  | .configurationNotReloaded cause => some cause
  | .directoryNotCreated _ fault => some (.io fault)
  | .fileNotWritten _ cause => some cause
  | .fileExists _ => none

end CodeSurvey
