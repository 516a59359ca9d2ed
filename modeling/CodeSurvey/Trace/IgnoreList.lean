/-
Method names that never become edges.

Each pattern of the list must fit a whole name, case not counting. A list with a pattern that cannot be read is refused.
-/
import CodeSurvey.Error
import CodeSurvey.Written.Reading

namespace CodeSurvey

/-- patterns of names that are left out -/
structure IgnoreList where
  patterns : List Regular

namespace IgnoreList

/-- the pattern that fits whole names -/
def wholeName (pattern : String) : String := "(?i)^(?:" ++ pattern ++ ")$"

/-- the pattern of one entry -/
def readEntry (pattern : String) : Except SurveyError Regular :=
  match Written.read? (wholeName pattern) with
  | some p => .ok p
  | none => .error (.pattern pattern)

def read (patterns : List String) : Except SurveyError IgnoreList :=
  (patterns.mapM readEntry).map IgnoreList.mk

/-- some pattern fits the name -/
def ignores (l : IgnoreList) (name : String) : Bool := l.patterns.any (·.occurs name)

end IgnoreList

end CodeSurvey
