/-
What differs between two file trees.

A change is a place with what stands there now, or with nothing. Changes come in the order of their places, so a
directory comes before what it holds.
-/
import CodeSurvey.FileTree

namespace CodeSurvey.FileTree

/-- the pairs of the second list that the first one does not hold, and the keys that only the first one holds -/
def changedEntries (old new : List (Place × Entry)) : List (Place × Option Entry) :=
  match old, new with
  | [], new => new.map fun (place, e) => (place, some e)
  | old, [] => old.map fun (place, _) => (place, none)
  | (p, a) :: old, (q, b) :: new =>
    if p < q then (p, none) :: changedEntries old ((q, b) :: new)
    else if q < p then (q, some b) :: changedEntries ((p, a) :: old) new
    else if a = b then changedEntries old new
    else (q, some b) :: changedEntries old new
termination_by old.length + new.length

/-- what makes the second tree from the first -/
def changes (old new : FileTree) : List (Place × Option Entry) :=
  changedEntries old.entries.entries new.entries.entries

end CodeSurvey.FileTree
