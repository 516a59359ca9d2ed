/-
What writing leaves at each place.

A file that is written changes its own place and no other (`entryAt?_writeFile`): the place then holds the file, unless
what stands there keeps nothing. Making directories takes nothing away: a place that held something holds it still, and
what is new is a directory at the place asked for or above it (`entryAt?_makeDirectories`). On a disk both act at the
place that the path spells, and the working directory stays, so a path means the same place before and after
(`write_ok`, `makeDirectories_ok`).

Writing a file leaves every directory where it was, so the path that led to the file still does (`locate_write`); what
is read there is what was written (`readText_write`), unless what stands there keeps nothing.
-/
import CodeSurvey.Proofs.Project.PathBelow
import CodeSurvey.Proofs.Project.Reach
import CodeSurvey.Proofs.Text.Utf8

namespace CodeSurvey

open Text

/-- what stands at a place after a file was written there -/
def Entry.written (before : Option Entry) (content : Bytes) : Entry :=
  if before = some .void then .void else .file content

theorem Entry.written_written (before : Option Entry) (earlier content : Bytes) :
    written (some (written before earlier)) content = written before content := by
  by_cases h : before = some .void <;> simp [written, h]

namespace FileTree

theorem entryAt?_put (t : FileTree) {place : Place} (hne : place ≠ []) (e : Entry) (q : Place) :
    (t.put place e).entryAt? q = if q = place then some e else t.entryAt? q := by
  by_cases hq : q = []
  · simp [entryAt?, hq, Ne.symm hne]
  · simp [entryAt?, put, hq, Ordered.get?_insert]

/-- A file that was written stands at its place, and nothing else changed. -/
theorem entryAt?_writeFile {t t' : FileTree} {place : Place} {content : Bytes}
    (h : t.writeFile place content = .ok t') (q : Place) :
    t'.entryAt? q = if q = place then some (Entry.written (t.entryAt? place) content) else t.entryAt? q := by
  obtain ⟨hne, -, -, rfl⟩ := writeFile_ok_iff.1 h
  by_cases hvoid : t.entryAt? place = some .void
  · rw [if_pos hvoid, Entry.written, if_pos hvoid]
    by_cases hq : q = place
    · rw [if_pos hq, hq, hvoid]
    · rw [if_neg hq]
  · rw [if_neg hvoid, entryAt?_put t hne, Entry.written, if_neg hvoid]

/-- a tree that has what another one has, and directories at or above a place -/
def Grows (place : Place) (t t' : FileTree) : Prop :=
  ∀ q, t'.entryAt? q = t.entryAt? q ∨ (q <+: place ∧ t.entryAt? q = none ∧ t'.entryAt? q = some .directory)

theorem Grows.refl (place : Place) (t : FileTree) : Grows place t t := fun _ => .inl rfl

theorem Grows.trans {place : Place} {t t' t'' : FileTree} (h : Grows place t t') (h' : Grows place t' t'') :
    Grows place t t'' := by
  intro q
  rcases h q with hsame | ⟨hpre, hnone, hnew⟩
  · rw [← hsame]
    exact h' q
  · rcases h' q with hsame | ⟨-, habsent, -⟩
    · exact .inr ⟨hpre, hnone, hsame.trans hnew⟩
    · cases hnew.symm.trans habsent

/-- Making directories takes nothing away. -/
theorem grows_makeDirectories {t t' : FileTree} {place : Place} (h : t.makeDirectories place = .ok t') :
    Grows place t t' := by
  unfold makeDirectories at h
  generalize List.range place.length = depths at h
  induction depths generalizing t with
  | nil =>
    obtain rfl := Except.ok.inj h
    exact Grows.refl place t
  | cons n depths ih =>
    rw [List.foldlM_cons] at h
    obtain ⟨next, hnext, hothers⟩ := bind_ok_iff.1 h
    refine Grows.trans ?_ (ih hothers)
    split at hnext
    · exact Except.ok.inj hnext ▸ Grows.refl place t
    · cases hnext
    · rename_i hentry
      obtain ⟨-, -, rfl⟩ := map_ok_iff.1 hnext
      have hne : place.take (n + 1) ≠ [] := by
        intro hnil
        rw [entryAt?, if_pos hnil] at hentry
        cases hentry
      intro q
      rw [entryAt?_put t hne]
      by_cases hq : q = place.take (n + 1)
      · exact .inr ⟨hq ▸ List.take_prefix _ _, hq ▸ hentry, if_pos hq⟩
      · exact .inl (if_neg hq)

end FileTree

namespace Disk

variable {d d' : Disk}

/-- A text of plain names read in a directory goes down by these names. -/
theorem target_join {p : FilePath} {s : String} (h : (split s '/').all FilePath.isPlainName = true) :
    d.target (p.join s) = d.target p ++ split s '/' := by
  obtain ⟨first, more, hsplit⟩ := List.exists_cons_of_ne_nil (FilePath.split_ne_nil s)
  have hrelative : FilePath.isAbsoluteText s = false := by
    rw [Bool.eq_false_iff]
    intro habsolute
    obtain rfl := FilePath.first_of_absolute habsolute hsplit
    have hfirst := List.all_eq_true.1 h "" (by rw [hsplit]; exact List.mem_cons_self)
    exact absurd hfirst (by decide)
  rw [FilePath.join, hrelative, if_neg Bool.false_ne_true, if_pos h, target_descend]

/-- A file that was written stands where its path leads. -/
theorem write_ok {p : FilePath} {content : Bytes} (h : d.write p content = .ok d') :
    ∃ t, d.tree.writeFile (d.target p) content = .ok t ∧ d' = { d with tree := t } := by
  obtain ⟨-, place, t, hlocate, hwritten, rfl⟩ := write_ok_iff.1 h
  obtain rfl := target_of_locate hlocate
  exact ⟨t, hwritten, rfl⟩

/-- Making the directories of a path takes nothing away. -/
theorem makeDirectories_ok {p : FilePath} (h : d.makeDirectories p = .ok d') :
    ∃ t, d.tree.Grows (d.target p) t ∧ d' = { d with tree := t } := by
  unfold makeDirectories at h
  split at h
  · obtain rfl := Except.ok.inj h
    exact ⟨d.tree, .refl _ _, rfl⟩
  · obtain ⟨-, h⟩ := then_ok_iff.1 h
    obtain ⟨t, htree, hd⟩ := bind_ok_iff.1 h
    exact ⟨t, FileTree.grows_makeDirectories htree, (Except.ok.inj hd).symm⟩

end Disk

/-! ## Reading what was written -/

namespace FileTree

/-- A file is written where no directory stands. -/
theorem not_directory_of_writeFile {t t' : FileTree} {place : Place} {content : Bytes}
    (h : t.writeFile place content = .ok t') : t.entryAt? place ≠ some .directory :=
  (writeFile_ok_iff.1 h).2.2.1

/-- A directory stays when a file is written. -/
theorem requireDirectory_writeFile {t t' : FileTree} {place q : Place} {content : Bytes}
    (h : t.writeFile place content = .ok t') (hq : t.requireDirectory q = .ok ()) : t'.requireDirectory q = .ok () := by
  rw [requireDirectory_ok_iff] at hq ⊢
  rw [entryAt?_writeFile h, if_neg, hq]
  rintro rfl
  exact not_directory_of_writeFile h hq

end FileTree

namespace Disk

variable {d d' : Disk} {p : FilePath} {content : Bytes}

/-- a path that a file was written to leads to its place, and can mean a file -/
theorem reach_of_write (h : d.write p content = .ok d') : d.reach p = .ok (d.target p) ∧ p.endsOpen = false := by
  obtain ⟨-, place, t, hlocate, hwritten, -⟩ := write_ok_iff.1 h
  obtain rfl := target_of_locate hlocate
  obtain ⟨hreach, hdirectory⟩ := locate_ok_iff.1 hlocate
  refine ⟨hreach, Bool.eq_false_iff.2 fun hopen => ?_⟩
  exact FileTree.not_directory_of_writeFile hwritten (FileTree.requireDirectory_ok_iff.1 (hdirectory hopen))

theorem step_of_directories {t : FileTree}
    (h : ∀ q, d.tree.requireDirectory q = .ok () → t.requireDirectory q = .ok ()) {place place' : Place} {c : Component}
    (hstep : d.step place c = .ok place') : ({ d with tree := t } : Disk).step place c = .ok place' := by
  obtain ⟨htarget, hdirectory, hfit⟩ := step_ok_iff.1 hstep
  exact step_ok_iff.2 ⟨htarget, fun hroot hhere => h place (hdirectory hroot hhere), hfit⟩

theorem reach_of_directories {t : FileTree}
    (h : ∀ q, d.tree.requireDirectory q = .ok () → t.requireDirectory q = .ok ()) {place : Place}
    (hreach : d.reach p = .ok place) : ({ d with tree := t } : Disk).reach p = .ok place := by
  have hsteps : ∀ (steps : List Component) (start : Place), steps.foldlM d.step start = .ok place →
      steps.foldlM ({ d with tree := t } : Disk).step start = .ok place := by
    intro steps
    induction steps with
    | nil => exact fun _ hstart => hstart
    | cons c steps ih =>
      intro start hsteps
      rw [List.foldlM_cons] at hsteps ⊢
      obtain ⟨next, hstep, hothers⟩ := bind_ok_iff.1 hsteps
      exact bind_ok_iff.2 ⟨next, step_of_directories h hstep, ih next hothers⟩
  obtain ⟨hpath, hcomponents⟩ := reach_ok_iff.1 hreach
  exact reach_ok_iff.2 ⟨hpath, hsteps p.components d.here hcomponents⟩

/-- The path that a file was written to still leads to it. -/
theorem locate_write (h : d.write p content = .ok d') : d'.locate p = .ok (d.target p) := by
  obtain ⟨hreach, hclosed⟩ := reach_of_write h
  obtain ⟨t, hwritten, rfl⟩ := write_ok h
  refine locate_ok_iff.2 ⟨?_, fun hopen => absurd hopen (Bool.eq_false_iff.1 hclosed)⟩
  exact reach_of_directories (fun _ => FileTree.requireDirectory_writeFile hwritten) hreach

/-- **A text that was written is read back**, unless what stands there keeps nothing. -/
theorem readText_write {text : String} (h : d.write p (encode text) = .ok d')
    (hkept : d.tree.entryAt? (d.target p) ≠ some .void) : d'.readText p = .ok text := by
  have hlocate := locate_write h
  obtain ⟨t, hwritten, rfl⟩ := write_ok h
  have hentry : t.entryAt? (d.target p) = some (.file (encode text)) := by
    rw [FileTree.entryAt?_writeFile hwritten, if_pos rfl, Entry.written, if_neg hkept]
  exact readText_ok_iff.2 ⟨_, _, entry_ok_iff.2 ⟨_, hlocate, hentry⟩, rfl, decode_encode text⟩

end Disk

end CodeSurvey
