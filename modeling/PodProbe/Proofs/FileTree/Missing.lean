import PodProbe.Proofs.FileTree.Parent

/-!
This module contains that a directory that could not be made is missing afterwards, although some of those that lead to
it may have been made on the way.
-/

namespace PodProbe.FileTree

theorem isDirectory_iff {t : FileTree} {path : String}
    : t.isDirectory path ↔ ∃ l, t.locate path = .ok l ∧ t.node? l = some .directory := by
  unfold isDirectory find?
  cases t.locate path with
  | error e => simp
  | ok l =>
    cases hnode : t.node? l with
    | none => simp [hnode]
    | some n =>
      cases n with
      | directory => simp [hnode]
      | file contents => cases hslash : FilePath.endsInSlash path <;> simp [hnode]

variable {t u : FileTree} {e : FileError}

theorem not_isDirectory_of_ensureDirectory {path : String} (h : t.ensureDirectory path = .error e)
    : ¬ t.isDirectory path := by
  unfold ensureDirectory at h
  split at h
  . cases h
  . split at h
    . cases h
    . next hmissing => exact hmissing

theorem exists_of_ensureDirectories {paths : List String} (h : t.ensureDirectories paths = (.error e, u))
    : ∃ path ∈ paths, ¬ u.isDirectory path := by
  induction paths generalizing t with
  | nil => cases h
  | cons path paths ih =>
    unfold ensureDirectories at h
    split at h
    . rcases ih h with ⟨path', hmem, hmissing⟩
      exact ⟨path', List.mem_cons_of_mem path hmem, hmissing⟩
    . next hensure =>
      cases h
      exact ⟨path, List.mem_cons_self, not_isDirectory_of_ensureDirectory hensure⟩

theorem isDirectory_of_mem_lineage (fuel : Nat) {path : String} (h : t.isDirectory path)
    : ∀ q ∈ lineage fuel path, t.isDirectory q := by
  have hself {path : String} (h : t.isDirectory path) : ∀ q ∈ [path], t.isDirectory q := by
    intro q hq
    rw [List.mem_singleton.1 hq]
    exact h
  induction fuel generalizing path with
  | zero => exact hself h
  | succ fuel ih =>
    unfold lineage
    split
    . next p hp =>
      split
      . exact hself h
      . next hempty =>
        rcases isDirectory_iff.1 h with ⟨l, hl, _⟩
        have hparent : t.isDirectory p := by
          rw [isDirectory_iff]
          exact isDirectory_parent hl hp (mt String.isEmpty_iff.2 hempty)
        intro q hq
        rcases List.mem_append.1 hq with hq | hq
        . exact ih hparent q hq
        . exact hself h q hq
    . exact hself h

theorem makeDirectories_of_file {path : String} {l : Location} {contents : Bytes} (h : t.locate path = .ok l)
    (hfile : t.node? l = some (.file contents))
    : t.makeDirectories path = (.error .alreadyExists, t) := by
  have hmissing : t.isDirectory path = false := by
    rw [Bool.eq_false_iff, ne_eq, isDirectory_iff]
    rintro ⟨m, hm, hdirectory⟩
    rw [h] at hm
    cases hm
    rw [hfile] at hdirectory
    cases hdirectory
  have hmake : t.makeDirectory path = .error .alreadyExists := by
    unfold makeDirectory
    rw [h]
    dsimp only [bind, Except.bind]
    rw [hfile]
  have hensure : t.ensureDirectory path = .error .alreadyExists := by
    unfold ensureDirectory
    rw [hmake, hmissing]
    rfl
  unfold makeDirectories
  rw [(locate_eq_ok_iff.1 h).1.nonempty, hensure]
  rfl

/-- The directories that lead to one that is there are there, so that none of them can be what was missing. -/
theorem not_isDirectory_of_makeDirectories {path : String} (h : t.makeDirectories path = (.error e, u))
    : ¬ u.isDirectory path := by
  unfold makeDirectories at h
  split at h
  . cases h
  . split at h
    . cases h
    . rcases exists_of_ensureDirectories h with ⟨q, hq, hmissing⟩
      intro hthere
      exact hmissing (isDirectory_of_mem_lineage _ hthere q hq)
    . next hensure =>
      cases h
      exact not_isDirectory_of_ensureDirectory hensure

end PodProbe.FileTree
