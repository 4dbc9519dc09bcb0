import PodProbe.FileTree.Task

/-!
This module contains how the writing of a file can end: it is not even opened, it holds the beginning of what was to be
written, or it holds all of it.
-/

namespace PodProbe.FileTree

/-- Whether some contents can be written to a place from beginning to end. -/
structure Takes (t : FileTree) (l : Location) (contents : Bytes) : Prop where
  allowed : t.volume.refusal? t.entries l = none
  uninterrupted : ∀ i ∈ t.volume.interruption? t.entries l, contents.length ≤ i.kept

theorem takes_of_volume_eq {t : FileTree} (h : t.volume = {}) (l : Location) (contents : Bytes)
    : t.Takes l contents := by
  constructor
  . rw [h]
  . rw [h]
    exact fun _ hi => nomatch hi

/-- Whether a file can be written from beginning to end, wherever its path leads. -/
def Accepts (t : FileTree) (path : String) (contents : Bytes) : Prop :=
  ∀ l, t.locate path = .ok l → t.Takes l contents

theorem accepts_of_volume_eq {t : FileTree} (h : t.volume = {}) (path : String) (contents : Bytes)
    : t.Accepts path contents :=
  fun l _ => takes_of_volume_eq h l contents

variable {t u : FileTree} {path : String} {contents : Bytes} {l m : Location}

theorem allow_eq_ok_iff : t.allow m = .ok l ↔ m = l ∧ t.volume.refusal? t.entries l = none := by
  unfold allow
  cases hrefusal : t.volume.refusal? t.entries m with
  | none =>
    constructor
    . rintro ⟨⟩
      exact ⟨rfl, hrefusal⟩
    . rintro ⟨rfl, _⟩
      rfl
  | some code =>
    refine iff_of_false nofun ?_
    rintro ⟨rfl, hnone⟩
    rw [hrefusal] at hnone
    cases hnone

theorem openFile_eq_ok_iff
    : t.openFile path = .ok l
        ↔
      FilePath.endsInSlash path = false ∧ t.locate path = .ok l ∧ t.node? l ≠ some .directory
        ∧ t.volume.refusal? t.entries l = none := by
  unfold openFile
  cases t.locate path with
  | error e => exact iff_of_false nofun fun h => nomatch h.2.1
  | ok m =>
    dsimp only [bind, Except.bind]
    rw [Except.ok.injEq]
    by_cases hplace : m = l
    . subst hplace
      cases FilePath.endsInSlash path <;> rcases t.node? m with _ | _ | bs <;> simp [allow_eq_ok_iff]
    . have hother : t.allow m ≠ .ok l := fun h => hplace (allow_eq_ok_iff.1 h).1
      cases FilePath.endsInSlash path <;> rcases t.node? m with _ | _ | bs <;> simp [hplace, hother]

theorem fill_of_takes (h : t.Takes l contents) : t.fill l contents = .ok (t.put l (.file contents)) := by
  unfold fill
  split
  . rfl
  . next i hi => exact if_neg (Nat.not_lt_of_le (h.uninterrupted i hi))

theorem fill_of_short {i : Interruption} (hinterruption : t.volume.interruption? t.entries l = some i)
    (hshort : i.kept < contents.length)
    : t.fill l contents = .error (.system i.code, t.put l (.file (contents.take i.kept))) := by
  unfold fill
  rw [hinterruption]
  exact if_pos hshort

/-- How the writing of a file ends, and in which tree. -/
inductive Writes (t : FileTree) (path : String) (contents : Bytes) : Except FileError Unit → FileTree → Prop where
  | unopened {e : FileError} (hopen : t.openFile path = .error e) : Writes t path contents (.error e) t
  | brokenOff {l : Location} {i : Interruption} (hopen : t.openFile path = .ok l)
      (hinterruption : t.volume.interruption? t.entries l = some i) (hshort : i.kept < contents.length)
      : Writes t path contents (.error (.system i.code)) (t.put l (.file (contents.take i.kept)))
  | complete {l : Location} (hopen : t.openFile path = .ok l) (htakes : t.Takes l contents)
      : Writes t path contents (.ok ()) (t.put l (.file contents))

theorem writes_attempt (t : FileTree) (path : String) (contents : Bytes)
    : Writes t path contents (t.attempt (.write path contents)).1 (t.attempt (.write path contents)).2 := by
  unfold attempt write
  dsimp only
  cases hopen : t.openFile path with
  | error e => exact .unopened hopen
  | ok l =>
    have hallowed := (openFile_eq_ok_iff.1 hopen).2.2.2
    dsimp only
    by_cases hshort : ∃ i, t.volume.interruption? t.entries l = some i ∧ i.kept < contents.length
    . obtain ⟨i, hinterruption, hshort⟩ := hshort
      rw [fill_of_short hinterruption hshort]
      exact .brokenOff hopen hinterruption hshort
    . have htakes : t.Takes l contents :=
        ⟨hallowed, fun i hi => Nat.le_of_not_lt fun hlt => hshort ⟨i, hi, hlt⟩⟩
      rw [fill_of_takes htakes]
      exact .complete hopen htakes

variable {r : Except FileError Unit}

/-- What is put at the place of a file is the beginning of what is written, and all of it unless there is an error. -/
theorem Writes.eq_or_exists_put (h : Writes t path contents r u)
    : u = t ∧ r ≠ .ok ()
      ∨ ∃ l kept, t.openFile path = .ok l ∧ u = t.put l (.file kept) ∧ kept <+: contents
        ∧ (r = .ok () → kept = contents) := by
  cases h with
  | unopened => exact Or.inl ⟨rfl, nofun⟩
  | brokenOff hopen => exact Or.inr ⟨_, _, hopen, rfl, List.take_prefix _ _, nofun⟩
  | complete hopen => exact Or.inr ⟨_, _, hopen, rfl, List.prefix_rfl, fun _ => rfl⟩

theorem attempt_write_eq_ok_iff
    : t.attempt (.write path contents) = (.ok (), u) ↔ t.write path contents = .ok u := by
  unfold attempt
  dsimp only
  cases t.write path contents <;> simp

theorem write_eq_ok_iff
    : t.write path contents = .ok u
        ↔
      FilePath.endsInSlash path = false
        ∧ ∃ l, t.locate path = .ok l ∧ t.node? l ≠ some .directory ∧ t.Takes l contents
            ∧ u = t.put l (.file contents) := by
  constructor
  . intro h
    have hwrites := writes_attempt t path contents
    rw [attempt_write_eq_ok_iff.2 h] at hwrites
    cases hwrites with
    | complete hopen htakes =>
      obtain ⟨hslash, hl, hnode, _⟩ := openFile_eq_ok_iff.1 hopen
      exact ⟨hslash, _, hl, hnode, htakes, rfl⟩
  . rintro ⟨hslash, l, hl, hnode, htakes, rfl⟩
    unfold write
    rw [openFile_eq_ok_iff.2 ⟨hslash, hl, hnode, htakes.allowed⟩]
    exact fill_of_takes htakes

end PodProbe.FileTree
