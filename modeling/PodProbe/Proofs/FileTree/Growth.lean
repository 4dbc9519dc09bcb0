import PodProbe.Proofs.FileTree.Writing

/-!
This module contains what work on files leaves as it is: nothing is ever removed, a directory stays a directory, and a
file changes only if something is written to the place where it lies. A path that leads somewhere leads there
afterwards too. Where nothing is written, nothing new appears but directories.
-/

namespace PodProbe.FileTree

theorem lookup_filter_of_ne {l m : Location} (h : m ≠ l) (entries : List (Location × FileNode))
    : (entries.filter (·.1 != l)).lookup m = entries.lookup m := by
  induction entries with
  | nil => rfl
  | cons e entries ih =>
    by_cases heq : e.1 = l
    . have hne : (m == e.1) = false := by
        rw [heq]
        exact beq_false_of_ne h
      rw [List.filter_cons_of_neg (by simp [heq]), ih, List.lookup_cons, hne]
    . rw [List.filter_cons_of_pos (by simp [heq]), List.lookup_cons, List.lookup_cons, ih]

theorem node?_put_of_ne (t : FileTree) {l m : Location} (n : FileNode) (h : m ≠ l)
    : (t.put l n).node? m = t.node? m := by
  have hne : (m == l) = false := beq_false_of_ne h
  unfold node? put
  rw [List.lookup_cons, hne, lookup_filter_of_ne h]

/-! ### Paths -/

/-- Whether a path is one that can be followed at all. -/
structure Passable (path : String) : Prop where
  valid : path.toList.contains '\x00' = false
  nonempty : path.isEmpty = false
  short : path.utf8ByteSize < FilePath.tooLong

theorem locate_eq_ok_iff {t : FileTree} {path : String} {l : Location}
    : t.locate path = .ok l ↔ Passable path ∧ (FilePath.names path).foldlM t.step [] = .ok l := by
  constructor
  . intro h
    unfold locate at h
    split at h
    . cases h
    . next hvalid =>
      split at h
      . cases h
      . next hnonempty =>
        split at h
        . cases h
        . next hshort =>
          exact ⟨⟨eq_false_of_ne_true hvalid, eq_false_of_ne_true hnonempty, Nat.lt_of_not_le hshort⟩, h⟩
  . intro ⟨h, hfold⟩
    unfold locate
    rw [h.valid, h.nonempty]
    simp only [Bool.false_eq_true, if_false]
    rw [if_neg (Nat.not_le_of_lt h.short)]
    exact hfold

/-! ### Growth -/

/-- Whether all that is in a tree is in another one as it was, apart from files at some places. -/
def Grows (changed : Location → Prop) (t u : FileTree) : Prop :=
  ∀ l n, t.node? l = some n → n = .directory ∨ ¬ changed l → u.node? l = some n

section

variable {changed changed' : Location → Prop} {t u v : FileTree}

theorem grows_refl (changed : Location → Prop) (t : FileTree) : Grows changed t t := by
  intro l n h _
  exact h

theorem Grows.trans (h : Grows changed t u) (h' : Grows changed u v) : Grows changed t v := by
  intro l n hn hl
  exact h' l n (h l n hn hl) hl

theorem Grows.mono (h : Grows changed t u) (himp : ∀ l, changed l → changed' l) : Grows changed' t u := by
  intro l n hn hl
  apply h l n hn
  cases hl with
  | inl hdirectory => exact Or.inl hdirectory
  | inr hkept => exact Or.inr (mt (himp l) hkept)

theorem grows_put {l : Location} (n : FileNode) (h : t.node? l ≠ some .directory)
    (hchanged : ∀ contents, t.node? l = some (.file contents) → changed l)
    : Grows changed t (t.put l n) := by
  intro m n' hm hkept
  have hne : m ≠ l := by
    intro heq
    rw [heq] at hm hkept
    cases n' with
    | directory => exact h hm
    | file contents =>
      cases hkept with
      | inl hdirectory => cases hdirectory
      | inr hkept => exact hkept (hchanged contents hm)
  rw [node?_put_of_ne t n hne]
  exact hm

/-! ### Making -/

/-- Whether a tree is made from another one by putting files at some places, and directories where there is nothing. -/
inductive Made (changed : Location → Prop) (t : FileTree) : FileTree → Prop where
  | refl : Made changed t t
  | file {u : FileTree} {l : Location} (contents : Bytes) (h : Made changed t u) (hl : changed l)
      (hnode : u.node? l ≠ some .directory) : Made changed t (u.put l (.file contents))
  | directory {u : FileTree} {l : Location} (h : Made changed t u) (hnode : u.node? l = none)
      : Made changed t (u.put l .directory)

theorem Made.trans (h : Made changed t u) (h' : Made changed u v) : Made changed t v := by
  induction h' with
  | refl => exact h
  | file contents _ hl hnode ih => exact ih.file contents hl hnode
  | directory _ hnode ih => exact ih.directory hnode

theorem Made.mono (h : Made changed t u) (himp : ∀ l, changed l → changed' l) : Made changed' t u := by
  induction h with
  | refl => exact .refl
  | file contents _ hl hnode ih => exact ih.file contents (himp _ hl) hnode
  | directory _ hnode ih => exact ih.directory hnode

theorem Made.grows (h : Made changed t u) : Grows changed t u := by
  induction h with
  | refl => exact grows_refl changed t
  | file contents _ hl hnode ih => exact ih.trans (grows_put _ hnode fun _ _ => hl)
  | directory _ hnode ih =>
    apply ih.trans
    apply grows_put
    . rw [hnode]
      exact Option.some_ne_none _ |>.symm
    . intro contents hcontents
      rw [hnode] at hcontents
      cases hcontents

theorem Made.node?_eq_or (h : Made changed t u) {l : Location} (hl : ¬ changed l)
    : u.node? l = t.node? l ∨ t.node? l = none ∧ u.node? l = some .directory := by
  induction h with
  | refl => exact Or.inl rfl
  | @file v m contents _ hm _ ih =>
    have hne : l ≠ m := by
      rintro rfl
      exact hl hm
    rw [node?_put_of_ne v _ hne]
    exact ih
  | @directory v m _ hnode ih =>
    by_cases heq : l = m
    . -- Where a directory is put there was nothing, and what was there before would still be there.
      subst heq
      have hne : l ≠ [] := by
        rintro rfl
        cases hnode
      rw [node?_put_self v l _ hne]
      refine Or.inr ⟨?_, rfl⟩
      rcases ih with hsame | ⟨_, hdirectory⟩
      . rw [← hsame, hnode]
      . rw [hnode] at hdirectory
        cases hdirectory
    . rw [node?_put_of_ne v _ heq]
      exact ih

/-! ### Following paths -/

theorem Grows.step {l m : Location} {name : String} (h : Grows changed t u) (hstep : t.step l name = .ok m)
    : u.step l name = .ok m := by
  unfold FileTree.step at hstep ⊢
  split at hstep
  . cases hstep
  . cases hstep
  . next hl =>
    rw [h l _ hl (Or.inl rfl)]
    exact hstep

theorem Grows.foldlM_step {l m : Location} {names : List String} (h : Grows changed t u)
    (hfold : names.foldlM t.step l = .ok m)
    : names.foldlM u.step l = .ok m := by
  induction names generalizing l with
  | nil => exact hfold
  | cons name names ih =>
    rw [List.foldlM_cons] at hfold ⊢
    cases hstep : t.step l name with
    | error e =>
      rw [hstep] at hfold
      cases hfold
    | ok l' =>
      rw [hstep] at hfold
      rw [h.step hstep]
      exact ih hfold

theorem Grows.locate {l : Location} {path : String} (h : Grows changed t u) (hlocate : t.locate path = .ok l)
    : u.locate path = .ok l := by
  rw [locate_eq_ok_iff] at hlocate ⊢
  exact ⟨hlocate.1, h.foldlM_step hlocate.2⟩

end

/-! ### Reading and writing -/

theorem read_eq_ok_iff {t : FileTree} {path : String} {contents : Bytes}
    : t.read path = .ok contents
        ↔
      FilePath.endsInSlash path = false ∧ ∃ l, t.locate path = .ok l ∧ t.node? l = some (.file contents) := by
  unfold read
  cases t.locate path with
  | error e =>
    constructor
    . intro h
      cases h
    . intro ⟨_, l, hl, _⟩
      cases hl
  | ok l =>
    have hread : (∃ m, (.ok l : Except FileError Location) = .ok m ∧ t.node? m = some (.file contents))
        ↔ t.node? l = some (.file contents) := by
      simp
    rw [hread]
    dsimp only [bind, Except.bind]
    cases FilePath.endsInSlash path <;> rcases t.node? l with _ | _ | bs <;> simp

theorem made_put {t : FileTree} {path : String} {l : Location} (h : t.openFile path = .ok l) (contents : Bytes)
    : Made (fun m => (t.put l (.file contents)).locate path = .ok m) t (t.put l (.file contents)) := by
  obtain ⟨_, hl, hnode, _⟩ := openFile_eq_ok_iff.1 h
  have hmade : Made (· = l) t (t.put l (.file contents)) := .file contents .refl rfl hnode
  apply hmade.mono
  rintro m rfl
  exact hmade.grows.locate hl

theorem made_attempt_write (t : FileTree) (path : String) (contents : Bytes)
    : Made (fun l => (t.attempt (.write path contents)).2.locate path = .ok l) t
        (t.attempt (.write path contents)).2 := by
  rcases (writes_attempt t path contents).eq_or_exists_put with ⟨heq, _⟩ | ⟨l, kept, hopen, heq, _⟩
  . rw [heq]
    exact .refl
  . rw [heq]
    exact made_put hopen kept

theorem grows_write {t u : FileTree} {path : String} {contents : Bytes} (h : t.write path contents = .ok u)
    : Grows (fun l => u.locate path = .ok l) t u := by
  have hmade := made_attempt_write t path contents
  rw [attempt_write_eq_ok_iff.2 h] at hmade
  exact hmade.grows

theorem node?_put_of_openFile {t : FileTree} {path : String} {l : Location} (h : t.openFile path = .ok l)
    (contents : Bytes)
    : (t.put l (.file contents)).node? l = some (.file contents) := by
  apply node?_put_self
  rintro rfl
  exact (openFile_eq_ok_iff.1 h).2.2.1 rfl

theorem read_put_of_openFile {t : FileTree} {path : String} {l : Location} (h : t.openFile path = .ok l)
    (contents : Bytes)
    : (t.put l (.file contents)).read path = .ok contents := by
  obtain ⟨hslash, hl, _⟩ := openFile_eq_ok_iff.1 h
  rw [read_eq_ok_iff]
  exact ⟨hslash, l, (made_put h contents).grows.locate hl, node?_put_of_openFile h contents⟩

theorem read_of_write {t u : FileTree} {path : String} {contents : Bytes} (h : t.write path contents = .ok u)
    : u.read path = .ok contents := by
  have hwrites := writes_attempt t path contents
  rw [attempt_write_eq_ok_iff.2 h] at hwrites
  cases hwrites with
  | complete hopen => exact read_put_of_openFile hopen contents

theorem Made.node?_eq_file_iff {t u : FileTree} {l : Location} {contents : Bytes} (h : Made (fun _ => False) t u)
    : u.node? l = some (.file contents) ↔ t.node? l = some (.file contents) := by
  constructor
  . intro hfile
    rcases h.node?_eq_or (l := l) not_false with hsame | ⟨_, hdirectory⟩
    . rw [← hsame]
      exact hfile
    . rw [hfile] at hdirectory
      cases hdirectory
  . intro hfile
    exact h.grows l _ hfile (Or.inr not_false)

/-- Where nothing but directories was made, a path that led anywhere leads to the file that it led to, or to none. -/
theorem Made.read_eq_ok_iff {t u : FileTree} {path : String} {l : Location} (h : Made (fun _ => False) t u)
    (hl : t.locate path = .ok l) {contents : Bytes}
    : u.read path = .ok contents ↔ t.read path = .ok contents := by
  rw [FileTree.read_eq_ok_iff, FileTree.read_eq_ok_iff, hl, h.grows.locate hl]
  simp [h.node?_eq_file_iff]

theorem Grows.read {changed : Location → Prop} {t u : FileTree} {path : String} {contents : Bytes}
    (h : Grows changed t u) (hread : t.read path = .ok contents) (hkept : ∀ l, t.locate path = .ok l → ¬ changed l)
    : u.read path = .ok contents := by
  rcases read_eq_ok_iff.1 hread with ⟨hslash, l, hl, hnode⟩
  rw [read_eq_ok_iff]
  exact ⟨hslash, l, h.locate hl, h l _ hnode (Or.inr (hkept l hl))⟩

/-! ### Directories -/

section

variable {t u : FileTree}

theorem made_makeDirectory {path : String} (h : t.makeDirectory path = .ok u) : Made (fun _ => False) t u := by
  unfold makeDirectory at h
  cases hlocate : t.locate path with
  | error e =>
    rw [hlocate] at h
    cases h
  | ok l =>
    rw [hlocate] at h
    dsimp only [bind, Except.bind] at h
    split at h
    . cases h
    . next hnode =>
      cases hallow : t.allow l with
      | error e =>
        rw [hallow] at h
        cases h
      | ok m =>
        rw [hallow] at h
        cases h
        rw [← (allow_eq_ok_iff.1 hallow).1]
        exact .directory .refl hnode

theorem made_ensureDirectory {path : String} (h : t.ensureDirectory path = .ok u) : Made (fun _ => False) t u := by
  unfold ensureDirectory at h
  split at h
  . next hmake =>
    cases h
    exact made_makeDirectory hmake
  . split at h
    . cases h
      exact .refl
    . cases h

theorem made_ensureDirectories (t : FileTree) (paths : List String)
    : Made (fun _ => False) t (t.ensureDirectories paths).2 := by
  induction paths generalizing t with
  | nil => exact .refl
  | cons path paths ih =>
    unfold ensureDirectories
    split
    . next hensure => exact (made_ensureDirectory hensure).trans (ih _)
    . exact .refl

theorem made_makeDirectories (t : FileTree) (path : String)
    : Made (fun _ => False) t (t.makeDirectories path).2 := by
  unfold makeDirectories
  split
  . exact .refl
  . split
    . next hensure => exact made_ensureDirectory hensure
    . apply made_ensureDirectories
    . exact .refl

end

/-! ### Tasks -/

theorem perform_cons_eq_ok_iff {t u : FileTree} {task : FileTask} {tasks : List FileTask}
    : t.perform (task :: tasks) = (.ok (), u) ↔ ∃ v, t.attempt task = (.ok (), v) ∧ v.perform tasks = (.ok (), u) := by
  rw [perform]
  rcases t.attempt task with ⟨_ | _, v⟩ <;> simp

theorem perform_append_eq_ok_iff {t u : FileTree} {tasks tasks' : List FileTask}
    : t.perform (tasks ++ tasks') = (.ok (), u)
        ↔
      ∃ v, t.perform tasks = (.ok (), v) ∧ v.perform tasks' = (.ok (), u) := by
  rw [perform_append]
  rcases t.perform tasks with ⟨_ | _, v⟩ <;> simp

/-- Whether one of some tasks writes to what is at a place in a tree. -/
def WrittenBy (tasks : List FileTask) (t : FileTree) (l : Location) : Prop :=
  ∃ path contents, FileTask.write path contents ∈ tasks ∧ t.locate path = .ok l

theorem made_attempt (t : FileTree) (task : FileTask)
    : Made (WrittenBy [task] (t.attempt task).2) t (t.attempt task).2 := by
  cases task with
  | makeDirectories path =>
    apply (made_makeDirectories t path).mono
    intro l hl
    cases hl
  | write path contents =>
    apply (made_attempt_write t path contents).mono
    intro l hl
    exact ⟨path, contents, List.mem_singleton_self _, hl⟩

section

variable {tasks tasks' : List FileTask} {t : FileTree} {l : Location}

theorem WrittenBy.subset (h : WrittenBy tasks t l) (hsubset : tasks ⊆ tasks') : WrittenBy tasks' t l := by
  rcases h with ⟨path, contents, hmem, hl⟩
  exact ⟨path, contents, hsubset hmem, hl⟩

theorem Grows.writtenBy {changed : Location → Prop} {u : FileTree} (h : Grows changed t u) (hl : WrittenBy tasks t l)
    : WrittenBy tasks u l := by
  rcases hl with ⟨path, contents, hmem, hlocate⟩
  exact ⟨path, contents, hmem, h.locate hlocate⟩

end

theorem made_perform (t : FileTree) (tasks : List FileTask)
    : Made (WrittenBy tasks (t.perform tasks).2) t (t.perform tasks).2 := by
  -- Paths are followed in the last tree, since a path may lead nowhere before a task makes the directories for it.
  induction tasks generalizing t with
  | nil => exact .refl
  | cons task tasks ih =>
    have hfirst := made_attempt t task
    have hhead : [task] ⊆ task :: tasks := List.cons_subset_cons task (List.nil_subset tasks)
    unfold perform
    split
    . next u hattempt =>
      rw [hattempt] at hfirst
      have hrest := ih u
      apply Made.trans (u := u)
      . apply hfirst.mono
        intro l hl
        exact (hrest.grows.writtenBy hl).subset hhead
      . apply hrest.mono
        intro l hl
        exact hl.subset (List.subset_cons_self task tasks)
    . next u hattempt =>
      rw [hattempt] at hfirst
      apply hfirst.mono
      intro l hl
      exact hl.subset hhead

/-- Whether some contents are what writing left: the beginning of what was written, and all of it if nothing failed. -/
structure LeftOf {ε : Type} (r : Except ε Unit) (written contents : Bytes) : Prop where
  starts : contents <+: written
  eq_of_ok : r = .ok () → contents = written

theorem leftOf_refl {ε : Type} (r : Except ε Unit) (written : Bytes) : LeftOf r written written :=
  ⟨List.prefix_rfl, fun _ => rfl⟩

theorem exists_read_attempt {t : FileTree} {path : String} {contents : Bytes} (h : t.read path = .ok contents)
    (task : FileTask)
    : ∃ contents', (t.attempt task).2.read path = .ok contents'
        ∧ (contents' = contents
          ∨ ∃ file written, task = .write file written
            ∧ (t.attempt task).2.locate file = (t.attempt task).2.locate path
            ∧ LeftOf (t.attempt task).1 written contents') := by
  cases task with
  | makeDirectories directory =>
    exact ⟨contents, (made_makeDirectories t directory).grows.read h fun _ _ hchanged => hchanged, Or.inl rfl⟩
  | write file written =>
    have hgrows := (made_attempt_write t file written).grows
    rcases read_eq_ok_iff.1 h with ⟨hslash, l, hl, hnode⟩
    by_cases hsame : (t.attempt (.write file written)).2.locate file = (t.attempt (.write file written)).2.locate path
    . rcases (writes_attempt t file written).eq_or_exists_put with ⟨heq, _⟩ | ⟨m, kept, hopen, heq, hstarts, hkept⟩
      . rw [heq]
        exact ⟨contents, h, Or.inl rfl⟩
      . have hm := hgrows.locate (openFile_eq_ok_iff.1 hopen).2.1
        refine ⟨kept, ?_, Or.inr ⟨file, written, rfl, hsame, hstarts, hkept⟩⟩
        rw [read_eq_ok_iff]
        refine ⟨hslash, m, hsame ▸ hm, ?_⟩
        rw [heq]
        exact node?_put_of_openFile hopen kept
    . refine ⟨contents, hgrows.read h ?_, Or.inl rfl⟩
      intro m hm hfile
      apply hsame
      rw [hfile, hgrows.locate hm]

/--
A file that could be read before some work can be read after it. It holds what it did, or what writing to it has left.
-/
theorem exists_read_perform {t : FileTree} {path : String} {contents : Bytes} (h : t.read path = .ok contents)
    (tasks : List FileTask)
    : ∃ contents', (t.perform tasks).2.read path = .ok contents'
        ∧ (contents' = contents
          ∨ ∃ file written, .write file written ∈ tasks
            ∧ (t.perform tasks).2.locate file = (t.perform tasks).2.locate path
            ∧ LeftOf (t.perform tasks).1 written contents') := by
  induction tasks generalizing t contents with
  | nil => exact ⟨contents, h, Or.inl rfl⟩
  | cons task tasks ih =>
    rcases exists_read_attempt h task with ⟨first, hfirst, hheld⟩
    unfold perform
    split
    . next u hattempt =>
      rw [hattempt] at hfirst hheld
      rcases ih hfirst with ⟨last, hlast, hheld'⟩
      refine ⟨last, hlast, ?_⟩
      rcases hheld' with rfl | ⟨file, written, hmem, hfile, hleft⟩
      . rcases hheld with rfl | ⟨file, written, rfl, hfile, hleft⟩
        . exact Or.inl rfl
        . -- The two paths lead to one place when the file is written, and go on to do so.
          rcases read_eq_ok_iff.1 hfirst with ⟨_, l, hl, _⟩
          have hgrows := (made_perform u tasks).grows
          have hfile' : u.locate file = .ok l := by
            rw [hfile]
            exact hl
          refine Or.inr ⟨file, written, List.mem_cons_self, ?_, ?_⟩
          . rw [hgrows.locate hfile', hgrows.locate hl]
          . rw [hleft.eq_of_ok rfl]
            exact leftOf_refl _ written
      . exact Or.inr ⟨file, written, List.mem_cons_of_mem task hmem, hfile, hleft⟩
    . next u hattempt =>
      rw [hattempt] at hfirst hheld
      refine ⟨first, hfirst, hheld.imp_right ?_⟩
      rintro ⟨file, written, rfl, hfile, hleft⟩
      exact ⟨file, written, List.mem_cons_self, hfile, hleft.starts, nofun⟩

/-- What a path holds is still there after some work if the work writes nothing to where the path leads. -/
theorem read_perform {t : FileTree} {path : String} {contents : Bytes} (h : t.read path = .ok contents)
    (tasks : List FileTask)
    (hkept : ∀ file contents, FileTask.write file contents ∈ tasks
      → (t.perform tasks).2.locate file ≠ (t.perform tasks).2.locate path)
    : (t.perform tasks).2.read path = .ok contents := by
  rcases exists_read_perform h tasks with ⟨contents', hread, rfl | ⟨file, written, hmem, hfile, _⟩⟩
  . exact hread
  . exact absurd hfile (hkept file written hmem)

/-- Where work that succeeded has written something, there is what was written to that place last. -/
theorem exists_read_of_write_mem {t u : FileTree} {tasks : List FileTask} (h : t.perform tasks = (.ok (), u))
    {file : String} {contents : Bytes} (hmem : .write file contents ∈ tasks)
    : ∃ last contents', .write last contents' ∈ tasks ∧ u.locate last = u.locate file
        ∧ u.read file = .ok contents' := by
  induction tasks generalizing t with
  | nil => cases hmem
  | cons task tasks ih =>
    rcases perform_cons_eq_ok_iff.1 h with ⟨v, hattempt, hrest⟩
    cases hmem with
    | head =>
      have hread := read_of_write (attempt_write_eq_ok_iff.1 hattempt)
      rcases exists_read_perform hread tasks with ⟨contents', hlast, hheld⟩
      rw [hrest] at hlast hheld
      rcases hheld with rfl | ⟨last, written, hmem, hsame, hleft⟩
      . exact ⟨file, contents', List.mem_cons_self, rfl, hlast⟩
      . rw [hleft.eq_of_ok rfl] at hlast
        exact ⟨last, written, List.mem_cons_of_mem _ hmem, hsame, hlast⟩
    | tail _ hmem =>
      rcases ih hrest hmem with ⟨last, contents', hlast, hsame, hread⟩
      exact ⟨last, contents', List.mem_cons_of_mem task hlast, hsame, hread⟩

end PodProbe.FileTree
