import PodProbe.FileTree
import PodProbe.RunError

/-!
This module contains work on files that is laid down beforehand: tasks are done one after the other, up to the first
that fails, and what was done before that one stays done. So does what this one did before it failed.
-/

namespace PodProbe

inductive FileTask where
  /-- Makes a directory with all that lead to it, unless they are there. -/
  | makeDirectories (path : String)
  | write (path : String) (contents : Bytes)
deriving DecidableEq, Repr

def FileTask.path : FileTask → String
  | makeDirectories path => path
  | write path _ => path

namespace FileTree

def attempt (t : FileTree) : FileTask → Except FileError Unit × FileTree
  | .makeDirectories path => t.makeDirectories path
  | .write path contents =>
    match t.write path contents with
    | .ok t => (.ok (), t)
    | .error (e, t) => (.error e, t)

def perform (t : FileTree) : List FileTask → Except RunError Unit × FileTree
  | [] => (.ok (), t)
  | task :: tasks =>
    match t.attempt task with
    | (.ok (), t) => perform t tasks
    | (.error e, t) => (.error (.persist task.path e.chain), t)

theorem perform_nil (t : FileTree) : t.perform [] = (.ok (), t) :=
  rfl

theorem perform_cons_ok {t u : FileTree} {task : FileTask} (tasks : List FileTask)
    (h : t.attempt task = (.ok (), u)) : t.perform (task :: tasks) = u.perform tasks := by
  simp [perform, h]

theorem perform_cons_error {t u : FileTree} {task : FileTask} {e : FileError} (tasks : List FileTask)
    (h : t.attempt task = (.error e, u)) :
    t.perform (task :: tasks) = (.error (.persist task.path e.chain), u) := by
  simp [perform, h]

theorem perform_append (t : FileTree) (tasks tasks' : List FileTask) :
    t.perform (tasks ++ tasks') =
      match t.perform tasks with
      | (.ok (), u) => u.perform tasks'
      | (.error e, u) => (.error e, u) := by
  induction tasks generalizing t with
  | nil => rfl
  | cons task tasks ih =>
    rw [List.cons_append, perform, perform]
    split
    · exact ih _
    · rfl

end FileTree

end PodProbe
