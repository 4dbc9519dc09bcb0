import PodProbe.Bytes.Line
import PodProbe.Program

/-!
This module contains the surroundings that programs are run in where nothing else happens: a file tree, what will be
typed, a clock that stands still, and a journal of all that was reported.
-/

namespace PodProbe

structure Desk where
  files : FileTree
  typed : Bytes := []
  clock : Moment
  journal : Journal := {}

namespace Desk

def answer (d : Desk) : (c : Command) → c.Answer × Desk
  | .find path => ((d.files.find? path).isSome, d)
  | .read path => ((d.files.read path).mapError FileError.chain, d)
  | .work tasks =>
    let (r, files) := d.files.perform tasks
    (r, { d with files })
  | .report j => ((), { d with journal := d.journal ++ j })
  | .readLine =>
    let (line, typed) := Bytes.splitLine d.typed
    (line, { d with typed })
  | .now => (d.clock, d)

def run {α : Type} (d : Desk) : Program α → α × Desk
  | .done a => (a, d)
  | .perform c next =>
    let (r, d) := d.answer c
    run d (next r)

variable {α β : Type}

@[simp] theorem run_done (d : Desk) (a : α) : d.run (.done a) = (a, d) := rfl

@[simp] theorem run_perform (d : Desk) (c : Command) (next : c.Answer → Program α) :
    d.run (.perform c next) = (d.answer c).2.run (next (d.answer c).1) := rfl

theorem run_bind (d : Desk) (p : Program α) (f : α → Program β) :
    d.run (p >>= f) = (d.run p).2.run (f (d.run p).1) := by
  induction p generalizing d with
  | done => rfl
  | perform c next ih => simp [ih]

end Desk

end PodProbe
