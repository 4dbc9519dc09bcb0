import PodProbe.FileTree.Task
import PodProbe.Journal

/-!
This module contains programs, which deal with their surroundings by one command after the other. A program is data:
what becomes of files and terminals is up to who runs it.
-/

namespace PodProbe

structure Moment where
  calendar : String
  epoch : String
  seconds : Int
deriving DecidableEq, Repr

inductive Command where
  | find (path : String)
  | read (path : String)
  | work (tasks : List FileTask)
  | report (j : Journal)
  | readLine
  | now

abbrev Command.Answer : Command → Type
  | find _ => Bool
  | read _ => Except ErrorChain Bytes
  | work _ => Except RunError Unit
  | report _ => Unit
  | readLine => Bytes
  | now => Moment

inductive Program (α : Type) where
  | done (a : α)
  | perform (c : Command) (next : c.Answer → Program α)

namespace Program

variable {α β : Type}

def bind : Program α → (α → Program β) → Program β
  | done a, f => f a
  | perform c next, f => perform c fun r => (next r).bind f

instance : Monad Program where
  pure := done
  bind := bind

@[simp] theorem pure_eq (a : α) : (pure a : Program α) = done a := rfl

@[simp] theorem done_bind (a : α) (f : α → Program β) : (done a >>= f) = f a := rfl

@[simp] theorem perform_bind (c : Command) (next : c.Answer → Program α) (f : α → Program β) :
    (perform c next >>= f) = perform c fun r => next r >>= f := rfl

def command (c : Command) : Program c.Answer :=
  perform c done

end Program

end PodProbe
