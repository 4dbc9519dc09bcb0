import PodProbe.Probe
import PodProbe.Text.Styled

/-!
This module contains what a run leaves behind besides its result: the probes it sent with the ones that came back,
what it printed, and the events that it logged.
-/

namespace PodProbe

open Text (Styled)

inductive Level where
  | debug
  | info
  | warn
deriving DecidableEq, Repr

def Level.text : Level → String
  | debug => "DEBUG"
  | info => "INFO"
  | warn => "WARN"

def Level.column (l : Level) : String :=
  String.ofList (List.replicate (5 - l.text.length) ' ') ++ l.text

structure Event where
  level : Level
  message : String
deriving DecidableEq, Repr

def Event.line (time : String) (e : Event) : String :=
  time ++ " " ++ e.level.column ++ " " ++ e.message ++ "\n"

structure Executor where
  reply : Probe → Reply
  log : Probe → List Event := fun _ => []

def Executor.ofReplies (replies : List (String × Reply)) (fallback : Reply) : Executor where
  reply p := (replies.lookup p.url).getD fallback

def Executor.execute (e : Executor) (p : Probe) : Probe :=
  p.receive (e.reply p)

structure Exchange where
  sent : Probe
  answered : Probe

def Executor.exchange (e : Executor) (p : Probe) : Exchange where
  sent := p
  answered := e.execute p

inductive Entry where
  | exchange (e : Exchange)
  | text (s : Styled)
  | event (e : Event)

structure Journal where
  entries : List Entry := []

namespace Journal

def append (a b : Journal) : Journal where
  entries := a.entries ++ b.entries

instance : Append Journal := ⟨append⟩

def exchanges (j : Journal) : List Exchange :=
  j.entries.filterMap fun
    | .exchange e => some e
    | _ => none

def printed (j : Journal) : Styled :=
  j.entries.flatMap fun
    | .text s => s
    | _ => []

def events (j : Journal) : List Event :=
  j.entries.filterMap fun
    | .event e => some e
    | _ => none

@[simp] theorem entries_append (a b : Journal) : (a ++ b).entries = a.entries ++ b.entries := rfl

@[simp] theorem exchanges_append (a b : Journal) : (a ++ b).exchanges = a.exchanges ++ b.exchanges := by
  simp [exchanges]

@[simp] theorem exchanges_empty : ({} : Journal).exchanges = [] := rfl

@[simp] theorem append_empty (j : Journal) : j ++ ({} : Journal) = j :=
  congrArg mk (List.append_nil j.entries)

@[simp] theorem empty_append (j : Journal) : ({} : Journal) ++ j = j := rfl

theorem append_assoc (a b c : Journal) : a ++ b ++ c = a ++ (b ++ c) :=
  congrArg mk (List.append_assoc a.entries b.entries c.entries)

/-- Without the events that only matter to who looks for a fault. -/
def withoutDetails (j : Journal) : Journal where
  entries := j.entries.filter fun
    | .event e => e.level != .debug
    | _ => true

theorem exchanges_withoutDetails (j : Journal) : j.withoutDetails.exchanges = j.exchanges := by
  unfold exchanges withoutDetails
  induction j.entries with
  | nil => rfl
  | cons x xs ih => cases x <;> grind

def text (color : Bool) (time : String) (j : Journal) : String :=
  String.join (j.entries.map fun
    | .exchange _ => ""
    | .text s => s.render color
    | .event e => e.line time)

def ofText (s : Styled) : Journal where
  entries := [.text s]

def ofEvent (level : Level) (message : String) : Journal where
  entries := [.event { level, message }]

end Journal

structure Journaled (α : Type) where
  value : α
  journal : Journal := {}

namespace Journaled

variable {α β : Type}

instance : Monad Journaled where
  pure a := { value := a }
  bind x f :=
    let y := f x.value
    { value := y.value, journal := x.journal ++ y.journal }

@[simp] theorem value_pure (a : α) : (pure a : Journaled α).value = a := rfl

@[simp] theorem journal_pure (a : α) : (pure a : Journaled α).journal = {} := rfl

@[simp] theorem value_bind (x : Journaled α) (f : α → Journaled β) : (x >>= f).value = (f x.value).value := rfl

@[simp] theorem journal_bind (x : Journaled α) (f : α → Journaled β) :
    (x >>= f).journal = x.journal ++ (f x.value).journal := rfl

instance : LawfulMonad Journaled :=
  .mk' Journaled
    (fun x => congrArg (mk x.value) (Journal.append_empty x.journal))
    (fun _ _ => rfl)
    (fun x f g => congrArg (mk (g (f x.value).value).value) (Journal.append_assoc x.journal _ _))

@[simp] theorem value_map (f : α → β) (x : Journaled α) : (f <$> x).value = f x.value := rfl

@[simp] theorem journal_map (f : α → β) (x : Journaled α) : (f <$> x).journal = x.journal :=
  Journal.append_empty x.journal

def print (s : Styled) : Journaled Unit where
  value := ()
  journal := .ofText s

def log (level : Level) (message : String) : Journaled Unit where
  value := ()
  journal := .ofEvent level message

def exchange (e : Executor) (p : Probe) : Journaled Probe where
  value := e.execute p
  journal :=
    { entries := .exchange (e.exchange p) :: (e.log p).map .event }

@[simp] theorem value_print (s : Styled) : (print s).value = () := rfl

@[simp] theorem exchanges_print (s : Styled) : (print s).journal.exchanges = [] := rfl

@[simp] theorem value_log (level : Level) (message : String) : (log level message).value = () := rfl

@[simp] theorem exchanges_log (level : Level) (message : String) : (log level message).journal.exchanges = [] := rfl

@[simp] theorem value_exchange (e : Executor) (p : Probe) : (exchange e p).value = e.execute p := rfl

@[simp] theorem exchanges_exchange (e : Executor) (p : Probe) : (exchange e p).journal.exchanges = [e.exchange p] := by
  simp [exchange, Journal.exchanges]

end Journaled

end PodProbe
