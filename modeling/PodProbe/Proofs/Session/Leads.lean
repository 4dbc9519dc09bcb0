import PodProbe.Program.Desk
import PodProbe.Session

/-!
This module contains the rules by which it is found out what a session leads to. Of the desk that it is held at only
the files, what is still typed and the probes that were sent matter; what the session tells, and the time that it
takes, do not.
-/

namespace PodProbe

structure Standing where
  files : FileTree
  typed : Bytes
  exchanges : List Exchange

def Desk.standing (d : Desk) : Standing where
  files := d.files
  typed := d.typed
  exchanges := d.journal.exchanges

namespace Desk

variable (d : Desk)

@[simp] theorem files_standing : d.standing.files = d.files := rfl

@[simp] theorem typed_standing : d.standing.typed = d.typed := rfl

@[simp] theorem exchanges_standing : d.standing.exchanges = d.journal.exchanges := rfl

end Desk

namespace Session

variable {α β : Type} {s : Session α} {f : α → Session β} {r : Except RunError β} {u v w : Standing}

/-- A session that is begun as things stand ends with a result, and things stand in another way then. -/
def Leads (v : Standing) (s : Session α) (r : Except RunError α) (w : Standing) : Prop :=
  ∀ d : Desk, d.standing = v → (d.run s.run).1 = r ∧ (d.run s.run).2.standing = w

/-! ### Sessions after one another -/

theorem leads_pure (v : Standing) (a : α) : Leads v (pure a) (.ok a) v :=
  fun _ h => ⟨rfl, h⟩

theorem leads_throw (v : Standing) (e : RunError) : Leads v (throw e : Session α) (.error e) v :=
  fun _ h => ⟨rfl, h⟩

theorem leads_lift (v : Standing) (x : Except RunError α) : Leads v (liftM x : Session α) x v :=
  fun _ h => ⟨rfl, h⟩

theorem Leads.bind {a : α} (h : Leads v s (.ok a) u) (hf : Leads u (f a) r w) : Leads v (s >>= f) r w := by
  intro d hd
  obtain ⟨hvalue, hstanding⟩ := h d hd
  rw [ExceptT.run_bind, Desk.run_bind, hvalue]
  exact hf _ hstanding

theorem Leads.bind_error {e : RunError} (h : Leads v s (.error e) w) : Leads v (s >>= f) (.error e) w := by
  intro d hd
  obtain ⟨hvalue, hstanding⟩ := h d hd
  rw [ExceptT.run_bind, Desk.run_bind, hvalue]
  exact ⟨rfl, hstanding⟩

/-- What is done after a session, whatever it ends with if not by an error. -/
theorem Leads.andThen {s t : Session Unit} {r : Except RunError Unit} (h : Leads v s r w)
    (ht : Leads w t (.ok ()) w) : Leads v (s >>= fun _ => t) r w := by
  cases r with
  | error e => exact h.bind_error
  | ok => exact h.bind ht

theorem leads_forIn (xs : List α) {f : α → Session Unit} (h : ∀ x, Leads v (f x) (.ok ()) v) :
    Leads v (forIn xs PUnit.unit fun x _ => do f x; pure (.yield PUnit.unit)) (.ok PUnit.unit) v := by
  induction xs with
  | nil => exact leads_pure v _
  | cons x xs ih =>
    rw [List.forIn_cons]
    refine Leads.bind (a := ForInStep.yield PUnit.unit) ?_ ih
    exact (h x).bind (leads_pure v _)

/-! ### Commands -/

theorem leads_find (v : Standing) (path : String) :
    Leads v (command (.find path)) (.ok (v.files.find? path).isSome) v := by
  rintro d rfl
  exact ⟨rfl, rfl⟩

theorem leads_read (v : Standing) (path : String) :
    Leads v (command (.read path)) (.ok ((v.files.read path).mapError FileError.chain)) v := by
  rintro d rfl
  exact ⟨rfl, rfl⟩

theorem leads_work (v : Standing) (tasks : List FileTask) :
    Leads v (command (.work tasks)) (.ok (v.files.perform tasks).1)
      { v with files := (v.files.perform tasks).2 } := by
  rintro d rfl
  exact ⟨rfl, rfl⟩

theorem leads_readLine (v : Standing) :
    Leads v (command .readLine) (.ok (Bytes.splitLine v.typed).1)
      { v with typed := (Bytes.splitLine v.typed).2 } := by
  rintro d rfl
  exact ⟨rfl, rfl⟩

theorem leads_report (v : Standing) {j : Journal} {xs : List Exchange} (h : j.exchanges = xs) :
    Leads v (command (.report j)) (.ok ()) { v with exchanges := v.exchanges ++ xs } := by
  rintro d rfl
  exact ⟨rfl, congrArg (Standing.mk _ _) (h ▸ Journal.exchanges_append _ _)⟩

theorem leads_now {f : Moment → Session β} (h : ∀ m, Leads v (f m) r w) : Leads v (command .now >>= f) r w :=
  fun d hd => h d.clock d hd

theorem leads_print (v : Standing) (s : Text.Styled) : Leads v (print s) (.ok ()) v := by
  have h : Leads v (print s) (.ok ()) { v with exchanges := v.exchanges ++ [] } := leads_report v rfl
  rwa [List.append_nil] at h

theorem leads_inform (v : Standing) (message : String) : Leads v (inform message) (.ok ()) v := by
  have h : Leads v (inform message) (.ok ()) { v with exchanges := v.exchanges ++ [] } := leads_report v rfl
  rwa [List.append_nil] at h

end Session

end PodProbe
