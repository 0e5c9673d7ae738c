import RowIngest.Run.Load
import Mathlib.Logic.Relation
/-!
What an action comes to. Executing an action gives its result and the load that it leaves
behind. The surroundings only ever move by the requests that are made of them, so whatever
all requests keep true stays true through a load.
-/
namespace RowIngest

variable {σ α β : Type}

namespace Surroundings

/-- One request moves the surroundings, whatever it answers. -/
inductive Moves (s : Surroundings σ) : σ → σ → Prop
  | write (w : Write) (x : σ) : Moves s x (s.write w x).state
  | createIndex (r : IndexRequest) (x : σ) : Moves s x (s.createIndex r x).state
  | command (c : Command) (x : σ) : Moves s x (s.command c x).state
  | cancelled (x : σ) : Moves s x (s.cancelled x).2
  | sleep (d : Binary64) (x : σ) : Moves s x (s.sleep d x)

/-- Any number of requests, one after the other. -/
def Reaches (s : Surroundings σ) : σ → σ → Prop := Relation.ReflTransGen s.Moves

theorem Reaches.refl (s : Surroundings σ) (x : σ) : s.Reaches x x := Relation.ReflTransGen.refl

theorem Reaches.trans {s : Surroundings σ} {x y z : σ} (hxy : s.Reaches x y)
    (hyz : s.Reaches y z) : s.Reaches x z := Relation.ReflTransGen.trans hxy hyz

theorem Moves.reaches {s : Surroundings σ} {x y : σ} (h : s.Moves x y) : s.Reaches x y :=
  Relation.ReflTransGen.single h

/-- On the way from one state to the other the wish to cancel is noticed. -/
def Notices (s : Surroundings σ) (x y : σ) : Prop :=
  ∃ z, s.Reaches x z ∧ (s.cancelled z).1 = true ∧ s.Reaches (s.cancelled z).2 y

/-- The wish to cancel is noticed before anything else is asked for. -/
def Heeds (s : Surroundings σ) (x y : σ) : Prop :=
  (s.cancelled x).1 = true ∧ s.Reaches (s.cancelled x).2 y

theorem Heeds.notices {s : Surroundings σ} {x y : σ} (h : s.Heeds x y) : s.Notices x y :=
  ⟨x, .refl s x, h⟩

/-- The wish to cancel is uttered once and never taken back. `asked` tells whether it has been
uttered; it may be uttered at any time, also while a request is under way. -/
structure Latches (s : Surroundings σ) (asked : σ → Prop) : Prop where
  stays : ∀ {x y : σ}, s.Moves x y → asked x → asked y
  tells : ∀ {x : σ}, asked x → (s.cancelled x).1 = true
  told : ∀ {x : σ}, (s.cancelled x).1 = true → asked (s.cancelled x).2

theorem Latches.asked_of_reaches {s : Surroundings σ} {asked : σ → Prop} (h : s.Latches asked)
    {x y : σ} (hxy : s.Reaches x y) (hx : asked x) : asked y := by
  induction hxy with
  | refl => exact hx
  | tail _ hmove ih => exact h.stays hmove ih

theorem Latches.asked_of_notices {s : Surroundings σ} {asked : σ → Prop} (h : s.Latches asked)
    {x y : σ} (hxy : s.Notices x y) : asked y := by
  obtain ⟨z, -, hyes, hzy⟩ := hxy
  exact h.asked_of_reaches hzy (h.told hyes)

end Surroundings

namespace Action

/-- What an action comes to: its result, and the load that it leaves behind. -/
def exec (x : Action σ α) (l : Load σ) : Except Fault α × Load σ := x.run.run l

@[simp] theorem exec_pure (a : α) (l : Load σ) : exec (pure a) l = (.ok a, l) := rfl

@[simp] theorem exec_throw (f : Fault) (l : Load σ) :
    exec (throw f : Action σ α) l = (.error f, l) := rfl

@[simp] theorem exec_get (l : Load σ) : exec get l = (.ok l, l) := rfl

@[simp] theorem exec_set (l l' : Load σ) :
    exec (set l' : Action σ PUnit) l = (.ok ⟨⟩, l') := rfl

@[simp] theorem exec_modify (f : Load σ → Load σ) (l : Load σ) :
    exec (modify f : Action σ PUnit) l = (.ok ⟨⟩, f l) := rfl

@[simp] theorem exec_modifyGet (f : Load σ → α × Load σ) (l : Load σ) :
    exec (modifyGet f : Action σ α) l = (.ok (f l).1, (f l).2) := rfl

@[simp] theorem exec_settle (r : Except Fault α) (l : Load σ) : exec (settle r) l = (r, l) := by
  cases r <;> rfl

@[simp] theorem exec_liftM (r : Except Fault α) (l : Load σ) :
    exec (liftM r : Action σ α) l = (r, l) := by
  cases r <;> rfl

@[simp] theorem exec_happen (e : Event) (l : Load σ) :
    exec (happen e) l = (.ok (), l.record e) := rfl

@[simp] theorem exec_log (level : Log.Level) (logger : Log.Logger) (message : String)
    (extra : Fields) (l : Load σ) :
    exec (log level logger message extra) l =
      (.ok (), l.record (.logged ⟨level, logger, message, extra⟩)) := rfl

/-- A later action starts where the earlier one ended, unless that one raised a fault. -/
theorem exec_bind (x : Action σ α) (f : α → Action σ β) (l : Load σ) :
    exec (x >>= f) l =
      match exec x l with
      | (.ok a, l') => exec (f a) l'
      | (.error e, l') => (.error e, l') := by
  rcases h : exec x l with ⟨r, l'⟩
  have h' : x.run.run l = (r, l') := h
  simp only [exec, ExceptT.run_bind, StateT.run_bind, h']
  cases r <;> rfl

theorem exec_tryCatch (x : Action σ α) (h : Fault → Action σ α) (l : Load σ) :
    exec (tryCatch x h) l =
      match exec x l with
      | (.ok a, l') => (.ok a, l')
      | (.error e, l') => exec (h e) l' := by
  rcases hx : exec x l with ⟨r, l'⟩
  have hx' : StateT.run (m := Id) x l = (r, l') := hx
  change StateT.run (ExceptT.tryCatch x h) l = _
  simp only [ExceptT.tryCatch, ExceptT.mk, StateT.run_bind, hx']
  cases r <;> rfl

@[simp] theorem exec_isCancelled (s : Surroundings σ) (l : Load σ) :
    exec (isCancelled s) l = (.ok (s.cancelled l.surroundings).1,
      { l with surroundings := (s.cancelled l.surroundings).2 }) := rfl

end Action

end RowIngest
