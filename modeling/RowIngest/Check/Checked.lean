import RowIngest.Fault
/-!
The result of checking a loosely typed value: a typed value, the issues found, or a fault
that ends the check at once. Checks side by side collect their issues in order; a fault
anywhere wins over issues.
-/
namespace RowIngest

inductive Checked (α : Type) where
  | valid (a : α)
  | issues (is : List Check.Issue)
  | fault (f : Fault)

namespace Checked

variable {α β : Type}

def map (g : α → β) : Checked α → Checked β
  | .valid a => .valid (g a)
  | .issues is => .issues is
  | .fault f => .fault f

/-- Both checks are made; the issues of the first come first. -/
def both (g : Checked (α → β)) (x : Unit → Checked α) : Checked β :=
  match g with
  | .fault f => .fault f
  | .valid g => (x ()).map g
  | .issues is =>
    match x () with
    | .valid _ => .issues is
    | .issues js => .issues (is ++ js)
    | .fault f => .fault f

instance : Applicative Checked where
  pure := .valid
  map := map
  seq := both

/-- A further check of what is valid so far. -/
def andThen (x : Checked α) (next : α → Checked β) : Checked β :=
  match x with
  | .valid a => next a
  | .issues is => .issues is
  | .fault f => .fault f

def issue (c : Check.Complaint) : Checked α := .issues [⟨[], c⟩]

/-- Moves the issues of a check to a place further out. -/
def within (p : Check.Place) : Checked α → Checked α
  | .issues is => .issues (is.map (·.within p))
  | x => x

/-- The valid value; issues are a fault of their own. -/
def toExcept : Checked α → Except Fault α
  | .valid a => .ok a
  | .issues is => .error (.invalid is)
  | .fault f => .error f

/-- Checks every item of a list. -/
def items (check : Value → Checked α) : Nat → List Value → Checked (List α)
  | _, [] => .valid []
  | n, v :: vs => both (map List.cons ((check v).within (.item n))) fun _ => items check (n + 1) vs

theorem items_valid_length {check : Value → Checked α} {n : Nat} {vs : List Value} {as : List α}
    (h : items check n vs = .valid as) : as.length = vs.length := by
  induction vs generalizing n as with
  | nil => simp_all [items]
  | cons v vs ih =>
    simp only [items] at h
    cases hc : (check v).within (.item n) with
    | issues is => cases ht : items check (n + 1) vs <;> simp [hc, ht, map, both] at h
    | fault f => simp [hc, map, both] at h
    | valid a =>
      cases ht : items check (n + 1) vs with
      | issues is => simp [hc, ht, map, both] at h
      | fault f => simp [hc, ht, map, both] at h
      | valid bs =>
        simp only [hc, ht, map, both, Checked.valid.injEq] at h
        simp [← h, ih ht]

end Checked

end RowIngest
