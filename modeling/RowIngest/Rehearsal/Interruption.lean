/-!
How a rehearsed load is interrupted: someone may ask it to stop at any time, also while it
pauses between two attempts.
-/
namespace RowIngest.Rehearsal

structure Interruption where
  cancelled : Bool
  pauses : Nat
  /-- The pause during which the load is cancelled, counted from one. -/
  cancelAtPause : Option Int

namespace Interruption

def none : Interruption := ⟨false, 0, .none⟩

def afterPause (i : Interruption) : Interruption :=
  let pauses := i.pauses + 1
  { i with pauses, cancelled := i.cancelled || i.cancelAtPause == some (pauses : Int) }

end Interruption

end RowIngest.Rehearsal
