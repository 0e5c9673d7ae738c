import RowIngest.Value
/-!
Values that standard JSON can hold. It has no numbers for infinity or for what is no number,
so a value with one of them anywhere inside cannot be written.
-/
namespace RowIngest.Json

mutual

def isFinite : Value → Bool
  | .float x => x.isFinite
  | .list items => allFinite items
  | .obj fields => allFieldsFinite fields
  | _ => true

def allFinite : List Value → Bool
  | [] => true
  | v :: rest => isFinite v && allFinite rest

def allFieldsFinite : List (String × Value) → Bool
  | [] => true
  | (_, v) :: rest => isFinite v && allFieldsFinite rest

end

/-- What is said of a value that cannot be written. -/
def notFiniteMessage : String := "Out of range float values are not JSON compliant"

end RowIngest.Json
