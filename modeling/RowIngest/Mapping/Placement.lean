import RowIngest.Mapping.Value
/-!
Placing a value in a document. Objects and arrays on the way to a place are made when they are
first needed, and arrays are filled up with null to the position wanted. What stands on the
way and is no container for the next step is left as it is, and the value is not placed.
-/
namespace RowIngest

namespace Document

/-- Why a value cannot be placed: something is in its way, or an array cannot be filled up so
far that its position is reached. -/
inductive Obstacle where
  | inTheWay (p : FieldProblem)
  | noRoom
  | uncountable

namespace Obstacle

/-- The fault of a field that cannot be placed. -/
def fault (field : String) : Obstacle → Fault
  | .inTheWay p => .field field p
  | .noRoom => .ofForeign .outOfMemory ""
  | .uncountable => .ofForeign .overflow "cannot fit 'int' into an index-sized integer"

end Obstacle

/-- Whether an array of a length reaches to a position or can be filled up to it. -/
def checkRoom (room : Room) (length position : Nat) : Except Obstacle Unit :=
  if position < length then .ok ()
  else if countLimit ≤ position + 1 - length then .error .uncountable
  else if room.positions ≤ position then .error .noRoom
  else .ok ()

/-- What a container has at a segment, null where it has nothing. -/
def slot (container : Value) (s : Segment) : Value :=
  match s, container with
  | .key name, .obj fields => (Fields.get? fields name).getD .null
  | .index position, .list items => items[position]?.getD .null
  | _, _ => .null

/-- Sets a position of a list, which is filled up if it is too short. -/
def setAt {α : Type} (filling : α) (items : List α) (position : Nat) (v : α) : List α :=
  if position < items.length then items.set position v
  else items ++ List.replicate (position - items.length) filling ++ [v]

/-- Puts a value into a container; `shown` is the path as messages give it. -/
def put (room : Room) (shown : String) (container : Value) (s : Segment) (v : Value) :
    Except Obstacle Value :=
  match s, container with
  | .key name, .obj fields => .ok (.obj (Fields.set fields name v))
  | .key name, _ => .error (.inTheWay (.keyInArray name shown))
  | .index position, .list items =>
    (checkRoom room items.length position).map fun _ => .list (setAt .null items position v)
  | .index position, _ => .error (.inTheWay (.positionInObject position shown))

/-- The empty container for a segment to be put into. -/
def emptyFor : Segment → Value
  | .key _ => .obj []
  | .index _ => .list []

def wrongContainer (shown : String) : Segment → Obstacle
  | .key _ => .inTheWay (.notObject shown)
  | .index _ => .inTheWay (.notArray shown)

/-- The container at a segment, made if there is none, into which `next` can be put. -/
def containerAt (room : Room) (shown : String) (container : Value) (s next : Segment) :
    Except Obstacle Value :=
  match slot container s, next with
  | .null, _ => (put room shown container s (emptyFor next)).map fun _ => emptyFor next
  | .obj fields, .key _ => .ok (.obj fields)
  | .list items, .index _ => .ok (.list items)
  | _, _ => .error (wrongContainer shown next)

/-- Places a value in a container at a path of a first segment and the others. -/
def place (room : Room) (shown : String) (v container : Value) (s : Segment) (rest : Path) :
    Except Obstacle Value :=
  match rest with
  | [] => put room shown container s v
  | next :: rest => do
    let inner ← containerAt room shown container s next
    put room shown container s (← place room shown v inner next rest)

/-- A place is wanted for a field that has no path. -/
def placeless : Fault := .ofForeign .missingItem "tuple index out of range"

/-- Places the value of a field, which must not be the whole document. -/
def placeField (room : Room) (document : Value) (f : FieldMapping) (v : Value) :
    Except Fault Value :=
  match f.path with
  | [] => .error placeless
  | s :: rest => (place room f.display v document s rest).mapError (Obstacle.fault f.field)

/-- Places the value that a row has for a field, if it is not null. -/
def addField (room : Room) (row : Row) (document : Value) (f : FieldMapping) :
    Except Fault Value := do
  let v ← f.value row
  if v.isNull then return document else placeField room document f v

end Document

end RowIngest
