import RowIngest.Mapping.Field
/-!
The value that a row has for a mapped field. Null means that the field is left out. The
value of a sub-document field is read from JSON text; containers are taken as they are, and
blank text counts as null. A source may hand over rows that are no objects; these have
nothing to look a field up with, which shows once a field is read.
-/
namespace RowIngest

/-- A row as its source hands it over, ready to be read by these fields. Where there are none
it does not matter what the row is. -/
def Row.read (fields : List FieldMapping) : Value → Except Fault Row
  | .obj row => .ok row
  | v => if fields.isEmpty then .ok [] else .error (.lacks v "get")

namespace FieldMapping

def subDocumentValue (v : Value) : Except FieldProblem Value :=
  match v with
  | .null => .ok .null
  | .list items => .ok (.list items)
  | .obj fields => .ok (.obj fields)
  | .str s =>
    if Text.isBlankText s then .ok .null else (Json.read s).mapError .badJson
  | v => .error (.notText v.typeName)

def value (f : FieldMapping) (row : Row) : Except Fault Value :=
  let v := row.value f.field
  if f.subDocument then (subDocumentValue v).mapError (.field f.field) else .ok v

end FieldMapping

end RowIngest
