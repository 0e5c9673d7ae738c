import RowIngest.Fault
import RowIngest.Value.Shown
/-!
Errors that are stated by hand. Each category has parts of its own that may be given, by name
and loosely typed; a part that is left out has its usual value. What does not fit is refused.
-/
namespace RowIngest

/-- An error whose parts are kept as they were given. -/
structure Statement where
  category : Category
  message : Value
  statusCode : Value
  errorCode : Value
  details : Value

namespace Statement

/-- The parts that a category can be given, and the one that it must be given. -/
def parts : Category → List String × Option String
  | .application | .configuration | .transformation | .store =>
    (["message", "status_code", "error_code", "details"], none)
  | .documentRejected | .storeWrite | .writeFailure => (["message", "details"], none)
  | .fieldMismatch => (["missing_fields", "details"], some "missing_fields")
  | .mappingField => (["field_name", "reason", "details"], some "field_name")

/-- Why a part cannot be given, if it cannot. -/
def misfit? (c : Category) (name : String) : Option String :=
  if name = "self" then some "got multiple values for argument 'self'"
  else if (parts c).1.contains name then none
  else some ("got an unexpected keyword argument '" ++ name ++ "'")

/-- What is wrong with the parts that are given, taken in their order. -/
def complaint? (c : Category) (given : Fields) : Option String :=
  (given.findSome? fun (name, _) => misfit? c name).or do
    let needed ← (parts c).2
    if (Fields.names given).contains needed then none
    else some ("missing 1 required positional argument: '" ++ needed ++ "'")

/-- The items of what can be gone through: a list, the characters of a text, the names in an
object. -/
def items : Value → Except Fault (List Value)
  | .list vs => .ok vs
  | .str s => .ok (s.toList.map fun c => .str (String.singleton c))
  | .obj fields => .ok (fields.map fun (name, _) => .str name)
  | v => .error (.ofForeign .wrongType s!"'{v.typeName}' object is not iterable")

/-- Details to which more can be added. -/
def openDetails (v : Value) : Except Fault Fields :=
  match v.isTruthy, v with
  | false, _ => .ok []
  | true, .obj fields => .ok fields
  | true, v => .error (.ofForeign .wrongType s!"'{v.typeName}' object is not a mapping")

def ofCategory (c : Category) (message details : Value) : Statement :=
  ⟨c, message, .int c.statusCode, .str c.errorCode, details⟩

/-- Fields that rows lack. -/
def missingFields (names details : Value) : Except Fault Statement := do
  let quotedNames := (← items names).map fun name => "'" ++ name.text ++ "'"
  let details ← openDetails details
  return .ofCategory .fieldMismatch
    (.str (Category.defaultMessage .fieldMismatch ++ ", ".intercalate quotedNames))
    (.obj (Fields.set details "missing_fields" names))

/-- A field that cannot be mapped. -/
def mappingField (name reason details : Value) : Except Fault Statement := do
  let details ← openDetails details
  return .ofCategory .mappingField
    (.str s!"Failed to map field '{name.text}': {reason.text}")
    (.obj (Fields.set details "field" name))

/-- States an error of a category with the parts that are given. -/
def make (c : Category) (given : Fields) : Except Fault Statement :=
  let part (name : String) (usual : Value) : Value := (Fields.get? given name).getD usual
  let message := Value.str c.defaultMessage
  let details := part "details" .null
  match complaint? c given with
  | some complaint =>
    .error (.ofForeign .wrongType (c.name ++ ".__init__() " ++ complaint))
  | none =>
    match c with
    | .fieldMismatch => missingFields (part "missing_fields" .null) details
    | .mappingField => mappingField (part "field_name" .null) (part "reason" message) details
    | _ =>
      .ok ⟨c, part "message" message, part "status_code" (.int c.statusCode),
        part "error_code" (.str c.errorCode), if details.isTruthy then details else .obj []⟩

/-- The statement as an object; details are left out where they say nothing. -/
def toFields (s : Statement) : Fields :=
  [("error", .bool true), ("error_code", s.errorCode), ("message", s.message)]
    ++ if s.details.isTruthy then [("details", s.details)] else []

end Statement

end RowIngest
