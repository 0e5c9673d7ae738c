import RowIngest.Mapping.Field
import RowIngest.Value.Shown
/-!
The root of the documents that a mapping builds, and the check of a mapping as a whole. A
mapping is accepted only if the place of every value is unambiguous: either one field
supplies the whole document, or no path of an inserted field leads through that of another.
-/
namespace RowIngest

/-- The root container of the documents a mapping builds. -/
inductive Shape where
  | object
  | array
  | inconsistent
  deriving DecidableEq

namespace Shape

def name : Shape → String
  | .object => "object"
  | .array => "array"
  | .inconsistent => "inconsistent"

def ofName? (s : String) : Option Shape :=
  [Shape.object, .array, .inconsistent].find? (·.name == s)

/-- The shape that a value names; any other value is refused. -/
def ofValue (v : Value) : Except Fault Shape :=
  let named? : Option Shape :=
    match v with
    | .str s => ofName? s
    | _ => none
  match named? with
  | some shape => .ok shape
  | none => .error (.ofForeign .wrongValue (v.shown ++ " is not a valid TopLevelShape"))

/-- How many fields want an array as the root, and how many an object. A field that is the
whole document has no say. -/
def votes (fields : List FieldMapping) : Nat × Nat :=
  let firsts := fields.filterMap fun f => f.path.head?
  (firsts.countP (·.isIndex), firsts.countP (!·.isIndex))

def ofFields (fields : List FieldMapping) : Shape :=
  match votes fields with
  | (0, _) => .object
  | (_, 0) => .array
  | _ => .inconsistent

end Shape

/-- One inserted field supplies the whole document. -/
def suppliesDocument (fields : List FieldMapping) : Bool :=
  fields.any fun f => f.isInsertable && f.isRoot && f.subDocument

namespace Mapping

/-- One path leads through the other or ends where it does. -/
def pathsOverlap (p q : Path) : Bool := p.isPrefixOf q || q.isPrefixOf p

/-- The first two fields, in the order of the list, whose paths overlap. -/
def overlap? : List FieldMapping → Option (FieldMapping × FieldMapping)
  | [] => none
  | f :: rest =>
    match rest.find? fun g => pathsOverlap f.path g.path with
    | some g => some (f, g)
    | none => overlap? rest

/-- Checks that the fields of a mapping do not get in each other's way. -/
def validate (fields : List FieldMapping) : Except ConfigProblem Unit :=
  match fields.find? fun f => f.isRoot && !f.subDocument with
  | some f => .error (.unplaced f.field)
  | none =>
    let insertable := fields.filter (·.isInsertable)
    match insertable.filter (·.isRoot) with
    | [] =>
      match overlap? insertable with
      | some (f, g) => .error (.overlap f.field g.field f.display g.display)
      | none => .ok ()
    | [root] =>
      let others := insertable.filter fun f => !f.isRoot && !f.isMatchKey
      if others.isEmpty then .ok ()
      else .error (.documentWithOthers root.field (others.map (·.field)))
    | roots => .error (.severalDocuments (roots.map (·.field)))

end Mapping

end RowIngest
