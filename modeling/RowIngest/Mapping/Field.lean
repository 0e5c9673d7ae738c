import RowIngest.Check.Scalar
import RowIngest.Path
/-!
Mapped fields: one incoming field and one place in the document. The place is a target path,
to which the name of the field is added as a last key unless the mapping says otherwise.
-/
namespace RowIngest

/-- The operators of a modifier update. -/
inductive Modifier where
  | set
  | inc
  | push
  deriving DecidableEq

namespace Modifier

def text : Modifier → String
  | .set => "$set"
  | .inc => "$inc"
  | .push => "$push"

def all : List (String × Modifier) := [("$set", .set), ("$inc", .inc), ("$push", .push)]

end Modifier

/-- A path that cannot be read, as a fault. -/
def PathError.fault : PathError → Fault
  | .malformed path part => .config (.malformedPath path part)
  | .longIndex digits => .ofForeign .wrongValue (Json.longIntegerMessage digits)

structure FieldMapping where
  field : String
  /-- The target path as written, trimmed. -/
  target : String
  base : Path
  appendsField : Bool
  isMatchKey : Bool
  modifierOnly : Bool
  /-- The value is JSON text to be read and spliced in. -/
  subDocument : Bool
  modifier : Modifier

namespace FieldMapping

def path (f : FieldMapping) : Path :=
  if f.appendsField then f.base ++ [.key f.field] else f.base

def dotted (f : FieldMapping) : String := f.path.dotted

def display (f : FieldMapping) : String := f.path.display

/-- The value is the whole document. -/
def isRoot (f : FieldMapping) : Bool := f.path.isEmpty

/-- The field is part of inserted documents, not of modifier updates alone. -/
def isInsertable (f : FieldMapping) : Bool := !f.modifierOnly

def checkTarget (v : Value) : Checked (String × Path) :=
  (Check.string v).andThen fun text =>
    let trimmed := Text.trimChars Text.isBlank text.toList
    match Path.parseTrimmed trimmed with
    | .ok path => .valid (String.ofList trimmed, path)
    | .error (.malformed path part) => .fault (.config (.malformedPath path part))
    | .error (.longIndex digits) => .issue (.refused (Json.longIntegerMessage digits))

def checkFields (fs : Fields) : Checked FieldMapping :=
  let make (field : String) (target : String × Path) (appendsField isMatchKey modifierOnly
      subDocument : Bool) (modifier : Modifier) : FieldMapping :=
    ⟨field, target.1, target.2, appendsField, isMatchKey, modifierOnly, subDocument, modifier⟩
  make <$> Check.required fs "incoming_field_name" Check.nonemptyString
    <*> Check.optional fs "target_path" ("", []) checkTarget
    <*> Check.optional fs "use_incoming_field_name" true Check.bool
    <*> Check.optional fs "match_key" false Check.bool
    <*> Check.optional fs "modifier_update_only" false Check.bool
    <*> Check.optional fs "parse_as_sub_document" false Check.bool
    <*> Check.optional fs "modifier_operation" .set
      (Check.among Modifier.all "'$set', '$inc' or '$push'")

def check (source : Check.Source) (v : Value) : Checked FieldMapping :=
  (Check.model source "PathSpec" v).andThen checkFields

end FieldMapping

end RowIngest
