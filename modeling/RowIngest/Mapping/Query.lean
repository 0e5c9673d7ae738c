import RowIngest.Mapping.Value
/-!
Match queries and modifier updates. Both address nested fields by dotted path. Null values
are left out: a condition on null would match documents that lack the field.
-/
namespace RowIngest

namespace Query

/-- Adds the condition of a match key. A value mapped to the root brings its own conditions. -/
def addCondition (row : Row) (query : Fields) (f : FieldMapping) : Except Fault Fields := do
  let v ← f.value row
  if v.isNull then return query
  else if f.isRoot then
    match v with
    | .obj fields => return Fields.merge query fields
    | _ => throw (.field f.field .matchNotObject)
  else return Fields.set query f.dotted v

/-- The fields that a document is found by. -/
def matched (fields : List FieldMapping) : List FieldMapping := fields.filter (·.isMatchKey)

/-- The query that finds the document of a row, if the row has any match value. -/
def ofRow (fields : List FieldMapping) (row : Row) : Except Fault (Option Fields) := do
  let query ← (matched fields).foldlM (addCondition row) []
  return if query.isEmpty then none else some query

end Query

/-- A modifier update before it is written as a value: for each operator, the new values. -/
abbrev Update := List (String × Fields)

namespace Update

def addChange (row : Row) (update : Update) (f : FieldMapping) : Except Fault Update := do
  let v ← f.value row
  if v.isNull then return update
  else
    let changes := (Fields.get? update f.modifier.text).getD []
    return Fields.set update f.modifier.text (Fields.set changes f.dotted v)

def toValue (update : Update) : Value := .obj (update.map fun (op, changes) => (op, .obj changes))

/-- The fields that are changed. Match keys are not among them. -/
def changed (fields : List FieldMapping) : List FieldMapping :=
  fields.filter fun f => !f.isMatchKey && !f.isRoot

/-- The update that a row stands for, if it changes anything. -/
def ofRow (fields : List FieldMapping) (row : Row) : Except Fault (Option Value) := do
  let update ← (changed fields).foldlM (addChange row) []
  return if update.isEmpty then none else some update.toValue

end Update

end RowIngest
