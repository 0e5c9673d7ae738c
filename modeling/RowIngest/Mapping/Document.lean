import RowIngest.Mapping.Shape
import RowIngest.Mapping.Shared
/-!
Documents built from rows. The fields are placed one after the other in the order of the
mapping. The same row and mapping always give the same document, order of keys included.
-/
namespace RowIngest

/-- How rows become documents: the inserted fields, and the root they are placed in or the
fact that one of them is the whole document; and what arrays there is room for. -/
structure DocumentPlan where
  room : Room
  fields : List FieldMapping
  root : Value
  wholeDocument : Bool
  /-- The path of one field leads through the place of another. -/
  nested : Bool

namespace DocumentPlan

/-- The path of one field leads through the place of another. -/
def isNested (fields : List FieldMapping) : Bool :=
  fields.any fun f => fields.any fun g => f.path.isPrefixOf g.path && f.path ≠ g.path

def make (room : Room) (fields : List FieldMapping) (shape : Shape) (wholeDocument : Bool) :
    Except ConfigProblem DocumentPlan :=
  let insertable := fields.filter (·.isInsertable)
  let nested := isNested insertable
  match shape with
  | .object => .ok ⟨room, insertable, .obj [], wholeDocument, nested⟩
  | .array => .ok ⟨room, insertable, .list [], wholeDocument, nested⟩
  | .inconsistent => .error .mixedDocuments

/-- The value of the field that is the whole document. -/
def wholeValue (m : DocumentPlan) (row : Row) : Except Fault (Option Value) :=
  match m.fields.find? (·.isRoot) with
  | none => .ok none
  | some f => do
    let v ← f.value row
    if v.isNull then return none
    else if v.isContainer then return some v
    else throw (.field f.field .documentNotContainer)

/-- The document with every field placed, unless all of them are null. Only where paths lead
through one another does it matter that the row holds its containers still. -/
def assemble (m : DocumentPlan) (row : Row) : Except Fault (Option Value) := do
  let document ←
    if m.nested then Shared.document m.room m.fields m.root row
    else m.fields.foldlM (Document.addField m.room row) m.root
  return if document.isTruthy then some document else none

def map (m : DocumentPlan) (row : Row) : Except Fault (Option Value) :=
  if m.wholeDocument then m.wholeValue row else m.assemble row

end DocumentPlan

end RowIngest
