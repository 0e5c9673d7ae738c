import RowIngest.Run.Load
/-!
Making and dropping indexes. All of them are checked before the first request. Nothing is
dropped from a collection that was itself dropped when the load began.
-/
namespace RowIngest.Indexing

variable {σ : Type}

/-- A sparse index covers one field. -/
def isCoverable (spec : IndexChange) : Bool := !(spec.sparse && spec.keys.length > 1)

/-- Makes or drops one index; the name of an index that was made is added to the others. -/
def applyOne (s : Surroundings σ) (truncated : Bool) (made : List String) (spec : IndexChange) :
    Action σ (List String) := do
  let keys := ("keys", spec.keys.value)
  if spec.drop then
    if truncated then
      Action.log .info .indexes "Skipping index drop; collection was truncated" [keys]
    else
      Action.log .info .indexes "Dropping index" [keys]
      Action.command s (.dropIndex spec.keys)
    return made
  Action.log .info .indexes "Creating index"
    [keys, ("unique", .bool spec.unique), ("sparse", .bool spec.sparse)]
  let name ← Action.createIndex s ⟨spec.keys, spec.unique, spec.sparse, true⟩
  return made ++ [name]

/-- Makes and drops indexes in order. The names are those of the indexes made. -/
def apply (s : Surroundings σ) (truncated : Bool) (specs : List IndexChange) :
    Action σ (List String) := do
  match specs.find? (!isCoverable ·) with
  | some spec => throw (.config (.sparseKeys spec.keys))
  | none => specs.foldlM (applyOne s truncated) []

end RowIngest.Indexing
