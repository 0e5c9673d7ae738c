import RowIngest.Mapping.Document
import RowIngest.Mapping.Query
import RowIngest.Run.Batch
import RowIngest.Run.Indexing
import RowIngest.Run.Upsert
/-!
A load from its first row to its last. The first row decides whether the mapping can be used
at all, before anything is asked of the store but to be closed. Each row is mapped and
written before the next one is taken; after the last one the rest of the batch is written
and the indexes are made. A load that stops, for whatever reason, closes its store once.
-/
namespace RowIngest

/-- A load configuration together with the surroundings it is used in. -/
structure Loader (σ : Type) where
  config : LoadConfig
  surroundings : Surroundings σ
  /-- Every step is taken in a scope that is entered before it and left after it. -/
  ownScope : Bool

namespace LoadConfig

def policy (c : LoadConfig) : Retry.Policy := ⟨c.retries, c.retryDelay⟩

def shape (c : LoadConfig) : Shape := Shape.ofFields c.fields

def documentPlan (c : LoadConfig) (room : Room) : Except ConfigProblem DocumentPlan :=
  DocumentPlan.make room c.fields c.shape (suppliesDocument c.fields)

/-- Whole documents are written; a modifier update alone needs none. -/
def writesDocuments (c : LoadConfig) : Bool := !(c.upsert && c.modifierUpdate)

/-- The first problem of the mapping that does not depend on the rows. -/
def checkMapping (c : LoadConfig) (acceptsArrays : Bool) : Except ConfigProblem Unit :=
  if c.shape = .inconsistent then .error .mixedRoots
  else if c.shape = .array && c.writesDocuments && !acceptsArrays then .error .arrayRoots
  else Mapping.validate c.fields

def fieldNames (c : LoadConfig) : List String := c.fields.map (·.field)

/-- The mapped fields that a row lacks, each of them once. -/
def missingFrom (c : LoadConfig) (row : Row) : List String :=
  c.fieldNames.eraseDups.filter fun name => !(Fields.names row).contains name

/-- The fields of a row that are not mapped. -/
def unusedIn (c : LoadConfig) (row : Row) : List String :=
  (Fields.names row).filter fun name => !c.fieldNames.contains name

end LoadConfig

namespace Loader

variable {σ : Type}

def enterPhase (phase : Phase) : Action σ Unit := modify fun l => { l with phase }

def skip (reason : String) : Action σ Unit := do
  modify fun l => { l with rowsSkipped := l.rowsSkipped + 1 }
  Action.log .debug .rows reason [("row_number", .int (← get).rowsRead)]

/-- Closes the store, unless the load has come to its end already. -/
def closeStore (p : Loader σ) : Action σ Unit := do
  if (← get).phase ≠ .terminated then
    enterPhase .terminated
    Action.command p.surroundings .close

/-- Decides on the shape of the documents; disagreement about it is logged. -/
def resolveShape (c : LoadConfig) : Action σ Unit := do
  if c.shape = .inconsistent then
    let (arrays, objects) := Shape.votes c.fields
    Action.log .error .shapes "Inconsistent top-level document structure"
      [("array_rooted", .int arrays), ("object_rooted", .int objects)]
  modify fun l => { l with shape := some c.shape }

/-- Checks that a row has every mapped field; fields that are not mapped are logged. -/
def checkRow (c : LoadConfig) : Value → Action σ Unit
  | .obj row => do
    let missing := c.missingFrom row
    if !missing.isEmpty then throw (.missingFields missing)
    let unused := c.unusedIn row
    if !unused.isEmpty then
      Action.log .info .rows "Incoming fields not written" [("fields", .list (unused.map .str))]
  | v => throw (.lacks v "keys")

/-- Empties the collection if that is wanted, and makes sure that it exists. -/
def prepareCollection (p : Loader σ) : Action σ Unit := do
  if p.config.truncate then
    Action.log .info .rows "Truncating collection"
      [("collection", .str p.config.collection)]
    Action.command p.surroundings .drop
    modify fun l => { l with truncated := true }
  Action.command p.surroundings .ensureCollection

/-- All that is done once, when the first row is there. -/
def prepare (p : Loader σ) (row : Value) : Action σ Unit := do
  resolveShape p.config
  match p.config.checkMapping p.surroundings.acceptsArrays with
  | .error problem => throw (.config problem)
  | .ok _ => checkRow p.config row
  prepareCollection p
  enterPhase .active
  Action.log .info .rows "Pipeline active"
    [("shape", .str p.config.shape.name), ("batch_size", .int p.config.batchSize),
     ("upsert", .bool p.config.upsert), ("modifier_update", .bool p.config.modifierUpdate)]

/-- The document of a row. One that was assembled from fields is logged. -/
def document (c : LoadConfig) (room : Room) (row : Value) : Action σ (Option Value) := do
  match c.documentPlan room with
  | .error problem => throw (.config problem)
  | .ok mapper =>
    let made ← Action.settle (do mapper.map (← Row.read mapper.fields row))
    match made with
    | some d =>
      if !mapper.wholeDocument then
        Action.log .debug .documents "Built document" [("document", d)]
      return some d
    | none => return none

def query (c : LoadConfig) (row : Value) : Action σ (Option Value) := do
  let found := do Query.ofRow c.fields (← Row.read (Query.matched c.fields) row)
  match ← Action.settle found with
  | some conditions =>
    Action.log .debug .queries "Built upsert query" [("query", .obj conditions)]
    return some (.obj conditions)
  | none => return none

def modifierUpdate (c : LoadConfig) (row : Value) : Action σ (Option Value) := do
  let made := do Update.ofRow c.fields (← Row.read (Update.changed c.fields) row)
  match ← Action.settle made with
  | some update =>
    Action.log .debug .queries "Built modifier update" [("update", update)]
    return some update
  | none => return none

def insertRow (p : Loader σ) (row : Value) : Action σ Unit := do
  match ← document p.config p.surroundings.room row with
  | none => skip "Row produced no document"
  | some d => Batch.add p.surroundings p.config.policy p.config.batchSize d

def upsertRow (p : Loader σ) (row : Value) : Action σ Unit := do
  match ← query p.config row with
  | none => skip "No non-null match field value; cannot upsert"
  | some q =>
    let change ← if p.config.modifierUpdate then modifierUpdate p.config row
      else document p.config p.surroundings.room row
    match change with
    | none => skip "Row produced no update"
    | some d => let _ ← Upsert.write p.surroundings p.config.policy q d p.config.multi

/-- Counts a row and writes what it stands for. -/
def handleRow (p : Loader σ) (row : Value) : Action σ Unit := do
  modify fun l => { l with rowsRead := l.rowsRead + 1 }
  if p.config.upsert then upsertRow p row else insertRow p row

/-- The end of the rows: what waits is written, the indexes are made, the store is closed. -/
def finish (p : Loader σ) : Action σ Unit := do
  enterPhase .draining
  if !(← get).buffer.isEmpty then
    let _ ← Batch.flush p.surroundings p.config.policy
  if !p.config.indexes.isEmpty then
    Action.log .info .rows "Applying indexes" [("count", .int p.config.indexes.length)]
    let _ ← Indexing.apply p.surroundings (← get).truncated p.config.indexes
  closeStore p
  Action.log .info .rows "Pipeline finished" (← get).stats.toFields

def reportProcessed : Action σ Unit :=
  modify fun l => { l.record .processed with rowsProcessed := l.rowsProcessed + 1 }

def reportComplete : Action σ Unit := modify fun l => { l.record .completed with complete := true }

/-- One step: a row, or the end of the rows, or the end because the load was cancelled. The
answer tells whether there may be more rows. -/
def step (p : Loader σ) : Action σ Bool := do
  if ← Action.isCancelled p.surroundings then
    Action.log .info .rows "Pipeline stopped" [("rows_read", .int (← get).rowsRead)]
    closeStore p
    return false
  match ← Action.pull with
  | none =>
    finish p
    reportComplete
    return false
  | some row =>
    if (← get).phase = .uninitialized then prepare p row
    handleRow p row
    reportProcessed
    return true

/-- Takes an action in a scope, which is left whether or not the action succeeds. -/
def inScope {α : Type} (ownScope : Bool) (x : Action σ α) : Action σ α := do
  if !ownScope then return ← x
  Action.happen .entered
  let a ← tryCatch x fun f => do
    Action.happen .left
    throw f
  Action.happen .left
  return a

/-- Takes a step unless the load has ended. Every fault ends it. -/
def advance (p : Loader σ) : Action σ Bool := do
  if (← get).phase = .terminated then return false
  tryCatch (inScope p.ownScope (step p)) fun f => do
    closeStore p
    throw f

/-- Takes at most so many steps. -/
def runFor (p : Loader σ) : Nat → Action σ Stats
  | 0 => return (← get).stats
  | n + 1 => do if ← advance p then runFor p n else return (← get).stats

/-- Takes steps until there are no more rows. Every step but the last takes a row. -/
def run (p : Loader σ) : Action σ Stats := do runFor p ((← get).rows.length + 1)

end Loader

end RowIngest
