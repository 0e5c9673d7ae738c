import RowIngest.Store.Basic
/-!
A document store that is reached through a driver. The client asks the driver and puts its
answers into the terms of this library: errors of the driver while writing may be overcome
by another attempt, documents that cannot be encoded are rejected, and all other errors of
the driver are failures of the store. Errors that are not the driver's pass through. Such a
store holds documents with an object as their root only.
-/
namespace RowIngest

/-- What a driver knows of a write once it is done. -/
structure DriverResult where
  acknowledged : Bool
  /-- The answer of the server. -/
  raw : Value

/-- A server's host and its port, which is a number or whatever else the driver tells. -/
structure Address where
  host : String
  port : Value

def Address.text (a : Address) : String := a.host ++ ":" ++ a.port.text

/-- A driver of one collection, over an arbitrary state. -/
structure Driver (σ : Type) where
  listCollections : σ → Except Fault (List String) × σ
  createCollection : String → σ → Except Fault Unit × σ
  write : Write → σ → Except Fault DriverResult × σ
  drop : σ → Except Fault Unit × σ
  createIndex : IndexRequest → σ → Except Fault String × σ
  dropIndex : IndexKeys → σ → Except Fault Unit × σ
  close : σ → Except Fault Unit × σ
  /-- The server in use, if there is one. -/
  address : σ → Except Fault (Option Address) × σ
  cancelled : σ → Bool × σ
  sleep : Binary64 → σ → σ

namespace Client

variable {σ α : Type}

/-- A request in progress: the state of the driver, and what happened so far. -/
abbrev Request (σ α : Type) := ExceptT Fault (StateM (σ × List Note)) α

def ask (call : DriverCall) (f : σ → Except Fault α × σ) : Request σ α := do
  let (state, notes) ← get
  let (result, state) := f state
  set (state, notes ++ [.driver call])
  liftM result

def report (level : Log.Level) (message : String) (extra : Fields) : Request σ Unit :=
  modify fun (state, notes) => (state, notes ++ [.logged ⟨level, .store, message, extra⟩])

/-- Gives errors of the driver a meaning. -/
def explained (x : Request σ α) (meaning : ForeignError → Request σ α) : Request σ α :=
  tryCatch x fun
    | .foreign e => if e.kind.isDriver then meaning e else throw (.foreign e)
    | f => throw f

/-- The server that took a write, if the driver can tell. -/
def server (d : Driver σ) : Request σ (Option String) :=
  explained
    (do
      let (state, notes) ← get
      let (result, state) := d.address state
      set (state, notes)
      return (← liftM result).map Address.text)
    fun _ => return none

/-- The fields of a server's answer; an answer that says nothing has none. -/
def answerFields (raw : Value) : Except Fault Fields :=
  match raw with
  | .obj fields => .ok fields
  | v => if v.isTruthy then .error (.lacks v "get") else .ok []

/-- Why an update was not applied, in the words of the server. Only text is accepted. -/
def updateReason (raw : Fields) : Except Fault (Option String) :=
  match Fields.get? raw "errmsg" with
  | none => .ok (some "update not applied")
  | some .null => .ok none
  | some (.str s) => .ok (some s)
  | some _ => .error (.invalid [⟨[.field "error_message"], .notString⟩])

/-- The server applies an update unless it says that it did not. -/
def updateApplied (raw : Fields) : Bool := ((Fields.get? raw "ok").map Value.isTruthy).getD true

/-- The outcome of a write that the driver has completed. -/
def outcome (d : Driver σ) (w : Write) (result : DriverResult) : Request σ Outcome := do
  if !result.acknowledged then return ⟨true, none, none⟩
  if w.operation = .insertMany then return ⟨true, none, ← server d⟩
  let raw ← liftM (answerFields result.raw)
  let server ← server d
  if updateApplied raw then return ⟨true, none, server⟩
  return ⟨false, ← liftM (updateReason raw), server⟩

/-- An error of a write: the driver's own, or one of encoding a document. -/
def failedWrite (operation : Operation) (f : Fault) : Request σ DriverResult := do
  match f with
  | .foreign e =>
    if e.kind.isDriver then throw (.driverWrite operation e)
    else if e.kind.isEncoding then
      report .error "Document rejected before sending"
        [("operation", .str operation.name), ("reason", .str e.text)]
      throw (.rejected operation e)
    else throw f
  | _ => throw f

def write (d : Driver σ) (w : Write) : Request σ Outcome := do
  let result ← tryCatch (ask (.write w) (d.write w)) (failedWrite w.operation)
  outcome d w result

/-- Makes sure that the collection exists; that another one made it meanwhile is no failure. -/
def ensureCollection (d : Driver σ) (collection : String) : Request σ Unit :=
  explained
    (do
      let names ← ask .listCollections d.listCollections
      if !names.contains collection then
        ask (.createCollection collection) (d.createCollection collection)
        report .info "Created collection" [("collection", .str collection)])
    fun e =>
      if e.kind = .driver .collectionInvalid then return ()
      else throw (.storeFailed (.createCollection collection) e)

def createIndex (d : Driver σ) (r : IndexRequest) : Request σ String :=
  explained (ask (.createIndex r) (d.createIndex r)) fun e =>
    throw (.storeFailed (.createIndex r.keys) e)

def command (d : Driver σ) (collection : String) : Command → Request σ Unit
  | .ensureCollection => ensureCollection d collection
  | .drop =>
    explained (ask .drop d.drop) fun e => throw (.storeFailed (.dropCollection collection) e)
  | .dropIndex keys =>
    explained (ask (.dropIndex keys) (d.dropIndex keys)) fun e =>
      throw (.storeFailed (.dropIndex keys) e)
  | .close => ask .close d.close

def reply (x : Request σ α) (state : σ) : Reply σ α :=
  let (result, state, notes) := x.run.run (state, [])
  ⟨result, state, notes⟩

/-- The surroundings of a load that writes to a collection through a driver. -/
def surroundings (d : Driver σ) (collection : String) : Surroundings σ where
  acceptsArrays := false
  write w := reply (write d w)
  createIndex r := reply (createIndex d r)
  command c := reply (command d collection c)
  cancelled := d.cancelled
  sleep := d.sleep

end Client

end RowIngest
