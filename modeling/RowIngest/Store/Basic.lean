import RowIngest.Fault
import RowIngest.Log
/-!
What a load asks of a document store, and the surroundings it works in. The surroundings are
a record of functions over an arbitrary state: every request may raise any fault, and between
any two requests the state, the wish to cancel included, may change in any way.
-/
namespace RowIngest

/-- The result of a write as a store reports it. -/
structure Outcome where
  ok : Bool
  reason : Option String
  server : Option String
  deriving DecidableEq

inductive Write where
  | insertMany (documents : List Value)
  | updateOne (query update : Value) (upsert : Bool)
  | updateMany (query update : Value) (upsert : Bool)
  | replaceOne (query replacement : Value) (upsert : Bool)

def Write.operation : Write → Operation
  | .insertMany _ => .insertMany
  | .updateOne _ _ _ => .updateOne
  | .updateMany _ _ _ => .updateMany
  | .replaceOne _ _ _ => .replaceOne

/-- The usual name of an index: its paths and directions. -/
def IndexKeys.indexName (keys : IndexKeys) : String :=
  "_".intercalate (keys.map fun (path, direction) => s!"{path}_{direction}")

structure IndexRequest where
  keys : IndexKeys
  unique : Bool
  sparse : Bool
  background : Bool

/-- Requests that answer with nothing. -/
inductive Command where
  | ensureCollection
  | drop
  | dropIndex (keys : IndexKeys)
  | close

def Command.name : Command → String
  | .ensureCollection => "ensure_collection"
  | .drop => "drop"
  | .dropIndex _ => "drop_index"
  | .close => "close"

/-- What a driver is asked for below a store. -/
inductive DriverCall where
  | listCollections
  | createCollection (name : String)
  | write (w : Write)
  | drop
  | createIndex (r : IndexRequest)
  | dropIndex (keys : IndexKeys)
  | close

/-- What happens inside a store while it serves a request. -/
inductive Note where
  | driver (c : DriverCall)
  | logged (r : Log.Record)

/-- The answer of the surroundings: a result or a fault, their new state, and what happened. -/
structure Reply (σ α : Type) where
  result : Except Fault α
  state : σ
  notes : List Note

/-- The surroundings of a load: its store, the clock, the memory, and the wish of others to
cancel. -/
structure Surroundings (σ : Type) where
  /-- Documents may have an array as their root. -/
  acceptsArrays : Bool
  write : Write → σ → Reply σ Outcome
  createIndex : IndexRequest → σ → Reply σ String
  command : Command → σ → Reply σ Unit
  /-- Whether the load has been asked to stop. -/
  cancelled : σ → Bool × σ
  /-- Pauses that are too long for the clock end the load. -/
  canTime : Binary64 → Bool := fun _ => true
  /-- What arrays there is memory for. -/
  room : Room := .ample
  sleep : Binary64 → σ → σ

/-- What happens in the course of a load, in order. -/
inductive Event where
  | wrote (w : Write) (result : Except Fault Outcome)
  | indexed (r : IndexRequest) (result : Except Fault String)
  | commanded (c : Command) (result : Except Fault Unit)
  | noted (n : Note)
  | logged (r : Log.Record)
  | slept (delay : Binary64)
  | entered
  | left
  | pulled (row : Option Value)
  | processed
  | completed

/-- What an event adds to the log. -/
def Event.record? : Event → Option Log.Record
  | .logged r | .noted (.logged r) => some r
  | _ => none

end RowIngest
