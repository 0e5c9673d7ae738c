import RowIngest.Config
import RowIngest.Mapping.Shape
import RowIngest.Store.Basic
/-!
The state of a load and the actions on it. An action returns or raises a fault; either way
the state it leaves behind is kept, and all that happens is added to the history.
-/
namespace RowIngest

/-- The phases of a load. It is active from its first row on, draining while the last batch
is written and the indexes are made, and terminated once its store is closed. -/
inductive Phase where
  | uninitialized
  | active
  | draining
  | terminated
  deriving DecidableEq

def Phase.name : Phase → String
  | .uninitialized => "uninitialized"
  | .active => "active"
  | .draining => "draining"
  | .terminated => "terminated"

structure Stats where
  rowsRead : Nat
  rowsSkipped : Nat
  documentsInserted : Nat
  batchesWritten : Nat
  upsertsWritten : Nat
  deriving DecidableEq

def Stats.toFields (s : Stats) : Fields :=
  [("rows_read", .int s.rowsRead), ("rows_skipped", .int s.rowsSkipped),
   ("documents_inserted", .int s.documentsInserted), ("batches_written", .int s.batchesWritten),
   ("upserts_written", .int s.upsertsWritten)]

/-- A load in progress, with the rows still to come and the state of its surroundings. -/
structure Load (σ : Type) where
  surroundings : σ
  rows : List Value
  history : Array Event
  phase : Phase
  shape : Option Shape
  /-- The collection was dropped when the load began. -/
  truncated : Bool
  rowsRead : Nat
  rowsSkipped : Nat
  rowsProcessed : Nat
  /-- The source was told that its rows are all done. -/
  complete : Bool
  /-- Documents that wait for their batch to fill up. -/
  buffer : List Value
  documentsInserted : Nat
  batchesWritten : Nat
  upsertsWritten : Nat

namespace Load

variable {σ : Type}

/-- A load that has not begun. -/
def begin (surroundings : σ) (rows : List Value) : Load σ where
  surroundings
  rows
  history := #[]
  phase := .uninitialized
  shape := none
  truncated := false
  rowsRead := 0
  rowsSkipped := 0
  rowsProcessed := 0
  complete := false
  buffer := []
  documentsInserted := 0
  batchesWritten := 0
  upsertsWritten := 0

def stats (l : Load σ) : Stats :=
  ⟨l.rowsRead, l.rowsSkipped, l.documentsInserted, l.batchesWritten, l.upsertsWritten⟩

def record (l : Load σ) (e : Event) : Load σ := { l with history := l.history.push e }

@[simp] theorem history_record (l : Load σ) (e : Event) :
    (l.record e).history.toList = l.history.toList ++ [e] := by
  simp [record]

end Load

/-- An action in a load. -/
abbrev Action (σ α : Type) := ExceptT Fault (StateM (Load σ)) α

namespace Action

variable {σ α : Type}

def happen (e : Event) : Action σ Unit := modify (·.record e)

def log (level : Log.Level) (logger : Log.Logger) (message : String) (extra : Fields) :
    Action σ Unit :=
  happen (.logged ⟨level, logger, message, extra⟩)

/-- Takes a reply of the surroundings into the load: their state, what happened inside, the
event itself, and then the result. -/
def receive (ask : σ → Reply σ α) (event : Except Fault α → Event) : Action σ α := do
  let l ← get
  let reply := ask l.surroundings
  let inner := reply.notes.foldl (fun h n => h.push (.noted n)) l.history
  set { l with surroundings := reply.state, history := inner.push (event reply.result) }
  liftM reply.result

def write (s : Surroundings σ) (w : Write) : Action σ Outcome :=
  receive (s.write w) (.wrote w)

def createIndex (s : Surroundings σ) (r : IndexRequest) : Action σ String :=
  receive (s.createIndex r) (.indexed r)

def command (s : Surroundings σ) (c : Command) : Action σ Unit :=
  receive (s.command c) (.commanded c)

def isCancelled (s : Surroundings σ) : Action σ Bool :=
  modifyGet fun l =>
    let (answer, state) := s.cancelled l.surroundings
    (answer, { l with surroundings := state })

/-- Pauses, if the clock can time the pause. -/
def sleep (s : Surroundings σ) (delay : Binary64) : Action σ Unit :=
  if s.canTime delay then
    modify fun l => { l.record (.slept delay) with surroundings := s.sleep delay l.surroundings }
  else throw (.ofForeign .overflow "timestamp too large to convert to C _PyTime_t")

/-- Takes the next row from the source. A null among the rows is their end. -/
def pull : Action σ (Option Value) :=
  modifyGet fun l =>
    match l.rows with
    | [] => (none, l.record (.pulled none))
    | .null :: rest => (none, { l.record (.pulled none) with rows := rest })
    | row :: rest => (some row, { l.record (.pulled (some row)) with rows := rest })

/-- Returns a result that is settled already, or raises its fault. -/
def settle (result : Except Fault α) : Action σ α := liftM result

end Action

end RowIngest
