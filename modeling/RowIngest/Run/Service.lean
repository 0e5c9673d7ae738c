import RowIngest.Run.Loader
import RowIngest.Store.Connection
/-!
One load as a service: the store is connected to, the rows are loaded, and the response says
what was done. Whoever waits for the response may give up; the load then stops by itself before
its next row, and there is no response.
-/
namespace RowIngest

structure LoadSummary where
  database : String
  collection : String
  stats : Stats

def LoadSummary.toFields (r : LoadSummary) (completedAt : String) : Fields :=
  [("status", .str "ok"), ("database", .str r.database), ("collection", .str r.collection),
   ("stats", .obj r.stats.toFields), ("completed_at", .str completedAt)]

namespace Service

variable {σ : Type}

/-- What the log says when nobody waits for the load any more. -/
def giveUpNotice (collection : String) : Log.Record :=
  ⟨.warning, .loads, "Load cancelled", [("collection", .str collection)]⟩

/-- Connects to the store of a load, with all that is logged on the way. -/
def connect (s : Settings) (c : LoadConfig) (accept : ConnectionOptions → Except Fault Unit) :
    Action σ Unit := do
  let (result, records) :=
    Connection.connect (.ofSettings s) c.database c.collection accept
  for r in records do
    Action.happen (.logged r)
  Action.settle result

def start (p : Loader σ) (connect : Action σ Unit) : Action σ Unit := do
  Action.log .info .loads "Load started"
    [("rows", .int (← get).rows.length), ("collection", .str p.config.collection)]
  connect

def complete (p : Loader σ) (stats : Stats) : Action σ LoadSummary := do
  Action.log .info .loads "Load complete" stats.toFields
  return ⟨p.config.database, p.config.collection, stats⟩

/-- Loads the rows that wait. -/
def load (p : Loader σ) (connect : Action σ Unit) : Action σ LoadSummary := do
  start p connect
  complete p (← Loader.run p)

/-- Loads the rows that wait for someone who may have `abandoned` the response when the run is
over. How it went is then not told, not even if it failed. -/
def loadAwaited (p : Loader σ) (connect : Action σ Unit) (abandoned : σ → Bool) :
    Action σ (Option LoadSummary) := do
  start p connect
  let stats? ← tryCatch (do return some (← Loader.run p)) fun f => do
    if abandoned (← get).surroundings then return none else throw f
  if abandoned (← get).surroundings then return none
  stats?.mapM (complete p)

end Service

end RowIngest
