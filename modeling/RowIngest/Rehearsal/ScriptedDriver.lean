import RowIngest.Rehearsal.Interruption
import RowIngest.Store.Client
/-!
A driver for rehearsals. Its calls answer from a script, one item a call; once the script is
used up they answer as a server would that does all it is asked for.
-/
namespace RowIngest.Rehearsal

/-- What a call answers. -/
inductive CallCue where
  | fails (f : Fault)
  | returns (v : Value)
  | writes (r : DriverResult)

structure ScriptedDriver where
  script : List CallCue
  collections : List String
  address : Except Fault (Option Address)
  interruption : Interruption

namespace ScriptedDriver

def defaultCue : CallCue := .writes ⟨true, .obj [("ok", .int 1)]⟩

def defaultAddress : Address := ⟨"db-1", .int 27017⟩

/-- Takes the next item of the script and answers with what it means for the call. -/
def answer {α : Type} (meaning : CallCue → Except Fault α) (d : ScriptedDriver) :
    Except Fault α × ScriptedDriver :=
  let result :=
    match d.script.head?.getD defaultCue with
    | .fails f => .error f
    | cue => meaning cue
  (result, { d with script := d.script.tail })

def names (vs : List Value) : List String :=
  vs.filterMap fun
    | .str s => some s
    | _ => none

def listCollections (d : ScriptedDriver) : Except Fault (List String) × ScriptedDriver :=
  d.answer fun
    | .returns (.list vs) => .ok (names vs)
    | _ => .ok d.collections

def writeResult : CallCue → Except Fault DriverResult
  | .writes r => .ok r
  | .returns v => .error (.lacks v "acknowledged")
  | .fails f => .error f

def indexName (r : IndexRequest) : CallCue → Except Fault String
  | .returns (.str name) => .ok name
  | _ => .ok r.keys.indexName

/-- A driver of one collection that follows its script. -/
def driver : Driver ScriptedDriver where
  listCollections := listCollections
  createCollection _ := answer fun _ => .ok ()
  write _ := answer writeResult
  drop := answer fun _ => .ok ()
  createIndex r := answer (indexName r)
  dropIndex _ := answer fun _ => .ok ()
  close := answer fun _ => .ok ()
  address d := (d.address, d)
  cancelled d := (d.interruption.cancelled, d)
  sleep _ d := { d with interruption := d.interruption.afterPause }

end ScriptedDriver

end RowIngest.Rehearsal
