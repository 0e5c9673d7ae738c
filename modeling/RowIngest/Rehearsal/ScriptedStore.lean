import RowIngest.Rehearsal.Interruption
import RowIngest.Store.Basic
/-!
A store for rehearsals. Its writes answer from a script and succeed once the script is used
up; requests that are listed as failing fail every time. The documents that it was given and
accepted are kept in order.
-/
namespace RowIngest.Rehearsal

/-- What a write answers, and whether the load is cancelled while it is under way. -/
structure WriteCue where
  cancels : Bool
  result : Except Fault Outcome

structure ScriptedStore where
  script : List WriteCue
  /-- The requests that fail, by name. -/
  failures : List (String × Fault)
  documents : List Value
  interruption : Interruption
  /-- Whoever waits for the load gives up while the collection is being prepared; this is then
  what the log says. -/
  giveUpNotice : Option Log.Record
  /-- Whoever waited for the load has given up. -/
  abandoned : Bool

namespace ScriptedStore

/-- A successful write, as stores report it that were given no script. -/
def defaultCue : WriteCue := ⟨false, .ok ⟨true, none, some "fake-host:27017"⟩⟩

def cancel (s : ScriptedStore) : ScriptedStore :=
  { s with interruption.cancelled := true }

/-- Answers a request unless it is one that fails. -/
def unlessFailing {α : Type} (s : ScriptedStore) (name : String)
    (answer : Except Fault α × ScriptedStore) : Reply ScriptedStore α :=
  match Fields.get? s.failures name with
  | some f => ⟨.error f, s, []⟩
  | none => ⟨answer.1, answer.2, []⟩

def keep (s : ScriptedStore) : Write → Except Fault Outcome → ScriptedStore
  | .insertMany documents, .ok outcome =>
    if outcome.ok then { s with documents := s.documents ++ documents } else s
  | _, _ => s

def write (w : Write) (s : ScriptedStore) : Reply ScriptedStore Outcome :=
  let cue := s.script.head?.getD defaultCue
  let after := { s with script := s.script.tail }
  let after := if cue.cancels then after.cancel else after
  s.unlessFailing w.operation.name (cue.result, after.keep w cue.result)

/-- Whoever waits gives up, once. -/
def giveUp (s : ScriptedStore) : ScriptedStore × List Note :=
  match s.giveUpNotice with
  | none => (s, [])
  | some notice =>
    ({ s.cancel with giveUpNotice := none, abandoned := true }, [.logged notice])

def command (c : Command) (s : ScriptedStore) : Reply ScriptedStore Unit :=
  match c with
  | .ensureCollection =>
    let (s, notes) := s.giveUp
    { s.unlessFailing c.name (.ok (), s) with notes }
  | .drop => s.unlessFailing c.name (.ok (), { s with documents := [] })
  | .dropIndex _ | .close => s.unlessFailing c.name (.ok (), s)

def createIndex (r : IndexRequest) (s : ScriptedStore) : Reply ScriptedStore String :=
  s.unlessFailing "create_index" (.ok r.keys.indexName, s)

/-- The surroundings of a load that is rehearsed. -/
def surroundings (acceptsArrays : Bool) : Surroundings ScriptedStore where
  acceptsArrays
  write := write
  createIndex := createIndex
  command := command
  cancelled s := (s.interruption.cancelled, s)
  sleep _ s := { s with interruption := s.interruption.afterPause }

end ScriptedStore

end RowIngest.Rehearsal
