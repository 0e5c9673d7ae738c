import RowIngest.Proofs.Execution
import RowIngest.Rehearsal.ScriptedStore
import RowIngest.Run.Loader
/-!
The scripted store as the surroundings of a load. Once a load is cancelled there, it stays
cancelled, whatever is asked of the store after that.
-/
namespace RowIngest.Rehearsal

namespace ScriptedStore

variable {α : Type} {s : ScriptedStore}

/-- The load has been cancelled. -/
def Cancelled (s : ScriptedStore) : Prop := s.interruption.cancelled = true

theorem cancelled_unlessFailing {name : String} {answer : Except Fault α × ScriptedStore}
    (hs : s.Cancelled) (hanswer : answer.2.Cancelled) :
    (s.unlessFailing name answer).state.Cancelled := by
  unfold unlessFailing
  split
  · exact hs
  · exact hanswer

theorem cancelled_keep {w : Write} {r : Except Fault Outcome} (hs : s.Cancelled) :
    (s.keep w r).Cancelled := by
  unfold keep
  split
  · split
    · exact hs
    · exact hs
  · exact hs

theorem cancelled_write (w : Write) (hs : s.Cancelled) : (write w s).state.Cancelled := by
  refine cancelled_unlessFailing hs (cancelled_keep ?_)
  split
  · rfl
  · exact hs

theorem cancelled_giveUp (hs : s.Cancelled) : s.giveUp.1.Cancelled := by
  unfold giveUp
  split
  · exact hs
  · rfl

theorem cancelled_command (c : Command) (hs : s.Cancelled) :
    (command c s).state.Cancelled := by
  cases c with
  | ensureCollection =>
    exact cancelled_unlessFailing (cancelled_giveUp hs) (cancelled_giveUp hs)
  | drop => exact cancelled_unlessFailing hs hs
  | dropIndex keys => exact cancelled_unlessFailing hs hs
  | close => exact cancelled_unlessFailing hs hs

theorem surroundings_latches (acceptsArrays : Bool) :
    (surroundings acceptsArrays).Latches Cancelled where
  stays hmove hs := by
    cases hmove with
    | write w x => exact cancelled_write w hs
    | createIndex r x => exact cancelled_unlessFailing hs hs
    | command c x => exact cancelled_command c hs
    | cancelled x => exact hs
    | sleep d x =>
      change (_ || _) = true
      rw [show _ = true from hs, Bool.true_or]
  tells hs := hs
  told hs := hs

end ScriptedStore

/-- Settings of a load that inserts batches of this size, with one mapped field. -/
def batchSettings (size : Nat) : Fields :=
  [("database", .str "shop"), ("collection", .str "orders"), ("batch_insert_size", .int size),
    ("fields", .list [.obj [("incoming_field_name", .str "id")]])]

/-- What the settings are read as. -/
def batchConfig (size : Nat) : LoadConfig where
  database := "shop"
  collection := "orders"
  batchSize := size
  retries := LoadConfig.defaultRetries
  retryDelay := LoadConfig.defaultRetryDelay
  truncate := false
  upsert := false
  modifierUpdate := false
  multi := false
  fields := [⟨"id", "", [], true, false, false, false, .set⟩]
  indexes := []

def batchLoader (size : Nat) : Loader ScriptedStore where
  config := batchConfig size
  surroundings := ScriptedStore.surroundings false
  ownScope := false

/-- Settings of a load that replaces documents. Every row brings its whole document, and a number
to find the old one by. -/
def replacementSettings : Fields :=
  [("database", .str "shop"), ("collection", .str "orders"), ("upsert", .bool true),
    ("fields", .list
      [.obj [("incoming_field_name", .str "id"), ("match_key", .bool true)],
        .obj [("incoming_field_name", .str "doc"), ("use_incoming_field_name", .bool false),
          ("parse_as_sub_document", .bool true)]])]

/-- What the settings are read as. -/
def replacementConfig : LoadConfig where
  database := "shop"
  collection := "orders"
  batchSize := LoadConfig.defaultBatchSize
  retries := LoadConfig.defaultRetries
  retryDelay := LoadConfig.defaultRetryDelay
  truncate := false
  upsert := true
  modifierUpdate := false
  multi := false
  fields := [⟨"id", "", [], true, true, false, false, .set⟩,
    ⟨"doc", "", [], false, false, false, true, .set⟩]
  indexes := []

def replacementLoader : Loader ScriptedStore where
  config := replacementConfig
  surroundings := ScriptedStore.surroundings false
  ownScope := false

/-- A store that accepts every write. -/
def willingStore : ScriptedStore := ⟨[], [], [], .none, none, false⟩

/-- A store during whose preparation the load is cancelled. -/
def interruptedStore : ScriptedStore :=
  { willingStore with giveUpNotice := some ⟨.warning, .loads, "Load cancelled", []⟩ }

/-- A row with one field. -/
def numberedRow (n : Int) : Value := .obj [("id", .int n)]

/-- A row with a number and a document. -/
def documentRow (document : Value) : Value := .obj [("id", .int 1), ("doc", document)]

/-- A way to see that a result has come about that leaves faults aside. -/
theorem eq_ok_of_toOption {α : Type} {r : Except Fault α} {a : α} (h : r.toOption = some a) :
    r = .ok a := by
  cases r with
  | error f => cases h
  | ok b => exact congrArg Except.ok (Option.some.inj h)

end RowIngest.Rehearsal
