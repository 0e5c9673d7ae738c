import RowIngest.Proofs.Counting
import RowIngest.Proofs.Yielding
/-!
What a load writes. Every write that is attempted delivers what rows are mapped to, so it delivers
no more empty documents than rows bring, and a row that yields nothing is counted instead. Main
statement: in every run, also in one that fails or is cancelled, all that is written for a row is a
container with something in it, unless the row brings an empty one as the whole document; and of
the rows that were read those were skipped that yield nothing to write.
-/
namespace RowIngest

open RowIngest.Action Rehearsal

variable {σ : Type} {c : LoadConfig} {room : Room} {rows : List Value} {row : Value} {δ : Delivery}

/-- What a delivery puts into the store: a document, or what a change makes of the old one. -/
def Delivery.record : Delivery → Value
  | .document d => d
  | .change _ d => d

theorem LoadConfig.mapRecord_of_delivery (h : c.delivery room row = .ok (some δ)) :
    c.mapRecord room row = .ok (some δ.record) := by
  cases δ with
  | document d =>
    have hinsert := upsert_of_document h
    rw [delivery_insert hinsert] at h
    rw [mapRecord_of_insert hinsert]
    rcases hdocument : c.mapDocument room row with f | (_ | made) <;>
      simp [hdocument, Except.map] at h
    rw [h]
    rfl
  | change query d =>
    have hupsert := upsert_of_change h
    rw [mapRecord_of_upsert hupsert]
    exact (mapped_of_change hupsert h).2

/-- All that a write delivers is delivered for rows. -/
theorem LoadConfig.Sources.stands {w : Write} (h : c.Sources room rows w) (hδ : δ ∈ w.deliveries) :
    c.Stands room rows δ := by
  cases h with
  | batch _ hall =>
    obtain ⟨d, hd, rfl⟩ := List.mem_map.mp hδ
    exact hall d hd
  | change hrow hw =>
    rw [Upsert.deliveries_of_choose hw] at hδ
    rwa [List.mem_singleton.mp hδ]

/-- A load has written records only, and it has counted the rows that yield none. -/
structure WritesRecords (c : LoadConfig) (room : Room) (rows : List Value) (l : Load σ) :
    Prop where
  records : ∀ w ∈ l.attempts, ∀ δ ∈ w.deliveries, ∃ row ∈ rows,
    c.delivery room row = .ok (some δ) ∧ (¬ c.BringsEmpty row → δ.record.isRecord = true)
  counted : l.rowsSkipped = (rows.take l.rowsRead).countP (c.skips room)
  skipped : ∀ row ∈ rows.take l.rowsRead, c.skips room row = true ↔ c.YieldsNothing row

namespace Rehearsal

/-- Settings of a load whose rows bring whole documents. -/
def wholeSettings : Fields :=
  [("database", .str "shop"), ("collection", .str "orders"),
    ("fields", .list [.obj [("incoming_field_name", .str "doc"),
      ("use_incoming_field_name", .bool false), ("parse_as_sub_document", .bool true)]])]

/-- What the settings are read as. -/
def wholeConfig : LoadConfig :=
  { batchConfig LoadConfig.defaultBatchSize with
    fields := [⟨"doc", "", [], false, false, false, true, .set⟩] }

def wholeLoader : Loader ScriptedStore where
  config := wholeConfig
  surroundings := ScriptedStore.surroundings false
  ownScope := false

def wholeRow (document : Value) : Value := .obj [("doc", document)]

/-- A row with a document, and one without. -/
def wholeRows : List Value := [wholeRow (.obj [("a", .int 1)]), wholeRow .null]

end Rehearsal

namespace Loader

theorem writesRecords_after (p : Loader σ) (x : σ) (rows : List Value) (n : Nat) :
    WritesRecords p.config p.surroundings.room (offered rows) (p.after (Load.begin x rows) n) where
  counted := rowsSkipped_after p x rows n
  records := by
    intro w hw δ hδ
    obtain ⟨row, hmem, hrow⟩ := ((after_sourced p x rows n).1.attempts w hw).stands hδ
    refine ⟨row, hmem, hrow, fun hbrought => ?_⟩
    by_cases hmapping : p.config.checkMapping p.surroundings.acceptsArrays = .ok ()
    · exact LoadConfig.isRecord_of_mapRecord hmapping (LoadConfig.mapRecord_of_delivery hrow)
        hbrought
    · rw [(unread_after hmapping x rows n).1.attempts] at hw
      cases hw
  skipped := by
    intro row hmem
    by_cases hmapping : p.config.checkMapping p.surroundings.acceptsArrays = .ok ()
    · exact LoadConfig.skips_iff hmapping
    · rw [(unread_after hmapping x rows n).1.read] at hmem
      cases hmem

/-- Every run writes records only, and it counts the rows that yield none as skipped. The empty
documents that rows bring themselves are all that is left out of this. -/
theorem run_writes_records (p : Loader σ) (x : σ) (rows : List Value) :
    WritesRecords p.config p.surroundings.room (offered rows) (exec (run p) (Load.begin x rows)).2 ∧
      ∀ n, WritesRecords p.config p.surroundings.room (offered rows)
        (p.after (Load.begin x rows) n) := by
  obtain ⟨n, -, -, hrun⟩ := run_eq p (Load.begin x rows)
  rw [hrun]
  exact ⟨writesRecords_after p x rows (n + 1), writesRecords_after p x rows⟩

/-- What is written for the first row is no empty record, and the second one is counted. -/
theorem run_writes_records_given :
    LoadConfig.ofFields wholeSettings = .ok wholeLoader.config ∧
    (exec (run wholeLoader) (Load.begin willingStore wholeRows)).2.attempts =
      [.insertMany [.obj [("a", .int 1)]]] ∧
    ¬ wholeConfig.BringsEmpty (wholeRow (.obj [("a", .int 1)])) ∧
    Value.isRecord (.obj [("a", .int 1)]) = true ∧
    (exec (run wholeLoader) (Load.begin willingStore wholeRows)).2.rowsSkipped = 1 ∧
    wholeConfig.YieldsNothing (wholeRow .null) := by
  have hattempts : (exec (run wholeLoader) (Load.begin willingStore wholeRows)).2.attempts =
      [.insertMany [.obj [("a", .int 1)]]] := by
    with_unfolding_all rfl
  have hread : (exec (run wholeLoader) (Load.begin willingStore wholeRows)).2.rowsRead = 2 := by
    with_unfolding_all rfl
  have hbrought : ¬ wholeConfig.BringsEmpty (wholeRow (.obj [("a", .int 1)])) := by
    rintro ⟨read, hread, f, hf, -, hempty⟩
    obtain rfl := Except.ok.inj hread
    obtain rfl := List.mem_singleton.mp hf
    rcases hempty with ⟨hvalue, -⟩ | ⟨hvalue, -⟩ <;> cases hvalue
  have hwrites := (run_writes_records wholeLoader willingStore wholeRows).1
  refine ⟨rfl, hattempts, hbrought, ?_, ?_, ?_⟩
  · have hmem := List.mem_singleton_self (Write.insertMany [.obj [("a", .int 1)]])
    rw [← hattempts] at hmem
    obtain ⟨row, hrow, hdelivery, hrecord⟩ := hwrites.records _ hmem _ (List.mem_singleton_self _)
    rcases List.mem_cons.mp hrow with rfl | hrow
    · exact hrecord hbrought
    · rw [List.mem_singleton.mp hrow] at hdelivery
      cases hdelivery
  · rw [hwrites.counted, hread]
    with_unfolding_all rfl
  · refine (hwrites.skipped (wholeRow .null) ?_).mp ?_
    · rw [hread]
      exact List.mem_cons_of_mem _ List.mem_cons_self
    · with_unfolding_all rfl

/-- A row can bring an empty document, which is written. -/
theorem empty_document_written :
    LoadConfig.ofFields wholeSettings = .ok wholeLoader.config ∧
      (exec (run wholeLoader) (Load.begin willingStore [wholeRow (.obj [])])).2.attempts =
        [.insertMany [.obj []]] ∧
      (exec (run wholeLoader) (Load.begin willingStore [wholeRow (.obj [])])).2.rowsSkipped =
        0 := by
  refine ⟨rfl, ?_, ?_⟩
  · with_unfolding_all rfl
  · with_unfolding_all rfl

end Loader

end RowIngest
