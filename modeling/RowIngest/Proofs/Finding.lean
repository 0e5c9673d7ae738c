import RowIngest.Proofs.Provenance
import RowIngest.Proofs.Querying
/-!
What an upsert finds its documents by. Every query that reaches the store is the query of a row,
so what is true of the queries of rows is true of all requests of a run. Main statement: no query
is empty, and none asks for null unless the row brings an object of conditions that does.
-/
namespace RowIngest

open RowIngest.Action Rehearsal

/-- The query by which a write finds what it changes; an insert finds nothing. -/
def Write.query? : Write → Option Value
  | .insertMany _ => none
  | .updateOne query _ _ | .updateMany query _ _ | .replaceOne query _ _ => some query

theorem Upsert.query?_of_choose {query document : Value} {multi : Bool} {w : Write}
    (hw : Upsert.choose query document multi = .ok w) : w.query? = some query := by
  unfold Upsert.choose at hw
  split at hw
  · split at hw <;> cases hw <;> rfl
  · split at hw <;> cases hw
    rfl

namespace Query

variable {fields : List FieldMapping} {row : Row} {query : Fields}

/-- An object that a match key maps to the root has a null among its values. -/
def BringsNull (fields : List FieldMapping) (row : Row) : Prop :=
  ∃ f ∈ matched fields, ∃ name, Brings f row name .null

theorem ofRow_no_null (h : ofRow fields row = .ok (some query)) (hnull : ¬ BringsNull fields row)
    (name : String) : (name, .null) ∉ query := by
  intro hentry
  obtain ⟨f, hf, hbrings⟩ := brings_of_mem h hentry
  exact hnull ⟨f, hf, name, hbrings⟩

end Query

/-- A row that is no object has no query: either no field is a match key, or the first one cannot
be read. -/
theorem LoadConfig.ofRow_of_mapQuery {c : LoadConfig} {row query : Value}
    (h : c.mapQuery row = .ok (some query)) : ∃ fields conditions, row = .obj fields ∧
      query = .obj conditions ∧ Query.ofRow c.fields fields = .ok (some conditions) := by
  obtain ⟨read, hread, hrest⟩ := bind_eq_ok.mp h
  obtain ⟨found, hfound, hquery⟩ := bind_eq_ok.mp hrest
  cases found with
  | none => cases hquery
  | some conditions =>
    obtain rfl : Value.obj conditions = query := Option.some.inj (Except.ok.inj hquery)
    cases row with
    | obj fields =>
      obtain rfl : fields = read := Except.ok.inj hread
      exact ⟨fields, conditions, rfl, rfl, hfound⟩
    | _ =>
      by_cases hmatched : Query.matched c.fields = []
      · simp [Query.ofRow, hmatched, pure, Except.pure, bind, Except.bind] at hfound
      · simp [Row.read, hmatched] at hread

/-- A write finds its documents by the query of one of these rows. -/
def LoadConfig.Finds (c : LoadConfig) (rows : List Value) (w : Write) : Prop :=
  ∀ query, w.query? = some query → ∃ row conditions, .obj row ∈ rows ∧ query = .obj conditions ∧
    Query.ofRow c.fields row = .ok (some conditions) ∧ conditions ≠ [] ∧
      (¬ Query.BringsNull c.fields row → ∀ name, (name, .null) ∉ conditions)

theorem LoadConfig.Sources.finds {c : LoadConfig} {room : Room} {rows : List Value} {w : Write}
    (h : c.Sources room rows w) : c.Finds rows w := by
  intro query hquery
  cases h with
  | batch _ _ => cases hquery
  | @change query' document _ hrow hw =>
    obtain rfl : query' = query :=
      Option.some.inj ((Upsert.query?_of_choose hw).symm.trans hquery)
    obtain ⟨row, hmem, hdelivery⟩ := hrow
    obtain ⟨hmapped, -⟩ := mapped_of_change (upsert_of_change hdelivery) hdelivery
    obtain ⟨fields, conditions, rfl, rfl, hfound⟩ := ofRow_of_mapQuery hmapped
    exact ⟨fields, conditions, hmem, rfl, hfound, (Query.foldlM_of_ofRow hfound).2,
      Query.ofRow_no_null hfound⟩

namespace Rehearsal

/-- Settings of a load that changes documents found by a number and by further conditions. -/
def filterSettings : Fields :=
  [("database", .str "shop"), ("collection", .str "orders"), ("upsert", .bool true),
    ("modifier_update", .bool true),
    ("fields", .list
      [.obj [("incoming_field_name", .str "id"), ("match_key", .bool true)],
        .obj [("incoming_field_name", .str "filter"), ("use_incoming_field_name", .bool false),
          ("match_key", .bool true), ("modifier_update_only", .bool true),
          ("parse_as_sub_document", .bool true)],
        .obj [("incoming_field_name", .str "name")]])]

/-- What the settings are read as. -/
def filterConfig : LoadConfig :=
  { replacementConfig with modifierUpdate := true, fields := Query.filterFields }

def filterLoader : Loader ScriptedStore where
  config := filterConfig
  surroundings := ScriptedStore.surroundings false
  ownScope := false

end Rehearsal

namespace Loader

variable {σ : Type}

/-- The query of every write that a run attempts is that of a row. It is not empty, and it has no
condition on null unless an object that is mapped to the root brings one. -/
theorem run_finds_by_conditions (p : Loader σ) (x : σ) (rows : List Value) :
    (∀ w ∈ (exec (run p) (Load.begin x rows)).2.attempts, p.config.Finds (offered rows) w) ∧
      ∀ n, ∀ w ∈ (p.after (Load.begin x rows) n).attempts, p.config.Finds (offered rows) w :=
  ⟨fun w hw => ((run_sourced p x rows).attempts w hw).finds,
    fun n w hw => ((after_sourced p x rows n).1.attempts w hw).finds⟩

/-- A match key without a value is left out. -/
theorem run_finds_by_conditions_open :
    LoadConfig.ofFields filterSettings = .ok filterLoader.config ∧
    .updateOne (.obj [("open", .bool true)]) (.obj [("$set", .obj [("name", .str "Ada")])]) true ∈
      (exec (run filterLoader) (Load.begin willingStore
        [.obj (Query.filterRow .null [("open", .bool true)])])).2.attempts ∧
    ¬ Query.BringsNull filterConfig.fields (Query.filterRow .null [("open", .bool true)]) ∧
    ∀ name, (name, .null) ∉ [("open", Value.bool true)] := by
  have hattempts : (exec (run filterLoader) (Load.begin willingStore
      [.obj (Query.filterRow .null [("open", .bool true)])])).2.attempts =
      [.updateOne (.obj [("open", .bool true)])
        (.obj [("$set", .obj [("name", .str "Ada")])]) true] := by
    with_unfolding_all rfl
  have hnull :
      ¬ Query.BringsNull filterConfig.fields (Query.filterRow .null [("open", .bool true)]) := by
    rintro ⟨f, hf, name, hbrings⟩
    have hroot := hbrings.isRoot_of_null
    obtain rfl : f = Query.filterFields[1] := by
      rcases List.mem_cons.mp hf with rfl | hf
      · cases hroot
      · exact List.mem_singleton.mp hf
    obtain ⟨brought, hgives, hentry⟩ := hbrings.of_root hroot
    obtain rfl := Value.obj.inj (Except.ok.inj hgives.1)
    have hvalue : Value.null = .bool true := congrArg Prod.snd (List.mem_singleton.mp hentry)
    cases hvalue
  have hmem := List.mem_singleton_self (Write.updateOne (.obj [("open", .bool true)])
    (.obj [("$set", .obj [("name", .str "Ada")])]) true)
  rw [← hattempts] at hmem
  refine ⟨rfl, hmem, hnull, ?_⟩
  obtain ⟨row, conditions, hrow, hquery, -, -, hkept⟩ :=
    (run_finds_by_conditions filterLoader willingStore
      [.obj (Query.filterRow .null [("open", .bool true)])]).1 _ hmem _ rfl
  obtain rfl := Value.obj.inj (List.mem_singleton.mp hrow)
  obtain rfl := Value.obj.inj hquery
  exact hkept hnull

/-- An object that is mapped to the root can bring a condition on null. -/
theorem null_condition_sent :
    LoadConfig.ofFields filterSettings = .ok filterLoader.config ∧
      filterLoader.config.upsert = true ∧
      (exec (run filterLoader) (Load.begin willingStore
        [.obj (Query.filterRow (.int 1) [("region", .null)])])).2.attempts =
        [.updateOne (.obj [("id", .int 1), ("region", .null)])
          (.obj [("$set", .obj [("name", .str "Ada")])]) true] := by
  refine ⟨rfl, rfl, ?_⟩
  with_unfolding_all rfl

end Loader

end RowIngest
