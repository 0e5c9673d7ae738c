import RowIngest.Proofs.History
import RowIngest.Run.Loader
/-!
What a row stands for. Without regard to the store, the mapping turns a row into a document
to be inserted or into a change to be made, or it skips the row, or it refuses it. Mapping a
row within a load comes to just that, and does nothing but write to the log.
-/
namespace RowIngest

/-- What a mapped row asks of the store. -/
inductive Delivery where
  | document (d : Value)
  | change (query document : Value)

/-- What a write delivers. -/
def Write.deliveries : Write → List Delivery
  | .insertMany documents => documents.map .document
  | .updateOne query update _ => [.change query update]
  | .updateMany query update _ => [.change query update]
  | .replaceOne query replacement _ => [.change query replacement]

def Write.isInsert : Write → Bool
  | .insertMany _ => true
  | _ => false

theorem Upsert.isInsert_of_choose {query document : Value} {multi : Bool} {w : Write}
    (hw : Upsert.choose query document multi = .ok w) : w.isInsert = false := by
  unfold Upsert.choose at hw
  split at hw
  · split at hw <;> cases hw <;> rfl
  · split at hw <;> cases hw
    rfl

theorem Upsert.deliveries_of_choose {query document : Value} {multi : Bool} {w : Write}
    (hw : Upsert.choose query document multi = .ok w) :
    w.deliveries = [.change query document] := by
  unfold Upsert.choose at hw
  split at hw
  · split at hw <;> cases hw <;> rfl
  · split at hw <;> cases hw
    rfl

namespace LoadConfig

def mapDocument (c : LoadConfig) (room : Room) (row : Value) : Except Fault (Option Value) := do
  let mapper ← (c.documentPlan room).mapError .config
  mapper.map (← Row.read mapper.fields row)

def mapQuery (c : LoadConfig) (row : Value) : Except Fault (Option Value) := do
  let conditions ← Query.ofRow c.fields (← Row.read (Query.matched c.fields) row)
  return conditions.map .obj

def mapUpdate (c : LoadConfig) (row : Value) : Except Fault (Option Value) := do
  Update.ofRow c.fields (← Row.read (Update.changed c.fields) row)

/-- What an upsert changes a found document by: its fields or the whole of it. -/
def mapChange (c : LoadConfig) (room : Room) (row : Value) : Except Fault (Option Value) :=
  if c.modifierUpdate then c.mapUpdate row else c.mapDocument room row

/-- What a row stands for, if anything. -/
def delivery (c : LoadConfig) (room : Room) (row : Value) : Except Fault (Option Delivery) :=
  if c.upsert then do
    match ← c.mapQuery row with
    | none => return none
    | some q => return (← c.mapChange room row).map (.change q)
  else return (← c.mapDocument room row).map .document

/-- A row that stands for nothing. -/
def skips (c : LoadConfig) (room : Room) (row : Value) : Bool :=
  match c.delivery room row with
  | .ok none => true
  | _ => false

/-- What rows stand for, in order, up to the first one that is refused. -/
def deliveries (c : LoadConfig) (room : Room) : List Value → List Delivery
  | [] => []
  | row :: rest =>
    match c.delivery room row with
    | .error _ => []
    | .ok d => d.toList ++ c.deliveries room rest

/-- Rows none of which is refused. -/
def MapsAll (c : LoadConfig) (room : Room) (rows : List Value) : Prop :=
  ∀ row ∈ rows, ∃ d, c.delivery room row = .ok d

variable {c : LoadConfig} {room : Room} {rows rest : List Value}

theorem delivery_insert (h : c.upsert = false) (room : Room) (row : Value) :
    c.delivery room row = (c.mapDocument room row).map (·.map .document) := by
  rcases hdocument : c.mapDocument room row with f | d <;>
    simp [delivery, h, hdocument, bind, Except.bind, Except.map, pure, Except.pure]

theorem delivery_upsert (h : c.upsert = true) (room : Room) (row : Value) :
    c.delivery room row =
      match c.mapQuery row with
      | .error f => .error f
      | .ok none => .ok none
      | .ok (some q) => (c.mapChange room row).map (·.map (.change q)) := by
  rcases hquery : c.mapQuery row with f | (_ | q) <;>
    simp only [delivery, h, hquery, if_true, bind, Except.bind, pure, Except.pure]
  rcases c.mapChange room row with f | d <;> rfl

/-- The two parts of a change are mapped one by one. -/
theorem mapped_of_change {row query document : Value} (hupsert : c.upsert = true)
    (h : c.delivery room row = .ok (some (.change query document))) :
    c.mapQuery row = .ok (some query) ∧ c.mapChange room row = .ok (some document) := by
  rw [delivery_upsert hupsert] at h
  rcases hquery : c.mapQuery row with f | (_ | q) <;> simp only [hquery] at h
  · cases h
  · cases h
  · rcases hchange : c.mapChange room row with f | (_ | d) <;> simp [hchange, Except.map] at h
    obtain ⟨rfl, rfl⟩ := h
    exact ⟨rfl, rfl⟩

/-- Documents are delivered by inserts. -/
theorem upsert_of_document {row d : Value} (h : c.delivery room row = .ok (some (.document d))) :
    c.upsert = false := by
  cases hupsert : c.upsert with
  | false => rfl
  | true =>
    rw [delivery_upsert hupsert] at h
    rcases hquery : c.mapQuery row with f | (_ | q) <;> simp only [hquery] at h
    · cases h
    · cases h
    · rcases hchange : c.mapChange room row with f | (_ | u) <;> simp [hchange, Except.map] at h

/-- Changes are made by upserts. -/
theorem upsert_of_change {row query document : Value}
    (h : c.delivery room row = .ok (some (.change query document))) : c.upsert = true := by
  cases hupsert : c.upsert with
  | true => rfl
  | false =>
    rw [delivery_insert hupsert] at h
    rcases hdocument : c.mapDocument room row with f | (_ | d) <;> simp [hdocument, Except.map] at h

theorem MapsAll.nil (c : LoadConfig) (room : Room) : c.MapsAll room [] := by simp [MapsAll]

theorem MapsAll.concat {row : Value} {d : Option Delivery} (h : c.MapsAll room rows)
    (hd : c.delivery room row = .ok d) : c.MapsAll room (rows ++ [row]) := by
  intro r hr
  rcases List.mem_append.mp hr with hr | hr
  · exact h r hr
  · rw [List.mem_singleton.mp hr]
    exact ⟨d, hd⟩

/-- Rows that are all mapped stand in the way of none behind them. -/
theorem deliveries_append (h : c.MapsAll room rows) (rest : List Value) :
    c.deliveries room (rows ++ rest) = c.deliveries room rows ++ c.deliveries room rest := by
  induction rows with
  | nil => rfl
  | cons row rows ih =>
    obtain ⟨d, hd⟩ := h row List.mem_cons_self
    have hrest : c.MapsAll room rows := fun r hr => h r (List.mem_cons_of_mem _ hr)
    simp only [List.cons_append, deliveries, hd, ih hrest, List.append_assoc]

theorem deliveries_concat {row : Value} {d : Option Delivery} (h : c.MapsAll room rows)
    (hd : c.delivery room row = .ok d) :
    c.deliveries room (rows ++ [row]) = c.deliveries room rows ++ d.toList := by
  rw [deliveries_append h]
  simp [deliveries, hd]

/-- Every row that is mapped stands for one delivery or is skipped. -/
theorem length_deliveries (h : c.MapsAll room rows) :
    (c.deliveries room rows).length + rows.countP (c.skips room) = rows.length := by
  induction rows with
  | nil => rfl
  | cons row rows ih =>
    obtain ⟨d, hd⟩ := h row List.mem_cons_self
    have hrest := ih fun r hr => h r (List.mem_cons_of_mem _ hr)
    rw [List.countP_cons, List.length_cons]
    cases d with
    | none =>
      have hskip : c.skips room row = true := by simp [skips, hd]
      simp only [deliveries, hd, hskip, if_true, Option.toList_none, List.nil_append]
      omega
    | some d =>
      have hskip : c.skips room row = false := by simp [skips, hd]
      simp only [deliveries, hd, hskip, Bool.false_eq_true, if_false, Option.toList_some,
        List.singleton_append, List.length_cons]
      omega

end LoadConfig

namespace Loader

open RowIngest.Action

variable {σ : Type} {c : LoadConfig} {room : Room} {row : Value} {l l' : Load σ}

theorem document_said {r : Except Fault (Option Value)}
    (h : exec (document c room row) l = (r, l')) : r = c.mapDocument room row ∧ l.Says l' := by
  cases hplan : c.documentPlan room with
  | error problem =>
    have hmap : c.mapDocument room row = .error (.config problem) := by
      rw [LoadConfig.mapDocument, hplan]
      rfl
    simp only [document, hplan, exec_throw, Prod.mk.injEq] at h
    obtain ⟨rfl, rfl⟩ := h
    exact ⟨hmap.symm, .refl l⟩
  | ok mapper =>
    have hmap : c.mapDocument room row = Row.read mapper.fields row >>= mapper.map := by
      rw [LoadConfig.mapDocument, hplan]
      rfl
    rcases hmade : (Row.read mapper.fields row >>= mapper.map) with f | (_ | d)
    · simp only [document, hplan, exec_bind, hmade, exec_settle, Prod.mk.injEq] at h
      obtain ⟨rfl, rfl⟩ := h
      exact ⟨hmap.trans hmade |>.symm, .refl l⟩
    · simp only [document, hplan, exec_bind, hmade, exec_settle, exec_pure, Prod.mk.injEq] at h
      obtain ⟨rfl, rfl⟩ := h
      exact ⟨hmap.trans hmade |>.symm, .refl l⟩
    · cases hwhole : mapper.wholeDocument <;>
        simp [document, hplan, exec_bind, hmade, hwhole] at h <;>
        obtain ⟨rfl, rfl⟩ := h
      · exact ⟨hmap.trans hmade |>.symm, Load.said_remark l rfl⟩
      · exact ⟨hmap.trans hmade |>.symm, .refl l⟩

theorem query_said {r : Except Fault (Option Value)}
    (h : exec (query c row) l = (r, l')) : r = c.mapQuery row ∧ l.Says l' := by
  have hmap : c.mapQuery row =
      (Row.read (Query.matched c.fields) row >>= Query.ofRow c.fields).map (·.map .obj) := by
    unfold LoadConfig.mapQuery
    rcases Row.read (Query.matched c.fields) row with f | read
    · rfl
    · rcases hread : Query.ofRow c.fields read with f | conditions <;>
        simp [bind, Except.bind, hread, Except.map, pure, Except.pure]
  rw [hmap]
  rcases hmade : (Row.read (Query.matched c.fields) row >>= Query.ofRow c.fields) with
    f | (_ | conditions) <;>
    simp [query, exec_bind, hmade] at h <;> obtain ⟨rfl, rfl⟩ := h
  · exact ⟨rfl, .refl l⟩
  · exact ⟨rfl, .refl l⟩
  · exact ⟨rfl, Load.said_remark l rfl⟩

theorem modifierUpdate_said {r : Except Fault (Option Value)}
    (h : exec (modifierUpdate c row) l = (r, l')) :
    r = c.mapUpdate row ∧ l.Says l' := by
  rcases hmade : c.mapUpdate row with f | (_ | update) <;>
    simp only [LoadConfig.mapUpdate] at hmade <;>
    simp [modifierUpdate, exec_bind, hmade] at h <;> obtain ⟨rfl, rfl⟩ := h
  · exact ⟨rfl, .refl l⟩
  · exact ⟨rfl, .refl l⟩
  · exact ⟨rfl, Load.said_remark l rfl⟩

theorem change_said {r : Except Fault (Option Value)}
    (h : exec (if c.modifierUpdate then modifierUpdate c row else document c room row) l =
      (r, l')) :
    r = c.mapChange room row ∧ l.Says l' := by
  cases hmodifier : c.modifierUpdate with
  | true =>
    simp only [hmodifier, if_true] at h
    simpa [LoadConfig.mapChange, hmodifier] using modifierUpdate_said h
  | false =>
    simp only [hmodifier, Bool.false_eq_true, if_false] at h
    simpa [LoadConfig.mapChange, hmodifier] using document_said h

end Loader

end RowIngest
