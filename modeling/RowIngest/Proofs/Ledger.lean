import RowIngest.Proofs.Delivery
/-!
The books of a load, apart from the store. What the store has accepted, what is due to it, and
what waits for its batch are together what the rows that were read stand for, in this order.
An entry in the books keeps that; the counters follow from the writes that were accepted.
-/
namespace RowIngest

variable {σ : Type}

/-- The write that a delivery is chosen for when it is delivered on its own. -/
def Delivery.write (multi : Bool) : Delivery → Except ConfigProblem Write
  | .document d => .ok (.insertMany [d])
  | .change query d => Upsert.choose query d multi

/-- Batches of a size, but for the last one, which may be smaller. -/
def Portioned (size : Nat) (batches : List (List Value)) : Prop :=
  (∀ b ∈ batches.dropLast, b.length = size) ∧
    ∀ b ∈ batches.getLast?, 0 < b.length ∧ b.length ≤ size

namespace Portioned

variable {size : Nat} {batches : List (List Value)}

theorem of_full (hsize : 0 < size) (h : ∀ b ∈ batches, b.length = size) :
    Portioned size batches := by
  refine ⟨fun b hb => h b (List.dropLast_subset _ hb), fun b hb => ?_⟩
  have hlength := h b (List.mem_of_getLast? hb)
  omega

theorem concat {b : List Value} (h : ∀ b ∈ batches, b.length = size) (hsome : b ≠ [])
    (hroom : b.length ≤ size) : Portioned size (batches ++ [b]) := by
  refine ⟨by simpa using h, ?_⟩
  simpa using ⟨List.length_pos_iff.mpr hsome, hroom⟩

theorem length_flatten_of_full (h : ∀ b ∈ batches, b.length = size) :
    batches.flatten.length = batches.length * size := by
  induction batches with
  | nil => simp
  | cons b batches ih =>
    have hb := h b List.mem_cons_self
    have hrest := ih fun b' hb' => h b' (List.mem_cons_of_mem b hb')
    rw [List.flatten_cons, List.length_append, List.length_cons, hb, hrest, Nat.succ_mul,
      Nat.add_comm]

/-- How many batches there are follows from how much is in them. -/
theorem length_eq (hsize : 0 < size) (h : Portioned size batches) :
    batches.length = (batches.flatten.length + size - 1) / size := by
  rcases List.eq_nil_or_concat batches with rfl | ⟨full, b, rfl⟩
  · have hsmall : size - 1 < size := by omega
    simp [Nat.div_eq_of_lt hsmall]
  · obtain ⟨hfull, hlast⟩ := h
    simp only [List.concat_eq_append, List.dropLast_concat, List.getLast?_concat,
      Option.mem_some, forall_eq'] at hfull hlast
    have hlength := length_flatten_of_full hfull
    simp only [List.concat_eq_append, List.flatten_append, List.flatten_singleton,
      List.length_append, List.length_singleton, hlength]
    symm
    apply Nat.div_eq_of_lt_le
    · rw [Nat.succ_mul]
      omega
    · rw [Nat.succ_mul, Nat.succ_mul]
      omega

end Portioned

/-- The part of a load that the books are about. -/
structure Ledger where
  rowsRead : Nat
  rowsSkipped : Nat
  rowsProcessed : Nat
  buffer : List Value
  accepted : List Write
  documentsInserted : Nat
  batchesWritten : Nat
  upsertsWritten : Nat

namespace Ledger

/-- Counts a write that the store has accepted. -/
def accept (g : Ledger) (w : Write) : Ledger :=
  match w with
  | .insertMany documents => { g with
      accepted := g.accepted ++ [w]
      batchesWritten := g.batchesWritten + 1
      documentsInserted := g.documentsInserted + documents.length }
  | _ => { g with accepted := g.accepted ++ [w], upsertsWritten := g.upsertsWritten + 1 }

def process (g : Ledger) : Ledger := { g with rowsProcessed := g.rowsProcessed + 1 }

/-- Counts a row as read and as processed. -/
def take (g : Ledger) : Ledger :=
  { g with rowsRead := g.rowsRead + 1, rowsProcessed := g.rowsProcessed + 1 }

def skip (g : Ledger) : Ledger := { g with rowsSkipped := g.rowsSkipped + 1 }

def keep (g : Ledger) (d : Value) : Ledger := { g with buffer := g.buffer ++ [d] }

def withdraw (g : Ledger) : Ledger := { g with buffer := [] }

variable {g : Ledger} {w : Write}

@[simp] theorem accept_accepted : (g.accept w).accepted = g.accepted ++ [w] := by cases w <;> rfl

@[simp] theorem accept_buffer : (g.accept w).buffer = g.buffer := by cases w <;> rfl

@[simp] theorem accept_rowsRead : (g.accept w).rowsRead = g.rowsRead := by cases w <;> rfl

@[simp] theorem accept_rowsSkipped : (g.accept w).rowsSkipped = g.rowsSkipped := by
  cases w <;> rfl

@[simp] theorem accept_rowsProcessed : (g.accept w).rowsProcessed = g.rowsProcessed := by
  cases w <;> rfl

/-- It does not matter whether a row is reported before or after its write is counted. -/
theorem process_accept : (g.accept w).process = g.process.accept w := by cases w <;> rfl

/-- The counters of writes agree with the writes that were accepted. -/
structure Tallied (g : Ledger) : Prop where
  batches : g.batchesWritten = g.accepted.countP (·.isInsert)
  upserts : g.upsertsWritten = g.accepted.countP (!·.isInsert)
  written : g.documentsInserted + g.upsertsWritten =
    (g.accepted.flatMap Write.deliveries).length

theorem Tallied.accept (h : g.Tallied) (w : Write) : (g.accept w).Tallied := by
  obtain ⟨hbatches, hupserts, hwritten⟩ := h
  cases w with
  | insertMany documents =>
    refine ⟨?_, ?_, ?_⟩
    · simp [Ledger.accept, Write.isInsert, hbatches]
    · simp [Ledger.accept, Write.isInsert, hupserts]
    · simp only [Ledger.accept, List.flatMap_append, List.length_append, ← hwritten,
        Write.deliveries, List.flatMap_singleton, List.length_map]
      omega
  | _ =>
    refine ⟨?_, ?_, ?_⟩
    · simp [Ledger.accept, Write.isInsert, hbatches]
    · simp [Ledger.accept, Write.isInsert, hupserts]
    · simp only [Ledger.accept, List.flatMap_append, List.length_append, ← hwritten,
        Write.deliveries, List.flatMap_singleton, List.length_singleton]
      omega

/-- Every batch was full when it was written, and the next one is not. -/
structure Even (g : Ledger) (c : LoadConfig) : Prop where
  full : ∀ {documents : List Value}, .insertMany documents ∈ g.accepted →
    documents.length = c.batchSize
  room : g.buffer.length < c.batchSize

end Ledger

/-- The books after these rows, with these deliveries due. -/
structure Books (c : LoadConfig) (room : Room) (done : List Value) (due : List Delivery)
    (g : Ledger) : Prop where
  mapped : c.MapsAll room done
  account : g.accepted.flatMap Write.deliveries ++ (due ++ g.buffer.map .document) =
    c.deliveries room done
  read : g.rowsRead = done.length
  processed : g.rowsProcessed = done.length
  skipped : g.rowsSkipped = done.countP (c.skips room)
  tallied : g.Tallied
  inserts : c.upsert = false →
    ∃ batches, g.accepted = batches.map .insertMany ∧ Portioned c.batchSize batches
  changes : c.upsert = true → ∀ w ∈ g.accepted, w.isInsert = false
  upserts : c.upsert = true → g.buffer = [] ∧
    g.accepted.map .ok ++ due.map (·.write c.multi) = (c.deliveries room done).map (·.write c.multi)

namespace Books

variable {c : LoadConfig} {room : Room} {done : List Value} {due : List Delivery} {g : Ledger}
  {row : Value}

theorem skip (h : Books c room done [] g) (hrow : c.delivery room row = .ok none) :
    Books c room (done ++ [row]) [] g.take.skip where
  mapped := h.mapped.concat hrow
  account := by
    rw [LoadConfig.deliveries_concat h.mapped hrow, ← h.account]
    simp [Ledger.take, Ledger.skip]
  read := by simp [Ledger.take, Ledger.skip, h.read]
  processed := by simp [Ledger.take, Ledger.skip, h.processed]
  skipped := by simp [Ledger.take, Ledger.skip, h.skipped, LoadConfig.skips, hrow]
  tallied := ⟨h.tallied.batches, h.tallied.upserts, h.tallied.written⟩
  inserts := h.inserts
  changes := h.changes
  upserts hupsert := by
    obtain ⟨hbuffer, hchosen⟩ := h.upserts hupsert
    refine ⟨hbuffer, ?_⟩
    rw [LoadConfig.deliveries_concat h.mapped hrow]
    simpa [Ledger.take, Ledger.skip] using hchosen

theorem keep {d : Value} (h : Books c room done [] g) (hinsert : c.upsert = false)
    (hrow : c.delivery room row = .ok (some (.document d))) :
    Books c room (done ++ [row]) [] (g.take.keep d) where
  mapped := h.mapped.concat hrow
  account := by
    rw [LoadConfig.deliveries_concat h.mapped hrow, ← h.account]
    simp [Ledger.take, Ledger.keep]
  read := by simp [Ledger.take, Ledger.keep, h.read]
  processed := by simp [Ledger.take, Ledger.keep, h.processed]
  skipped := by simp [Ledger.take, Ledger.keep, h.skipped, LoadConfig.skips, hrow]
  tallied := ⟨h.tallied.batches, h.tallied.upserts, h.tallied.written⟩
  inserts := h.inserts
  changes := h.changes
  upserts hupsert := by simp [hinsert] at hupsert

/-- A change is due as soon as its row is mapped. -/
theorem charge {δ : Delivery} (h : Books c room done [] g) (hupsert : c.upsert = true)
    (hrow : c.delivery room row = .ok (some δ)) : Books c room (done ++ [row]) [δ] g.take where
  mapped := h.mapped.concat hrow
  account := by
    obtain ⟨hbuffer, -⟩ := h.upserts hupsert
    rw [LoadConfig.deliveries_concat h.mapped hrow, ← h.account]
    simp [Ledger.take, hbuffer]
  read := by simp [Ledger.take, h.read]
  processed := by simp [Ledger.take, h.processed]
  skipped := by simp [Ledger.take, h.skipped, LoadConfig.skips, hrow]
  tallied := ⟨h.tallied.batches, h.tallied.upserts, h.tallied.written⟩
  inserts hinsert := by simp [hupsert] at hinsert
  changes := h.changes
  upserts _ := by
    obtain ⟨hbuffer, hchosen⟩ := h.upserts hupsert
    refine ⟨hbuffer, ?_⟩
    rw [LoadConfig.deliveries_concat h.mapped hrow, List.map_append, ← hchosen]
    simp [Ledger.take]

/-- What waited is due once it is taken out of the buffer. -/
theorem withdraw (h : Books c room done [] g) :
    Books c room done (g.buffer.map .document) g.withdraw where
  mapped := h.mapped
  account := by
    rw [← h.account]
    simp [Ledger.withdraw]
  read := h.read
  processed := h.processed
  skipped := h.skipped
  tallied := ⟨h.tallied.batches, h.tallied.upserts, h.tallied.written⟩
  inserts := h.inserts
  changes := h.changes
  upserts hupsert := by
    obtain ⟨hbuffer, hchosen⟩ := h.upserts hupsert
    refine ⟨rfl, ?_⟩
    simpa [hbuffer, Ledger.withdraw] using hchosen

variable {w : Write}

/-- Nothing is due any more once the store has accepted the write of what was due. -/
theorem accept (h : Books c room done due g) (hdue : w.deliveries = due)
    (hinserts : c.upsert = false →
      ∃ batches, g.accepted ++ [w] = batches.map .insertMany ∧ Portioned c.batchSize batches)
    (hupserts : c.upsert = true →
      w.isInsert = false ∧ due.map (·.write c.multi) = [.ok w]) :
    Books c room done [] (g.accept w) where
  mapped := h.mapped
  account := by
    rw [← h.account, ← hdue]
    simp
  read := by simpa using h.read
  processed := by simpa using h.processed
  skipped := by simpa using h.skipped
  tallied := h.tallied.accept w
  inserts hinsert := by simpa using hinserts hinsert
  changes hupsert v hv := by
    rw [Ledger.accept_accepted, List.mem_append, List.mem_singleton] at hv
    rcases hv with hv | rfl
    · exact h.changes hupsert v hv
    · exact (hupserts hupsert).1
  upserts hupsert := by
    obtain ⟨hbuffer, hchosen⟩ := h.upserts hupsert
    refine ⟨by simpa using hbuffer, ?_⟩
    rw [← hchosen, (hupserts hupsert).2]
    simp

theorem acceptBatch {documents : List Value} (h : Books c room done (documents.map .document) g)
    (hfull : ∀ {documents : List Value}, .insertMany documents ∈ g.accepted →
      documents.length = c.batchSize)
    (hinsert : c.upsert = false) (hsome : documents ≠ [])
    (hsize : documents.length ≤ c.batchSize) :
    Books c room done [] (g.accept (.insertMany documents)) := by
  refine h.accept rfl (fun _ => ?_) fun hupsert => by simp [hinsert] at hupsert
  obtain ⟨batches, hbatches, -⟩ := h.inserts hinsert
  have hportions : ∀ b ∈ batches, b.length = c.batchSize := by
    intro b hb
    refine hfull ?_
    rw [hbatches]
    exact List.mem_map_of_mem hb
  refine ⟨batches ++ [documents], ?_, .concat hportions hsome hsize⟩
  simp [hbatches]

theorem acceptChange {query document : Value} (h : Books c room done [.change query document] g)
    (hupsert : c.upsert = true) (hw : Upsert.choose query document c.multi = .ok w) :
    Books c room done [] (g.accept w) := by
  refine h.accept (Upsert.deliveries_of_choose hw) (fun hinsert => ?_) fun _ => ?_
  · simp [hupsert] at hinsert
  · exact ⟨Upsert.isInsert_of_choose hw, by simp [Delivery.write, hw]⟩

/-- The rows that were read are the ones that were skipped and the ones that were delivered,
are due, or wait. -/
theorem rowsProcessed_eq (h : Books c room done due g) :
    g.rowsProcessed = g.rowsSkipped + g.documentsInserted + g.upsertsWritten +
      g.buffer.length + due.length := by
  have hlength := LoadConfig.length_deliveries h.mapped
  have hwritten := h.tallied.written
  rw [← h.account, List.length_append, List.length_append, List.length_map] at hlength
  rw [h.processed, h.skipped]
  omega

/-- What was accepted comes first among what the rows stand for. -/
theorem accepted_prefix (h : Books c room done due g) (rest : List Value) :
    g.accepted.flatMap Write.deliveries <+: c.deliveries room (done ++ rest) := by
  rw [LoadConfig.deliveries_append h.mapped, ← h.account, List.append_assoc]
  exact List.prefix_append _ _

end Books

namespace Ledger.Even

variable {c : LoadConfig} {room : Room} {g : Ledger} {w : Write}

/-- Full batches stay the rule when a full one is accepted, and nothing waits after that. -/
theorem accept (hfull : ∀ {documents : List Value}, .insertMany documents ∈ g.accepted →
      documents.length = c.batchSize)
    (hw : ∀ {documents : List Value}, w = .insertMany documents →
      documents.length = c.batchSize)
    (hroom : g.buffer.length < c.batchSize) : (g.accept w).Even c := by
  refine ⟨?_, by simpa using hroom⟩
  intro documents hmem
  rw [accept_accepted, List.mem_append, List.mem_singleton] at hmem
  rcases hmem with hmem | hmem
  · exact hfull hmem
  · exact hw hmem.symm

end Ledger.Even

end RowIngest
