import RowIngest.Proofs.Attempts
import RowIngest.Store.Client
/-!
What becomes of one answer of a driver. The store puts it into its own terms: errors of the driver
are failed writes, documents that cannot be encoded are rejected, and the server may say that an
update was not applied. Main statement: one request for a write calls the driver once, and a writer
judges its result as the answer deserves.
-/
namespace RowIngest

variable {σ α β : Type}

/-- The server's answer can be read: it says nothing, or the reason it gives is text if it gives
one. -/
def DriverResult.Legible (result : DriverResult) : Prop :=
  result.acknowledged = true → result.raw = .null ∨ ∃ fields, result.raw = .obj fields ∧
    (Fields.get? fields "errmsg" = none ∨ Fields.get? fields "errmsg" = some .null ∨
      ∃ reason, Fields.get? fields "errmsg" = some (.str reason))

/-- The driver has completed a write. Of an insert nothing more is asked; the server may say that
it has not applied an update. -/
def DriverResult.completes (operation : Operation) (result : DriverResult) : Bool :=
  !result.acknowledged || operation = .insertMany ||
    match result.raw with
    | .obj fields => Client.updateApplied fields
    | _ => true

/-- An error of the driver is a failed write, and a document that cannot be encoded is rejected.
Other faults are left as they are. -/
def Fault.ofWrite (operation : Operation) : Fault → Fault
  | .foreign e =>
    if e.kind.isDriver then .driverWrite operation e
    else if e.kind.isEncoding then .rejected operation e
    else .foreign e
  | f => f

/-- An answer of the driver that asks for another attempt. -/
def Driver.asksAgain (operation : Operation) : Except Fault DriverResult → Bool
  | .ok result => !result.completes operation
  | .error (.foreign e) => e.kind.isDriver
  | .error f => f.isRetryable

theorem Fault.isRetryable_ofWrite (operation : Operation) (f : Fault) :
    (f.ofWrite operation).isRetryable = Driver.asksAgain operation (.error f) := by
  cases f with
  | foreign e =>
    cases hdriver : e.kind.isDriver with
    | true => simp [ofWrite, Driver.asksAgain, hdriver, isRetryable, category?]
    | false =>
      cases hencoding : e.kind.isEncoding <;>
        simp [ofWrite, Driver.asksAgain, hdriver, hencoding, isRetryable, category?]
  | _ => rfl

/-- The write that the driver is called for, if this is such a call. -/
def Note.written? : Note → Option Write
  | .driver (.write w) => some w
  | _ => none

namespace Client

/-- What a request comes to: its result, the state of the driver, and what has happened. -/
def serve (x : Request σ α) (y : σ × List Note) : Except Fault α × σ × List Note := x.run.run y

theorem reply_of_serve {a : Request σ α} {x y : σ} {r : Except Fault α} {notes : List Note}
    (h : serve a (x, []) = (r, y, notes)) : reply a x = ⟨r, y, notes⟩ := by
  have hrun : a.run.run (x, []) = (r, y, notes) := h
  simp only [reply, hrun]

section

variable {d : Driver σ} {x : σ}

@[simp] theorem serve_pure (a : α) (y : σ × List Note) :
    serve (pure a : Request σ α) y = (.ok a, y) := rfl

@[simp] theorem serve_throw (f : Fault) (y : σ × List Note) :
    serve (throw f : Request σ α) y = (.error f, y) := rfl

@[simp] theorem serve_liftM (r : Except Fault α) (y : σ × List Note) :
    serve (liftM r : Request σ α) y = (r, y) := by
  cases r <;> rfl

theorem serve_bind (a : Request σ α) (f : α → Request σ β) (y : σ × List Note) :
    serve (a >>= f) y =
      match serve a y with
      | (.ok b, y') => serve (f b) y'
      | (.error e, y') => (.error e, y') := by
  rcases h : serve a y with ⟨r, y'⟩
  have h' : a.run.run y = (r, y') := h
  simp only [serve, ExceptT.run_bind, StateT.run_bind, h']
  cases r <;> rfl

theorem serve_map (f : α → β) (a : Request σ α) (y : σ × List Note) :
    serve (f <$> a) y = ((serve a y).1.map f, (serve a y).2) := by
  rw [← bind_pure_comp, serve_bind]
  rcases serve a y with ⟨_ | _, y'⟩ <;> rfl

theorem serve_tryCatch (a : Request σ α) (f : Fault → Request σ α) (y : σ × List Note) :
    serve (tryCatch a f) y =
      match serve a y with
      | (.ok b, y') => (.ok b, y')
      | (.error e, y') => serve (f e) y' := by
  rcases ha : serve a y with ⟨r, y'⟩
  have ha' : StateT.run (m := Id) a y = (r, y') := ha
  change StateT.run (ExceptT.tryCatch a f) y = _
  simp only [ExceptT.tryCatch, ExceptT.mk, StateT.run_bind, ha']
  cases r <;> rfl

@[simp] theorem serve_get (y : σ × List Note) : serve (get : Request σ _) y = (.ok y, y) := rfl

@[simp] theorem serve_set (y y' : σ × List Note) :
    serve (set y' : Request σ PUnit) y = (.ok ⟨⟩, y') := rfl

@[simp] theorem serve_ask (call : DriverCall) (f : σ → Except Fault α × σ) (x : σ)
    (notes : List Note) :
    serve (ask call f) (x, notes) = ((f x).1, (f x).2, notes ++ [.driver call]) := by
  simp only [ask, serve_bind, serve_get, serve_set, serve_liftM]

@[simp] theorem serve_report (level : Log.Level) (message : String) (extra : Fields) (x : σ)
    (notes : List Note) :
    serve (report level message extra) (x, notes) =
      (.ok (), x, notes ++ [.logged ⟨level, .store, message, extra⟩]) := rfl

/-- The server in use is told, or nothing is told of it; nothing is said about either. -/
theorem serve_server (notes : List Note) (haddress : ∀ f, (d.address x).1 = .error f →
      ∃ e, f = .foreign e ∧ e.kind.isDriver = true) :
    ∃ told, serve (server d) (x, notes) = (.ok told, (d.address x).2, notes) := by
  simp only [server, explained, serve_tryCatch, serve_bind, serve_get, serve_set, serve_liftM]
  rcases haddressed : (d.address x).1 with f | address
  · obtain ⟨e, rfl, hdriver⟩ := haddress f haddressed
    exact ⟨none, by simp [hdriver]⟩
  · exact ⟨_, rfl⟩

theorem exists_updateReason {fields : Fields}
    (h : Fields.get? fields "errmsg" = none ∨ Fields.get? fields "errmsg" = some .null ∨
      ∃ reason, Fields.get? fields "errmsg" = some (.str reason)) :
    ∃ reason, updateReason fields = .ok reason := by
  unfold updateReason
  rcases h with h | h | ⟨reason, h⟩ <;> rw [h] <;> exact ⟨_, rfl⟩

/-- A write that the driver has returned from has an outcome. -/
theorem serve_outcome {w : Write} {result : DriverResult} (notes : List Note)
    (haddress : ∀ f, (d.address x).1 = .error f → ∃ e, f = .foreign e ∧ e.kind.isDriver = true)
    (hlegible : result.Legible) :
    ∃ o x', serve (outcome d w result) (x, notes) = (.ok o, x', notes) ∧
      o.ok = result.completes w.operation ∧ (x' = x ∨ x' = (d.address x).2) := by
  cases hacknowledged : result.acknowledged with
  | false =>
    exact ⟨⟨true, none, none⟩, x, by simp [outcome, hacknowledged],
      by simp [DriverResult.completes, hacknowledged], Or.inl rfl⟩
  | true =>
    obtain ⟨told, htold⟩ := serve_server notes haddress
    by_cases hinsert : w.operation = .insertMany
    · refine ⟨⟨true, none, told⟩, _, ?_, ?_, Or.inr rfl⟩
      · simp [outcome, hacknowledged, hinsert, serve_map, htold, Except.map]
      · simp [DriverResult.completes, hinsert]
    · obtain ⟨fields, hfields, hreason, hcompletes⟩ : ∃ fields,
          answerFields result.raw = .ok fields ∧ (∃ reason, updateReason fields = .ok reason) ∧
          result.completes w.operation = updateApplied fields := by
        rcases hlegible hacknowledged with hraw | ⟨fields, hraw, hreason⟩
        · exact ⟨[], by rw [hraw]; rfl, ⟨_, rfl⟩,
            by simp [DriverResult.completes, hacknowledged, hinsert, hraw, updateApplied,
              Fields.get?]⟩
        · exact ⟨fields, by rw [hraw]; rfl, exists_updateReason hreason,
            by simp [DriverResult.completes, hacknowledged, hinsert, hraw]⟩
      obtain ⟨reason, hreason⟩ := hreason
      cases happlied : updateApplied fields with
      | true =>
        refine ⟨⟨true, none, told⟩, _, ?_, hcompletes.trans happlied |>.symm, Or.inr rfl⟩
        simp [outcome, hacknowledged, hinsert, serve_bind, serve_map, hfields, htold, happlied,
          Except.map]
      | false =>
        refine ⟨⟨false, reason, told⟩, _, ?_, hcompletes.trans happlied |>.symm, Or.inr rfl⟩
        simp [outcome, hacknowledged, hinsert, serve_bind, serve_map, hfields, htold, happlied,
          hreason, Except.map]

theorem serve_failedWrite (x : σ) (notes : List Note) (operation : Operation) (f : Fault) :
    ∃ said, serve (failedWrite operation f) (x, notes) =
        (.error (f.ofWrite operation), x, notes ++ said) ∧ said.filterMap (·.written?) = [] := by
  cases f with
  | foreign e =>
    cases hdriver : e.kind.isDriver with
    | true => exact ⟨[], by simp [failedWrite, Fault.ofWrite, hdriver], rfl⟩
    | false =>
      cases hencoding : e.kind.isEncoding with
      | true =>
        refine ⟨[.logged ⟨.error, .store, "Document rejected before sending",
          [("operation", .str operation.name), ("reason", .str e.text)]⟩], ?_, rfl⟩
        simp [failedWrite, Fault.ofWrite, hdriver, hencoding, serve_bind]
      | false => exact ⟨[], by simp [failedWrite, Fault.ofWrite, hdriver, hencoding], rfl⟩
  | _ => exact ⟨[], by simp [failedWrite, Fault.ofWrite], rfl⟩

end

end Client

namespace Driver

/-- What a writer makes of an answer of the driver: a fault that ends the write, or else an outcome
or a failure that may be overcome. -/
inductive Judges (operation : Operation) :
    Except Fault DriverResult → Except Fault (Except Fault Outcome) → Prop
  | completed {result : DriverResult} {o : Outcome} (hdone : result.completes operation = true)
      (ho : o.ok = true) : Judges operation (.ok result) (.ok (.ok o))
  | unapplied {result : DriverResult} {reason server : Option String}
      (hdone : result.completes operation = false) :
      Judges operation (.ok result) (.ok (.error (.notApplied operation reason server)))
  | failed {f : Fault} (hagain : asksAgain operation (.error f) = true) :
      Judges operation (.error f) (.ok (.error (f.ofWrite operation)))
  | raised {f : Fault} (hagain : asksAgain operation (.error f) = false) :
      Judges operation (.error f) (.error (f.ofWrite operation))

theorem Judges.asksAgain_iff {operation : Operation} {a : Except Fault DriverResult}
    {v : Except Fault (Except Fault Outcome)} (h : Judges operation a v) :
    asksAgain operation a = true ↔ ∃ f, v = .ok (.error f) := by
  cases h with
  | completed hdone _ => simp [asksAgain, hdone]
  | unapplied hdone => simp [asksAgain, hdone]
  | failed hagain => simp [hagain]
  | raised hagain => simp [hagain]

theorem judges_error (w : Write) (f : Fault) :
    Judges w.operation (.error f) (Retry.verdict w (.error (f.ofWrite w.operation))) := by
  cases hagain : asksAgain w.operation (.error f) with
  | true =>
    have hverdict : Retry.verdict w (.error (f.ofWrite w.operation)) =
        .ok (.error (f.ofWrite w.operation)) := by
      simp [Retry.verdict, f.isRetryable_ofWrite, hagain]
    rw [hverdict]
    exact .failed hagain
  | false =>
    have hverdict : Retry.verdict w (.error (f.ofWrite w.operation)) =
        .error (f.ofWrite w.operation) := by
      simp [Retry.verdict, f.isRetryable_ofWrite, hagain]
    rw [hverdict]
    exact .raised hagain

theorem judges_ok {w : Write} {result : DriverResult} {o : Outcome}
    (ho : o.ok = result.completes w.operation) :
    Judges w.operation (.ok result) (Retry.verdict w (.ok o)) := by
  cases hdone : result.completes w.operation with
  | true =>
    rw [hdone] at ho
    have hverdict : Retry.verdict w (.ok o) = .ok (.ok o) := by simp [Retry.verdict, ho]
    rw [hverdict]
    exact .completed hdone ho
  | false =>
    rw [hdone] at ho
    have hverdict : Retry.verdict w (.ok o) =
        .ok (.error (.notApplied w.operation o.reason o.server)) := by
      simp [Retry.verdict, ho]
    rw [hverdict]
    exact .unapplied hdone

/-- A driver that answers the calls for a write one after the other by these answers; in the states
`R k` it has given `k` of them. It fails to tell its address by errors of its own only, what it
hands on can be read, and nobody cancels. -/
structure Plays (d : Driver σ) (w : Write) (answers : Nat → Except Fault DriverResult)
    (R : Nat → σ → Prop) : Prop where
  legible : ∀ k result, answers k = .ok result → result.Legible
  write : ∀ {k x}, R k x → (d.write w x).1 = answers k ∧ R (k + 1) (d.write w x).2
  address : ∀ {k x}, R k x → (∀ f, (d.address x).1 = .error f →
    ∃ e, f = .foreign e ∧ e.kind.isDriver = true) ∧ R k (d.address x).2
  uncancelled : ∀ {k x}, R k x → (d.cancelled x).1 = false ∧ R k (d.cancelled x).2
  sleep : ∀ {k x} delay, R k x → R k (d.sleep delay x)

variable {d : Driver σ} {w : Write} {answers : Nat → Except Fault DriverResult}
  {R : Nat → σ → Prop}

/-- One request for a write calls the driver once and judges its answer. -/
theorem Plays.reply (h : d.Plays w answers R) {k : Nat} {x : σ} (hx : R k x) :
    Judges w.operation (answers k)
        (Retry.verdict w (Client.reply (Client.write d w) x).result) ∧
      R (k + 1) (Client.reply (Client.write d w) x).state ∧
      (Client.reply (Client.write d w) x).notes.filterMap (·.written?) = [w] := by
  obtain ⟨hanswer, hnext⟩ := h.write hx
  rcases hcall : d.write w x with ⟨f | result, y⟩ <;> rw [hcall] at hanswer hnext
  · obtain ⟨said, hsaid, hnone⟩ :=
      Client.serve_failedWrite y [.driver (.write w)] w.operation f
    have hserve : Client.serve (Client.write d w) (x, []) =
        (.error (f.ofWrite w.operation), y, [.driver (.write w)] ++ said) := by
      simp [Client.write, Client.serve_bind, Client.serve_tryCatch, hcall, hsaid]
    rw [Client.reply_of_serve hserve, ← hanswer]
    refine ⟨judges_error w f, hnext, ?_⟩
    rw [List.filterMap_append, hnone]
    rfl
  · obtain ⟨haddress, hasked⟩ := h.address hnext
    obtain ⟨o, z, houtcome, ho, hz⟩ := Client.serve_outcome (w := w)
      [.driver (.write w)] haddress (h.legible k result hanswer.symm)
    have hserve : Client.serve (Client.write d w) (x, []) = (.ok o, z, [.driver (.write w)]) := by
      simp [Client.write, Client.serve_bind, Client.serve_tryCatch, hcall, houtcome]
    rw [Client.reply_of_serve hserve, ← hanswer]
    refine ⟨judges_ok ho, ?_, rfl⟩
    rcases hz with rfl | rfl
    · exact hnext
    · exact hasked

end Driver

end RowIngest
