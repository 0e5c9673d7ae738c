import Mathlib.Data.List.Induction
import Mathlib.Order.Monotone.Basic
import RowIngest.Proofs.Handling
import RowIngest.Proofs.Rehearsing
/-!
The law of a writer of batches. It is asked to add a document or to flush, any number of times and
whatever came of the earlier calls. Each time it writes, it takes all its documents out, as one
batch, and they never come back. Main statement: after every call the documents that were added are
those of the batches that were taken out, in order, and then those that wait, which are too few for
a batch; every attempt was at one whole batch; and the batches whose write had an outcome are the
ones that are counted.
-/
namespace RowIngest.Batch

open RowIngest.Action

variable {σ : Type}

/-- What a writer is asked for. -/
inductive Request where
  | add (document : Value)
  | flush

/-- A call of a writer, and what happens in the surroundings before it. -/
structure Call (σ : Type) where
  meanwhile : σ → σ
  request : Request

/-- A batch that was taken out, how often its write was attempted, and what came of that. -/
structure Round where
  batch : List Value
  tries : Nat
  result : Except Fault (Option Outcome)

def Request.added : Request → List Value
  | .add document => [document]
  | .flush => []

/-- There is an outcome. -/
def Round.returned (round : Round) : Bool :=
  match round.result with
  | .ok (some _) => true
  | _ => false

/-- The attempts at a batch. -/
def Round.attempts (round : Round) : List Write :=
  List.replicate round.tries (.insertMany round.batch)

/-- How many documents are in the first batches. -/
def held (rounds : List Round) (k : Nat) : Nat := ((rounds.take k).flatMap (·.batch)).length

section

variable (s : Surroundings σ) (p : Retry.Policy) (capacity : Nat)

/-- A writer when it is called. -/
def Call.enter (c : Call σ) (l : Load σ) : Load σ :=
  { l with surroundings := c.meanwhile l.surroundings }

def Call.make (c : Call σ) : Action σ Unit := do
  modify c.enter
  match c.request with
  | .add document => add s p capacity document
  | .flush => let _ ← flush s p

/-- What calls leave behind, whether they return or raise a fault. -/
def after (l : Load σ) (calls : List (Call σ)) : Load σ :=
  calls.foldl (fun l c => (exec (c.make s p capacity) l).2) l

/-- The documents that wait are flushed in this round. -/
structure Flushes (l : Load σ) (round : Round) (l' : Load σ) : Prop where
  batch : l.buffer = round.batch
  result : exec (flush s p) l = (round.result, l')
  attempts : l'.attempts = l.attempts ++ round.attempts
  buffer : l'.buffer = []
  batches : l'.batchesWritten = l.batchesWritten + if round.returned then 1 else 0
  written : l'.documentsInserted =
    l.documentsInserted + if round.returned then round.batch.length else 0

/-- What a request comes to: its result, the round that is made of it if it takes a batch out, and
what it leaves behind. -/
inductive Serves (l : Load σ) : Request → Except Fault Unit → Option Round → Load σ → Prop
  | kept {document : Value} (hroom : l.buffer.length + 1 < capacity) :
      Serves l (.add document) (.ok ()) none { l with buffer := l.buffer ++ [document] }
  | filled {document : Value} {said : Log.Record} {round : Round} {l' : Load σ}
      (hfull : capacity ≤ l.buffer.length + 1)
      (hflush : Flushes s p
        (Load.record { l with buffer := l.buffer ++ [document] } (.logged said)) round l') :
      Serves l (.add document) (round.result.map fun _ => ()) (some round) l'
  | idle (hnone : l.buffer = []) : Serves l .flush (.ok ()) none l
  | flushed {round : Round} {l' : Load σ} (hsome : l.buffer ≠ [])
      (hflush : Flushes s p l round l') :
      Serves l .flush (round.result.map fun _ => ()) (some round) l'

/-- Calls that are made one after the other, with the rounds that are made of them. -/
inductive Runs (x : σ) : List (Call σ) → List Round → Load σ → Prop
  | begin : Runs x [] [] (Load.begin x [])
  | call {calls : List (Call σ)} {rounds : List Round} {l l' : Load σ} {c : Call σ}
      {r : Except Fault Unit} {round? : Option Round} (hbefore : Runs x calls rounds l)
      (hserves : Serves s p capacity (c.enter l) c.request r round? l') :
      Runs x (calls ++ [c]) (rounds ++ round?.toList) l'

end

/-- The account of a writer to which these documents were added, and which made these rounds. -/
structure Account (capacity : Nat) (added : List Value) (rounds : List Round) (l : Load σ) :
    Prop where
  documents : added = rounds.flatMap (·.batch) ++ l.buffer
  sizes : ∀ round ∈ rounds, 0 < round.batch.length ∧ round.batch.length ≤ capacity
  attempts : l.attempts = rounds.flatMap (·.attempts)
  batches : l.batchesWritten = rounds.countP (·.returned)
  written : l.documentsInserted = ((rounds.filter (·.returned)).flatMap (·.batch)).length

/-- Between two calls there is room for one document more. -/
structure Law (capacity : Nat) (added : List Value) (rounds : List Round) (l : Load σ) : Prop
    extends Account capacity added rounds l where
  room : l.buffer.length < capacity

variable {s : Surroundings σ} {p : Retry.Policy} {capacity : Nat} {l l' : Load σ}
  {r : Except Fault Unit} {round : Round} {round? : Option Round} {rounds : List Round}
  {added : List Value} {request : Request} {c : Call σ}

/-- A write is attempted some number of times, and neither buffers nor counts anything. -/
theorem write_repeats {context : Fields} {w : Write} {result : Except Fault (Option Outcome)}
    (h : exec (Retry.write s p context w) l = (result, l')) :
    ∃ tries es, l.Passes s es l' ∧ es.filterMap (·.attempted?) = List.replicate tries w := by
  rcases Retry.attempts_passes (by omega) h with ⟨es, hseries, hpass⟩ | ⟨-, hpass, -⟩
  · refine ⟨_, es, hpass, List.eq_replicate_of_mem fun v hv => ?_⟩
    exact hseries.eq_of_attempted hv
  · exact ⟨0, [], hpass, rfl⟩

theorem flushes_of_exec {result : Except Fault (Option Outcome)} (hsome : l.buffer ≠ [])
    (h : exec (flush s p) l = (result, l')) :
    ∃ tries, Flushes s p l ⟨l.buffer, tries, result⟩ l' := by
  obtain ⟨l₁, hwrite, hcounted⟩ := flush_cases hsome h
  obtain ⟨tries, es, hpass, htries⟩ := write_repeats hwrite
  have hattempts : l₁.attempts = l.attempts ++ List.replicate tries (.insertMany l.buffer) := by
    rw [hpass.attempts_eq, htries]
    rfl
  have hbuffer : l₁.buffer = [] := hpass.buffer_eq
  have hbatches : l₁.batchesWritten = l.batchesWritten :=
    hpass.frame (f := Load.batchesWritten) fun _ _ _ => rfl
  have hwritten : l₁.documentsInserted = l.documentsInserted :=
    hpass.frame (f := Load.documentsInserted) fun _ _ _ => rfl
  refine ⟨tries, ?_⟩
  rcases hcounted with ⟨hnone, rfl⟩ | ⟨o, said, rfl, rfl⟩
  · have hreturned : Round.returned ⟨l.buffer, tries, result⟩ = false := by
      rcases result with f | (_ | o)
      · rfl
      · rfl
      · exact absurd rfl (hnone o)
    refine ⟨rfl, h, hattempts, hbuffer, ?_, ?_⟩
    · rw [hreturned, hbatches]
      rfl
    · rw [hreturned, hwritten]
      rfl
  · refine ⟨rfl, h, ?_, hbuffer, congrArg (· + 1) hbatches,
      congrArg (· + l.buffer.length) hwritten⟩
    have hsaid := (Load.passes_remark s (l₁.credit (.insertMany l.buffer))
      (e := .logged said) rfl).attempts_eq
    rw [hsaid, Load.attempts_credit, hattempts]
    simp [Round.attempts]

theorem serves_add {document : Value} (h : exec (add s p capacity document) l = (r, l')) :
    ∃ round?, Serves s p capacity l (.add document) r round? l' := by
  by_cases hfull : capacity ≤ l.buffer.length + 1
  · rw [exec_add_of_full hfull] at h
    obtain ⟨result, hresult, rfl⟩ := exec_flush_eq h
    obtain ⟨tries, hflush⟩ := flushes_of_exec (by simp [Load.record]) hresult
    exact ⟨_, .filled hfull hflush⟩
  · have hroom : l.buffer.length + 1 < capacity := by omega
    rw [exec_add_of_room hroom] at h
    obtain ⟨rfl, rfl⟩ := Prod.mk.inj h
    exact ⟨none, .kept hroom⟩

theorem serves_flush (h : exec (do let _ ← flush s p) l = (r, l')) :
    ∃ round?, Serves s p capacity l .flush r round? l' := by
  obtain ⟨result, hresult, rfl⟩ := exec_flush_eq h
  by_cases hnone : l.buffer = []
  · have hidle : exec (flush s p) l = (.ok none, { l with buffer := [] }) := by
      simp [flush, takeBuffer, exec_bind, hnone]
    obtain ⟨rfl, rfl⟩ := Prod.mk.inj (hidle.symm.trans hresult)
    have hsame : { l with buffer := [] } = l := by rw [← hnone]
    rw [hsame]
    exact ⟨none, .idle hnone⟩
  · obtain ⟨tries, hflush⟩ := flushes_of_exec hnone hresult
    exact ⟨_, .flushed hnone hflush⟩

/-- Every call is served in one of these ways. -/
theorem Call.serves (h : exec (c.make s p capacity) l = (r, l')) :
    ∃ round?, Serves s p capacity (c.enter l) c.request r round? l' := by
  rw [Call.make, exec_bind, exec_modify] at h
  cases hrequest : c.request with
  | add document =>
    rw [hrequest] at h
    exact serves_add h
  | flush =>
    rw [hrequest] at h
    exact serves_flush h

/-- Calls in a row are served one after the other. -/
theorem runs_after (x : σ) (calls : List (Call σ)) :
    ∃ rounds, Runs s p capacity x calls rounds (after s p capacity (Load.begin x []) calls) := by
  induction calls using List.reverseRecOn with
  | nil => exact ⟨[], .begin⟩
  | append_singleton calls c ih =>
    obtain ⟨rounds, hruns⟩ := ih
    rcases hcall : exec (c.make s p capacity) (after s p capacity (Load.begin x []) calls) with
      ⟨r, l'⟩
    obtain ⟨round?, hserves⟩ := c.serves hcall
    have hafter : after s p capacity (Load.begin x []) (calls ++ [c]) = l' := by
      rw [after, List.foldl_append]
      exact congrArg Prod.snd hcall
    rw [hafter]
    exact ⟨_, .call hruns hserves⟩

namespace Account

variable (h : Account capacity added rounds l)

include h

theorem enter (c : Call σ) : Account capacity added rounds (c.enter l) :=
  ⟨h.documents, h.sizes, h.attempts, h.batches, h.written⟩

theorem record (said : Log.Record) : Account capacity added rounds (l.record (.logged said)) where
  documents := h.documents
  sizes := h.sizes
  attempts := by
    rw [← h.attempts]
    simp [Load.record, Load.attempts, Event.attempted?]
  batches := h.batches
  written := h.written

theorem add (document : Value) :
    Account capacity (added ++ [document]) rounds { l with buffer := l.buffer ++ [document] } where
  documents := by rw [h.documents, List.append_assoc]
  sizes := h.sizes
  attempts := h.attempts
  batches := h.batches
  written := h.written

/-- A batch is entered in the account. -/
theorem flush (hflush : Flushes s p l round l') (hsome : l.buffer ≠ [])
    (hroom : l.buffer.length ≤ capacity) : Account capacity added (rounds ++ [round]) l' where
  documents := by
    rw [h.documents, hflush.buffer, hflush.batch]
    simp
  sizes := by
    intro other hother
    rcases List.mem_append.mp hother with hbefore | hlast
    · exact h.sizes other hbefore
    · rw [List.mem_singleton.mp hlast, ← hflush.batch]
      exact ⟨List.length_pos_iff.mpr hsome, hroom⟩
  attempts := by
    rw [hflush.attempts, h.attempts]
    simp
  batches := by
    rw [hflush.batches, h.batches, List.countP_append, List.countP_singleton]
  written := by
    rw [hflush.written, h.written, List.filter_append, List.flatMap_append, List.length_append]
    cases hreturned : round.returned <;> simp [hreturned]

end Account

namespace Law

theorem begin (hcapacity : 1 ≤ capacity) (x : σ) : Law capacity [] [] (Load.begin x []) :=
  ⟨⟨rfl, nofun, rfl, rfl, rfl⟩, hcapacity⟩

/-- One call keeps the law. -/
theorem serves (h : Law capacity added rounds l)
    (hserves : Serves s p capacity l request r round? l') :
    Law capacity (added ++ request.added) (rounds ++ round?.toList) l' := by
  have hempty : ∀ {l'' : Load σ}, l''.buffer = [] → l''.buffer.length < capacity := by
    intro l'' hbuffer
    rw [hbuffer]
    exact Nat.zero_lt_of_lt h.room
  cases hserves with
  | @kept document hroom =>
    refine ⟨?_, by simpa using hroom⟩
    simpa [Request.added] using h.toAccount.add document
  | @filled document said round _ hfull hflush =>
    have hwhole : (l.buffer ++ [document]).length ≤ capacity := by
      rw [List.length_append]
      exact h.room
    exact ⟨((h.toAccount.add document).record said).flush hflush (by simp [Load.record]) hwhole,
      hempty hflush.buffer⟩
  | idle hnone => simpa [Request.added] using h
  | @flushed round _ hsome hflush =>
    rw [Request.added, List.append_nil]
    exact ⟨h.toAccount.flush hflush hsome (Nat.le_of_lt h.room), hempty hflush.buffer⟩

/-- Calls in a row keep the law. -/
theorem runs {x : σ} {calls : List (Call σ)} (hcapacity : 1 ≤ capacity)
    (h : Runs s p capacity x calls rounds l) :
    Law capacity (calls.flatMap (·.request.added)) rounds l := by
  induction h with
  | begin => exact .begin hcapacity x
  | @call calls rounds l l' c r round? hbefore hserves ih =>
    have hentered : Law capacity (calls.flatMap (·.request.added)) rounds (c.enter l) :=
      ⟨ih.toAccount.enter c, ih.room⟩
    simpa using hentered.serves hserves

end Law

theorem held_succ (rounds : List Round) (i : Nat) :
    held rounds (i + 1) = held rounds i + (rounds[i]?.toList.flatMap (·.batch)).length := by
  rw [held, held, List.take_add_one, List.flatMap_append, List.length_append]

theorem held_mono (rounds : List Round) : Monotone (held rounds) := by
  refine monotone_nat_of_le_succ fun i => ?_
  rw [held_succ]
  exact Nat.le_add_right _ _

/-- A batch is what was added from where the batches before it end. -/
theorem Account.slice (h : Account capacity added rounds l) {i : Nat}
    (hi : rounds[i]? = some round) :
    round.batch = (added.drop (held rounds i)).take round.batch.length := by
  obtain ⟨hlt, rfl⟩ := List.getElem?_eq_some_iff.mp hi
  have hsplit : rounds = rounds.take i ++ rounds[i] :: rounds.drop (i + 1) := by
    rw [← List.drop_eq_getElem_cons hlt, List.take_append_drop]
  have hbatches : rounds.flatMap (·.batch) = (rounds.take i).flatMap (·.batch) ++
      (rounds[i].batch ++ (rounds.drop (i + 1)).flatMap (·.batch)) := by
    rw [← List.flatMap_cons, ← List.flatMap_append, ← hsplit]
  rw [h.documents, hbatches, held, List.append_assoc, List.drop_left, List.append_assoc,
    List.take_left]

/-- After every call, whether or not it has raised a fault, the documents that were added are those
of the batches that were taken out and then those that wait, which do not fill a batch. Every
attempt was at one whole batch. The documents of a batch were added before those of later ones, and
the batches that are counted are those whose write had an outcome. -/
theorem calls_keep_law (hcapacity : 1 ≤ capacity) (s : Surroundings σ) (p : Retry.Policy) (x : σ)
    (calls : List (Call σ)) :
    ∃ rounds, Runs s p capacity x calls rounds (after s p capacity (Load.begin x []) calls) ∧
      Law capacity (calls.flatMap (·.request.added)) rounds
        (after s p capacity (Load.begin x []) calls) ∧
      ∀ i round, rounds[i]? = some round →
        round.batch = ((calls.flatMap (·.request.added)).drop (held rounds i)).take
          round.batch.length ∧
        ∀ j, i < j → held rounds i + round.batch.length ≤ held rounds j := by
  obtain ⟨rounds, hruns⟩ := runs_after x calls
  have hlaw := Law.runs hcapacity hruns
  refine ⟨rounds, hruns, hlaw, fun i round hi => ⟨hlaw.slice hi, fun j hij => ?_⟩⟩
  have hnext : held rounds (i + 1) = held rounds i + round.batch.length := by
    rw [held_succ, hi]
    simp
  rw [← hnext]
  exact held_mono rounds hij

section

open Rehearsal

/-- A store that breaks down in its first write and is busy in the second one. -/
def breakingStore : ScriptedStore :=
  { willingStore with script :=
      [⟨false, .error (.ofForeign .overflow "too large")⟩,
        ⟨false, .error (.stated .storeWrite "Busy." [])⟩] }

/-- The first batch is lost to a fault, the second one is written in its second attempt, and the
third one is not attempted at all, since the load is cancelled. -/
def unsteadyCalls : List (Call ScriptedStore) :=
  [⟨id, .add (.int 1)⟩, ⟨id, .add (.int 2)⟩, ⟨id, .add (.int 3)⟩, ⟨id, .flush⟩,
    ⟨id, .add (.int 4)⟩, ⟨ScriptedStore.cancel, .flush⟩, ⟨id, .add (.int 5)⟩]

def unsteadyEnd : Load ScriptedStore :=
  after (ScriptedStore.surroundings false) ⟨1, LoadConfig.defaultRetryDelay⟩ 2
    (Load.begin breakingStore []) unsteadyCalls

theorem calls_keep_law_unsteady :
    1 ≤ 2 ∧ (∃ rounds, Law 2 [.int 1, .int 2, .int 3, .int 4, .int 5] rounds unsteadyEnd) ∧
    unsteadyEnd.buffer = [.int 5] ∧
    unsteadyEnd.attempts = [.insertMany [.int 1, .int 2], .insertMany [.int 3],
      .insertMany [.int 3]] ∧
    unsteadyEnd.batchesWritten = 1 ∧ unsteadyEnd.documentsInserted = 1 := by
  have hcapacity : 1 ≤ 2 := by decide
  obtain ⟨rounds, -, hlaw, -⟩ := calls_keep_law hcapacity (ScriptedStore.surroundings false)
    ⟨1, LoadConfig.defaultRetryDelay⟩ breakingStore unsteadyCalls
  exact ⟨hcapacity, ⟨rounds, hlaw⟩, rfl, rfl, rfl, rfl⟩

end

end RowIngest.Batch
