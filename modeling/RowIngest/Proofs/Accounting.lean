import RowIngest.Proofs.Ledger
import RowIngest.Proofs.Stepping
/-!
The accounts of a load. As long as no step fails its books are right after every step: what is
due is nothing, unless a write was given up because the wish to cancel was noticed before its
first attempt, and then the load stops at its next step. When a step fails, the store has
accepted a first part of what the rows stand for.
-/
namespace RowIngest

open RowIngest.Action

variable {σ : Type} {s : Surroundings σ} {p : Loader σ} {l l' l₁ l₂ : Load σ}

def Load.ledger (l : Load σ) : Ledger where
  rowsRead := l.rowsRead
  rowsSkipped := l.rowsSkipped
  rowsProcessed := l.rowsProcessed
  buffer := l.buffer
  accepted := l.accepted
  documentsInserted := l.documentsInserted
  batchesWritten := l.batchesWritten
  upsertsWritten := l.upsertsWritten

theorem Load.Passes.ledger_eq {es : List Event} (h : l.Passes s es l')
    (hes : es.filterMap (·.accepted?) = []) : l'.ledger = l.ledger := by
  have haccepted : l'.accepted = l.accepted := by simpa [hes] using h.accepted_eq
  obtain ⟨x, a, -, -⟩ := h
  exact congrArg (fun w => { l.ledger with accepted := w }) haccepted

/-- A passage without an attempt at a write. -/
theorem Load.Passes.idle {es : List Event} (h : l.Passes s es l')
    (hes : ∀ e ∈ es, e.attempted? = none) :
    l'.ledger = l.ledger ∧ l'.attempts = l.attempts := by
  have hattempted : es.filterMap (·.attempted?) = [] := by simpa using hes
  have haccepted : es.filterMap (·.accepted?) = [] := by
    simpa using fun e he => Event.accepted?_of_attempted? (hes e he)
  exact ⟨h.ledger_eq haccepted, by simpa [hattempted] using h.attempts_eq⟩

namespace Issues

variable {policy : Retry.Policy} {w : Write}

/-- A write that is issued without a fault is accepted, or the wish to cancel is noticed before
its first attempt. -/
theorem ledger_of_ok (h : Issues s policy l w (.ok ()) l') :
    l'.ledger = l.ledger.accept w ∨
      l'.ledger = l.ledger ∧ l'.attempts = l.attempts ∧
        s.Notices l.surroundings l'.surroundings := by
  cases h with
  | accepted hseries hpass =>
    left
    have haccepted : l'.accepted = l.accepted ++ [w] := by
      rw [hpass.accepted_eq, hseries.accepted_eq]
      cases w <;> rfl
    obtain ⟨x, a, -, -⟩ := hpass
    cases w <;>
      exact congrArg (fun ws => { Load.ledger (l.credit _) with accepted := ws }) haccepted
  | withheld hheeds hpass =>
    exact Or.inr ⟨hpass.ledger_eq rfl, by simpa using hpass.attempts_eq, hheeds.notices⟩

theorem ledger_of_error {f : Fault} (h : Issues s policy l w (.error f) l') :
    l'.ledger = l.ledger := by
  cases h with
  | failed hseries hpass => exact hpass.ledger_eq hseries.accepted_eq

end Issues

/-- The most that can be due: one batch, or one change. -/
def LoadConfig.limit (c : LoadConfig) : Nat := if c.upsert then 1 else c.batchSize

/-- A load goes on from one state to another without an attempt at the write that is due in
between. -/
structure Forgoes (s : Surroundings σ) (l l' : Load σ) : Prop where
  attempts : l'.attempts = l.attempts
  notices : s.Notices l.surroundings l'.surroundings

namespace Handles

variable {row : Value} {done : List Value}

/-- The books after a row: they are right, with nothing due unless a write was forgone. -/
theorem books_of_ok (h : Handles p row { l with rowsRead := l.rowsRead + 1 } (.ok ()) l')
    (hbooks : Books p.config p.surroundings.room done [] l.ledger)
    (heven : l.ledger.Even p.config) :
    ∃ due, Books p.config p.surroundings.room (done ++ [row]) due l'.ledger.process ∧
      (due = [] ∧ l'.ledger.Even p.config ∨
        due.length ≤ p.config.limit ∧ Forgoes p.surroundings l l') := by
  cases h with
  | skipped hrow hpass =>
    rw [hpass.ledger_eq rfl]
    exact ⟨[], hbooks.skip hrow, Or.inl ⟨rfl, heven.full, heven.room⟩⟩
  | @kept d _ hrow hroom hpass =>
    have hinsert := LoadConfig.upsert_of_document hrow
    rw [hpass.ledger_eq rfl]
    refine ⟨[], hbooks.keep hinsert hrow, Or.inl ⟨rfl, heven.full, ?_⟩⟩
    simpa [Load.ledger] using hroom
  | @batched d _ _ hrow hfull hissues =>
    have hinsert := LoadConfig.upsert_of_document hrow
    have hdue := (hbooks.keep hinsert hrow).withdraw
    have hroom : l.buffer.length < p.config.batchSize := heven.room
    have hsize : (l.buffer ++ [d]).length = p.config.batchSize := by
      rw [List.length_append, List.length_singleton]
      change p.config.batchSize ≤ l.buffer.length + 1 at hfull
      omega
    rcases hissues.ledger_of_ok with hledger | ⟨hledger, hattempts, hnotices⟩
    · rw [hledger, Ledger.process_accept]
      have hsome : l.buffer ++ [d] ≠ [] := by simp
      refine ⟨[], hdue.acceptBatch heven.full hinsert hsome (Nat.le_of_eq hsize),
        Or.inl ⟨rfl, ?_⟩⟩
      refine Ledger.Even.accept heven.full ?_ (Nat.zero_lt_of_lt hroom)
      rintro documents ⟨rfl⟩
      exact hsize
    · rw [hledger]
      refine ⟨_, hdue, Or.inr ⟨?_, hattempts, hnotices⟩⟩
      rw [List.length_map, LoadConfig.limit, hinsert]
      exact Nat.le_of_eq hsize
  | @changed query document w _ _ hrow hw hissues =>
    have hupsert := LoadConfig.upsert_of_change hrow
    have hdue := hbooks.charge hupsert hrow
    rcases hissues.ledger_of_ok with hledger | ⟨hledger, hattempts, hnotices⟩
    · rw [hledger, Ledger.process_accept]
      refine ⟨[], hdue.acceptChange hupsert hw, Or.inl ⟨rfl, ?_⟩⟩
      refine Ledger.Even.accept heven.full ?_ heven.room
      rintro documents rfl
      cases Upsert.isInsert_of_choose hw
    · rw [hledger]
      refine ⟨_, hdue, Or.inr ⟨?_, hattempts, hnotices⟩⟩
      simp [LoadConfig.limit, hupsert]

/-- A row that fails leaves what was accepted as it was. -/
theorem accepted_of_error {f : Fault} (h : Handles p row l (.error f) l') :
    l'.accepted = l.accepted := by
  cases h with
  | refused hrow hpass => simpa using hpass.accepted_eq
  | batched hrow hfull hissues => exact (congrArg Ledger.accepted hissues.ledger_of_error :)
  | changed hrow hw hissues => exact (congrArg Ledger.accepted hissues.ledger_of_error :)
  | unfit hrow hw hpass => simpa using hpass.accepted_eq

end Handles

/-- What the taking of a row leaves as it was. -/
theorem Pulls.spares {row : Option Value} (h : Pulls p l row l') :
    l'.ledger = l.ledger ∧ l'.attempts = l.attempts ∧ l'.phase = l.phase ∧
      l'.complete = l.complete := by
  cases h with
  | none hno hrows hpass =>
    obtain ⟨hledger, hattempts⟩ := hpass.idle (by simp [Event.attempted?])
    exact ⟨hledger, hattempts, hpass.phase_eq, hpass.complete_eq⟩
  | some hno hrows hrow hpass =>
    obtain ⟨hledger, hattempts⟩ := hpass.idle (by simp [Event.attempted?])
    exact ⟨hledger, hattempts, hpass.phase_eq, hpass.complete_eq⟩

theorem Pulls.unasked {row : Option Value} (h : Pulls p l row l') :
    (p.surroundings.cancelled l.surroundings).1 = false := by
  cases h with
  | none hno hrows hpass => exact hno
  | some hno hrows hrow hpass => exact hno

theorem Pulls.offered_nil (h : Pulls p l Option.none l') : offered l.rows = [] := by
  cases h with
  | none hno hrows hpass => exact hrows

theorem Pulls.offered_eq {row : Value} (h : Pulls p l (Option.some row) l') :
    offered l.rows = row :: offered l'.rows := by
  cases h with
  | some hno hrows hrow hpass =>
    have hrest := hpass.rows_eq
    rw [hrows, offered_cons hrow, hrest]

/-- Opening the collection is no matter of the books. -/
theorem Opens.spares {row : Value} {r : Except Fault Unit} (h : Opens p row l r l') :
    l'.ledger = l.ledger ∧ l'.attempts = l.attempts ∧ l'.rows = l.rows ∧
      l'.complete = l.complete := by
  have hdropping : ∀ e ∈ p.config.dropping, e.attempted? = none := by
    unfold LoadConfig.dropping
    split <;> simp [Event.attempted?]
  have hmade : ∀ r : Except Fault Unit,
      ∀ e ∈ p.config.dropping ++ [Event.commanded .ensureCollection r],
      e.attempted? = none := by
    intro r e he
    rcases List.mem_append.mp he with he | he
    · exact hdropping e he
    · rw [List.mem_singleton.mp he]
      rfl
  cases h with
  | already _ => exact ⟨rfl, rfl, rfl, rfl⟩
  | prepares _ hprepares =>
    cases hprepares with
    | refused _ hpass =>
      obtain ⟨hledger, hattempts⟩ := hpass.idle (by simp)
      exact ⟨hledger, hattempts, hpass.rows_eq, hpass.complete_eq⟩
    | undropped _ _ hpass =>
      obtain ⟨hledger, hattempts⟩ := hpass.idle (by simp [Event.attempted?])
      exact ⟨hledger, hattempts, hpass.rows_eq, hpass.complete_eq⟩
    | unensured _ hpass =>
      obtain ⟨hledger, hattempts⟩ := hpass.idle (hmade _)
      exact ⟨hledger, hattempts, hpass.rows_eq, hpass.complete_eq⟩
    | prepared _ hpass =>
      obtain ⟨hledger, hattempts⟩ := hpass.idle (hmade _)
      exact ⟨hledger, hattempts, hpass.rows_eq, hpass.complete_eq⟩

/-- To open a collection, or to fail to, does not end a load. -/
theorem Opens.phase_ne {row : Value} {r : Except Fault Unit} (h : Opens p row l r l')
    (hphase : l.phase ≠ .terminated) : l'.phase ≠ .terminated := by
  cases h with
  | already _ => exact hphase
  | prepares _ hprepares =>
    cases hprepares with
    | refused _ hpass => rwa [hpass.phase_eq]
    | undropped _ _ hpass => rwa [hpass.phase_eq]
    | unensured _ hpass => rwa [hpass.phase_eq]
    | prepared _ hpass =>
      rw [hpass.phase_eq]
      simp

variable {done : List Value}

theorem Drains.books_of_ok (h : Drains p l (.ok ()) l')
    (hbooks : Books p.config p.surroundings.room done [] l.ledger)
    (heven : l.ledger.Even p.config) :
    ∃ due, Books p.config p.surroundings.room done due l'.ledger ∧ l'.buffer = [] ∧
      (due = [] ∨ due.length ≤ p.config.limit ∧ Forgoes p.surroundings l l') := by
  cases h with
  | empty hbuffer => exact ⟨[], hbooks, hbuffer, Or.inl rfl⟩
  | flushed hbuffer hissues =>
    have hinsert : p.config.upsert = false := by
      cases hupsert : p.config.upsert with
      | false => rfl
      | true => exact absurd (hbooks.upserts hupsert).1 hbuffer
    have hroom : l.buffer.length < p.config.batchSize := heven.room
    have hdue := hbooks.withdraw
    rcases hissues.ledger_of_ok with hledger | ⟨hledger, hattempts, hnotices⟩
    · rw [hledger]
      refine ⟨[], hdue.acceptBatch heven.full hinsert hbuffer (Nat.le_of_lt hroom), ?_,
        Or.inl rfl⟩
      exact congrArg Ledger.buffer hledger
    · rw [hledger]
      refine ⟨_, hdue, congrArg Ledger.buffer hledger, Or.inr ⟨?_, hattempts, hnotices⟩⟩
      rw [List.length_map, LoadConfig.limit, hinsert]
      exact Nat.le_of_lt hroom

theorem Drains.accepted_of_error {f : Fault} (h : Drains p l (.error f) l') :
    l'.accepted = l.accepted := by
  cases h with
  | flushed hbuffer hissues => exact (congrArg Ledger.accepted hissues.ledger_of_error :)

/-- No write is attempted between the last one and the closing of the store. -/
theorem Indexing.Applies.not_attempted {truncated : Bool} {specs : List IndexChange}
    {es : List Event} {r r' : Except Fault Unit} (h : Applies truncated specs es r) :
    ∀ e ∈ es ++ [Event.commanded .close r'], e.attempted? = none := by
  intro e he
  rcases List.mem_append.mp he with he | he
  · exact Event.attempted?_of_isIndexing (h.isIndexing e he)
  · rw [List.mem_singleton.mp he]
    rfl

theorem Finishes.phase_of_ok (h : Finishes p l (.ok ()) l') : l'.phase = .terminated := by
  cases h with
  | closed hdrains happlies hpass => exact hpass.phase_eq

/-- The books at the end of the rows. -/
theorem Finishes.books_of_ok (h : Finishes p l (.ok ()) l')
    (hbooks : Books p.config p.surroundings.room done [] l.ledger)
    (heven : l.ledger.Even p.config) :
    ∃ due, Books p.config p.surroundings.room done due l'.ledger ∧ l'.buffer = [] ∧
      (due = [] ∨ due.length ≤ p.config.limit ∧ Forgoes p.surroundings l l') := by
  cases h with
  | @closed l₁ _ es _ hdrains happlies hpass =>
    obtain ⟨due, hbooks, hbuffer, hdue⟩ := hdrains.books_of_ok hbooks heven
    obtain ⟨hledger, hattempts⟩ := hpass.idle happlies.not_attempted
    have hsame : l'.ledger = l₁.ledger := hledger
    refine ⟨due, by rwa [hsame], ?_, ?_⟩
    · rw [← hbuffer]
      exact congrArg Ledger.buffer hsame
    · rcases hdue with rfl | ⟨hlimit, hforgoes⟩
      · exact Or.inl rfl
      · obtain ⟨z, hz, hyes, hrest⟩ := hforgoes.notices
        exact Or.inr ⟨hlimit, hattempts.trans hforgoes.attempts,
          ⟨z, hz, hyes, hrest.trans hpass.moved⟩⟩

/-- Also when the end fails the store has accepted a first part. -/
theorem Finishes.prefix_of_error {f : Fault} (h : Finishes p l (.error f) l')
    (hbooks : Books p.config p.surroundings.room done [] l.ledger) (heven : l.ledger.Even p.config)
    (rest : List Value) :
    l'.accepted.flatMap Write.deliveries <+:
      p.config.deliveries p.surroundings.room (done ++ rest) := by
  cases h with
  | undrained hdrains =>
    have haccepted : l'.accepted = l.accepted := hdrains.accepted_of_error
    rw [haccepted]
    exact hbooks.accepted_prefix rest
  | unindexed hdrains happlies hpass =>
    obtain ⟨due, hbooks, -, -⟩ := hdrains.books_of_ok hbooks heven
    obtain ⟨hledger, -⟩ := hpass.idle fun e he =>
      Event.attempted?_of_isIndexing (happlies.isIndexing e he)
    rw [← hledger] at hbooks
    exact hbooks.accepted_prefix rest
  | @closed l₁ _ es _ hdrains happlies hpass =>
    obtain ⟨due, hbooks, -, -⟩ := hdrains.books_of_ok hbooks heven
    obtain ⟨hledger, -⟩ := hpass.idle happlies.not_attempted
    have hsame : l'.ledger = l₁.ledger := hledger
    rw [← hsame] at hbooks
    exact hbooks.accepted_prefix rest

/-- The accounts of a load none of whose steps has failed: the rows that are done, and what is
still due for them. -/
inductive Account (p : Loader σ) (asked : σ → Prop) (rows : List Value) :
    List Value → List Delivery → Load σ → Prop
  | running {done : List Value} {due : List Delivery} {l : Load σ}
      (hphase : l.phase ≠ .terminated) (hcomplete : l.complete = false)
      (hrows : offered rows = done ++ offered l.rows)
      (hbooks : Books p.config p.surroundings.room done due l.ledger)
      (hdue : due = [] ∧ l.ledger.Even p.config ∨
        due.length ≤ p.config.limit ∧ asked l.surroundings) :
      Account p asked rows done due l
  | stopped {done : List Value} {due : List Delivery} {l : Load σ}
      (hphase : l.phase = .terminated) (hcomplete : l.complete = false)
      (hrows : done <+: offered rows)
      (hbooks : Books p.config p.surroundings.room done due l.ledger)
      (hdue : due.length ≤ p.config.limit) (hasked : asked l.surroundings) :
      Account p asked rows done due l
  | completed {due : List Delivery} {l : Load σ}
      (hphase : l.phase = .terminated) (hcomplete : l.complete = true) (hbuffer : l.buffer = [])
      (hbooks : Books p.config p.surroundings.room (offered rows) due l.ledger)
      (hdue : due = [] ∨ due.length ≤ p.config.limit ∧ asked l.surroundings) :
      Account p asked rows (offered rows) due l

/-- In a call the wish to cancel is not there when it is first looked for and has been uttered
when the call returns, and no write is attempted in between. -/
structure Withholds (p : Loader σ) (asked : σ → Prop) (l l' : Load σ) : Prop where
  before : (p.surroundings.cancelled l.surroundings).1 = false
  after : asked l'.surroundings
  attempts : l'.attempts = l.attempts

namespace Account

variable {asked : σ → Prop} {rows : List Value} {due : List Delivery}

theorem begin (hsize : 0 < p.config.batchSize) (x : σ) :
    Account p asked rows [] [] (Load.begin x rows) := by
  refine .running (by simp [Load.begin]) rfl rfl ?_ (Or.inl ⟨rfl, ?_, hsize⟩)
  · exact {
      mapped := .nil p.config p.surroundings.room
      account := rfl
      read := rfl
      processed := rfl
      skipped := rfl
      tallied := ⟨rfl, rfl, rfl⟩
      inserts := fun _ => ⟨[], rfl, .of_full hsize (by simp)⟩
      changes := fun _ w hw => by simp [Load.ledger, Load.begin, Load.accepted] at hw
      upserts := fun _ => ⟨rfl, rfl⟩ }
  · simp [Load.ledger, Load.begin, Load.accepted]

/-- The books of a load none of whose steps has failed, and the rows that are not done. -/
theorem books (h : Account p asked rows done due l) :
    Books p.config p.surroundings.room done due l.ledger ∧ done <+: offered rows := by
  cases h with
  | running _ _ hrows hbooks _ => exact ⟨hbooks, ⟨_, hrows.symm⟩⟩
  | stopped _ _ hrows hbooks _ _ => exact ⟨hbooks, hrows⟩
  | completed _ _ _ hbooks _ => exact ⟨hbooks, List.prefix_refl _⟩

theorem accepted_prefix (h : Account p asked rows done due l) :
    l.accepted.flatMap Write.deliveries <+:
      p.config.deliveries p.surroundings.room (offered rows) := by
  obtain ⟨hbooks, rest, hrest⟩ := h.books
  rw [← hrest]
  exact hbooks.accepted_prefix rest

theorem of_complete (h : Account p asked rows done due l) (hcomplete : l.complete = true) :
    l.buffer = [] ∧ done = offered rows := by
  cases h with
  | running _ hincomplete _ _ _ => simp [hincomplete] at hcomplete
  | stopped _ hincomplete _ _ _ _ => simp [hincomplete] at hcomplete
  | completed _ _ hbuffer _ _ => exact ⟨hbuffer, rfl⟩

/-- No more is due than one write delivers, and nothing unless the wish to cancel is there. -/
theorem due_cases (h : Account p asked rows done due l) :
    due = [] ∨ due.length ≤ p.config.limit ∧ asked l.surroundings := by
  cases h with
  | running _ _ _ _ hdue =>
    rcases hdue with ⟨rfl, -⟩ | hasked
    · exact Or.inl rfl
    · exact Or.inr hasked
  | stopped _ _ _ _ hlimit hasked => exact Or.inr ⟨hlimit, hasked⟩
  | completed _ _ _ _ hdue => exact hdue

/-- Nothing is due, and all is even, when a row is taken from the source: while something is
due the load would have stopped instead. -/
theorem even_of_pulls {row : Option Value} (hlatches : p.surroundings.Latches asked)
    (hdue : due = [] ∧ l.ledger.Even p.config ∨
      due.length ≤ p.config.limit ∧ asked l.surroundings)
    (hpulls : Pulls p l row l') : due = [] ∧ l.ledger.Even p.config := by
  rcases hdue with heven | ⟨-, hasked⟩
  · exact heven
  · have hyes := hlatches.tells hasked
    rw [hpulls.unasked] at hyes
    cases hyes

theorem advance_ended (hlatches : p.surroundings.Latches asked)
    (hrows : offered rows = done ++ offered l.rows)
    (hbooks : Books p.config p.surroundings.room done due l.ledger)
    (hdue : due = [] ∧ l.ledger.Even p.config ∨
      due.length ≤ p.config.limit ∧ asked l.surroundings)
    (hpulls : Pulls p l none l₁) (hfinishes : Finishes p l₁ (.ok ()) l₂)
    (hafter : { l₂ with complete := true }.Passes p.surroundings [.completed] l') :
    ∃ done' due', Account p asked rows done' due' l' ∧
      (due' = due ∨ Withholds p asked l l') := by
  obtain ⟨rfl, heven⟩ := even_of_pulls hlatches hdue hpulls
  obtain ⟨hledger, hattempts, -, -⟩ := hpulls.spares
  have hdone : offered rows = done := by rw [hrows, hpulls.offered_nil, List.append_nil]
  rw [← hledger] at hbooks heven
  obtain ⟨due', hbooks', hbuffer, hdue'⟩ := hfinishes.books_of_ok hbooks heven
  obtain ⟨hledger', hattempts'⟩ := hafter.idle (by simp [Event.attempted?])
  have hsame : l'.ledger = l₂.ledger := hledger'
  rw [← hsame, ← hdone] at hbooks'
  have hbuffer' : l'.buffer = [] := (congrArg Ledger.buffer hsame).trans hbuffer
  have hphase' : l'.phase = .terminated :=
    hafter.phase_eq.trans hfinishes.phase_of_ok
  have hcomplete : l'.complete = true := hafter.complete_eq
  rcases hdue' with rfl | ⟨hlimit, hforgoes⟩
  · exact ⟨_, _, .completed hphase' hcomplete hbuffer' hbooks' (Or.inl rfl), Or.inl rfl⟩
  · have hasked : asked l'.surroundings :=
      hlatches.asked_of_reaches hafter.moved (hlatches.asked_of_notices hforgoes.notices)
    refine ⟨_, _, .completed hphase' hcomplete hbuffer' hbooks' (Or.inr ⟨hlimit, hasked⟩), ?_⟩
    exact Or.inr ⟨hpulls.unasked, hasked, hattempts'.trans (hforgoes.attempts.trans hattempts)⟩

theorem advance_taken {row : Value} {l₃ : Load σ} (hlatches : p.surroundings.Latches asked)
    (hphase : l.phase ≠ .terminated) (hcomplete : l.complete = false)
    (hrows : offered rows = done ++ offered l.rows)
    (hbooks : Books p.config p.surroundings.room done due l.ledger)
    (hdue : due = [] ∧ l.ledger.Even p.config ∨
      due.length ≤ p.config.limit ∧ asked l.surroundings)
    (hpulls : Pulls p l (some row) l₁) (hopens : Opens p row l₁ (.ok ()) l₂)
    (hhandles : Handles p row { l₂ with rowsRead := l₂.rowsRead + 1 } (.ok ()) l₃)
    (hafter : { l₃ with rowsProcessed := l₃.rowsProcessed + 1 }.Passes p.surroundings
      [.processed] l') :
    ∃ done' due', Account p asked rows done' due' l' ∧
      (due' = due ∨ Withholds p asked l l') := by
  obtain ⟨rfl, heven⟩ := even_of_pulls hlatches hdue hpulls
  obtain ⟨hledger₁, hattempts₁, hphase₁, hcomplete₁⟩ := hpulls.spares
  obtain ⟨hledger₂, hattempts₂, hrows₂, hcomplete₂⟩ := hopens.spares
  rw [← hledger₁, ← hledger₂] at hbooks heven
  obtain ⟨due', hbooks', hdue'⟩ := hhandles.books_of_ok hbooks heven
  obtain ⟨hledger', hattempts'⟩ := hafter.idle (by simp [Event.attempted?])
  have hsame : l'.ledger = l₃.ledger.process := hledger'
  rw [← hsame] at hbooks'
  have hphase' : l'.phase ≠ .terminated := by
    rw [hafter.phase_eq]
    change l₃.phase ≠ .terminated
    rw [hhandles.frame Load.inert_phase]
    change l₂.phase ≠ .terminated
    exact hopens.phase_ne (by rwa [hphase₁])
  have hcomplete' : l'.complete = false := by
    rw [hafter.complete_eq]
    change l₃.complete = false
    rw [hhandles.frame Load.inert_complete, hcomplete₂, hcomplete₁, hcomplete]
  have hrows' : offered rows = done ++ [row] ++ offered l'.rows := by
    rw [hafter.rows_eq]
    change offered rows = done ++ [row] ++ offered l₃.rows
    rw [hhandles.frame Load.inert_rows, hrows₂, hrows, hpulls.offered_eq]
    simp
  rcases hdue' with ⟨rfl, heven'⟩ | ⟨hlimit, hforgoes⟩
  · have heven'' : l'.ledger.Even p.config := by
      rw [hsame]
      exact ⟨heven'.full, heven'.room⟩
    exact ⟨_, _, .running hphase' hcomplete' hrows' hbooks' (Or.inl ⟨rfl, heven''⟩), Or.inl rfl⟩
  · have hasked : asked l'.surroundings :=
      hlatches.asked_of_reaches hafter.moved (hlatches.asked_of_notices hforgoes.notices)
    refine ⟨_, _, .running hphase' hcomplete' hrows' hbooks' (Or.inr ⟨hlimit, hasked⟩), ?_⟩
    refine Or.inr ⟨hpulls.unasked, hasked, ?_⟩
    exact hattempts'.trans (hforgoes.attempts.trans (hattempts₂.trans hattempts₁))

/-- What a call does to the accounts that returns. -/
theorem advance {more : Bool} (hlatches : p.surroundings.Latches asked)
    (h : Account p asked rows done due l) (hadvances : Advances p l (.ok more) l') :
    ∃ done' due', Account p asked rows done' due' l' ∧
      (due' = due ∨ Withholds p asked l l') := by
  cases hadvances with
  | idle hterminated => exact ⟨done, due, h, Or.inl rfl⟩
  | stepped hphase hsteps =>
    cases h with
    | stopped hterminated _ _ _ _ _ => exact absurd hterminated hphase
    | completed hterminated _ _ _ _ => exact absurd hterminated hphase
    | running _ hcomplete hrows hbooks hdue =>
      cases hsteps with
      | ended hpulls hfinishes hafter =>
        exact advance_ended hlatches hrows hbooks hdue hpulls hfinishes hafter
      | taken hpulls hopens hhandles hafter =>
        exact advance_taken hlatches hphase hcomplete hrows hbooks hdue hpulls hopens hhandles
          hafter
      | stopped hheeds hpass =>
        obtain ⟨hledger, -⟩ := hpass.idle (by simp [Event.attempted?])
        have hsame : l'.ledger = l.ledger := hledger
        rw [← hsame] at hbooks
        have hlimit : due.length ≤ p.config.limit := by
          rcases hdue with ⟨rfl, -⟩ | ⟨hlimit, -⟩
          · exact Nat.zero_le _
          · exact hlimit
        refine ⟨done, due, .stopped ?_ ?_ ⟨_, hrows.symm⟩ hbooks hlimit ?_, Or.inl rfl⟩
        · exact hpass.phase_eq
        · exact hpass.complete_eq.trans hcomplete
        · exact hlatches.asked_of_notices hheeds.notices

/-- A call that fails leaves the store with a first part of what the rows stand for. -/
theorem fail {f : Fault} (hlatches : p.surroundings.Latches asked)
    (h : Account p asked rows done due l) (hadvances : Advances p l (.error f) l') :
    l'.phase = .terminated ∧
      l'.accepted.flatMap Write.deliveries <+:
        p.config.deliveries p.surroundings.room (offered rows) := by
  cases hadvances with
  | @failed g _ r l₁ _ hphase hsteps hcloses hfault =>
    have hclosed : l'.phase = .terminated ∧ l'.accepted = l₁.accepted := by
      cases hcloses with
      | already hterminated => exact ⟨hterminated, rfl⟩
      | closed _ hpass =>
        obtain ⟨hledger, -⟩ := hpass.idle (by simp [Event.attempted?])
        exact ⟨hpass.phase_eq, congrArg Ledger.accepted hledger⟩
    refine ⟨hclosed.1, ?_⟩
    rw [hclosed.2]
    cases h with
    | stopped hterminated _ _ _ _ _ => exact absurd hterminated hphase
    | completed hterminated _ _ _ _ => exact absurd hterminated hphase
    | running _ hcomplete hrows hbooks hdue =>
      have hsame : l₁.accepted = l.accepted →
          l₁.accepted.flatMap Write.deliveries <+:
            p.config.deliveries p.surroundings.room (offered rows) := by
        intro haccepted
        rw [hrows, haccepted]
        exact hbooks.accepted_prefix _
      cases hsteps with
      | unstopped _ hpass =>
        obtain ⟨hledger, -⟩ := hpass.idle (by simp [Event.attempted?])
        exact hsame (congrArg Ledger.accepted hledger)
      | @unended _ l₂ _ _ hpulls hfinishes hafter =>
        obtain ⟨rfl, heven⟩ := even_of_pulls hlatches hdue hpulls
        obtain ⟨hledger, -⟩ := hpulls.spares
        rw [← hledger] at hbooks heven
        have haccepted : l₁.accepted = l₂.accepted := by simpa using hafter.accepted_eq
        rw [haccepted, hrows]
        exact hfinishes.prefix_of_error hbooks heven _
      | unopened hpulls hopens hafter =>
        obtain ⟨hledger, -⟩ := hafter.idle (by simp)
        have hledgers := hledger.trans (hopens.spares.1.trans hpulls.spares.1)
        exact hsame (congrArg Ledger.accepted hledgers)
      | @unhandled _ _ l₂ l₃ _ _ hpulls hopens hhandles hafter =>
        have hsaid : l₁.accepted = l₃.accepted := by simpa using hafter.accepted_eq
        have haccepted : l₃.accepted = l₂.accepted := hhandles.accepted_of_error
        have hledgers := hopens.spares.1.trans hpulls.spares.1
        exact hsame (hsaid.trans (haccepted.trans (congrArg Ledger.accepted hledgers)))

end Account

end RowIngest
