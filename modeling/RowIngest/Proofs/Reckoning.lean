import RowIngest.Proofs.Configuration
import RowIngest.Proofs.Rehearsing
import RowIngest.Proofs.Running
/-!
What has been delivered when a load is over, or after any number of calls. Main statements: a
run that is not cancelled and ends well has delivered every row, in order and in full batches;
whatever happens, what the store has accepted is a first part of what the rows stand for; and
as long as no call fails, every row that was reported is accounted for.
-/
namespace RowIngest

open RowIngest.Action Rehearsal

variable {σ : Type} {p : Loader σ} {fs : Fields} {asked : σ → Prop}

namespace Account

variable {rows : List Value} {n : Nat} {x : σ}

/-- The accounts after any number of calls that all return. Something is due only if a write
was withheld in one of them. -/
theorem after (hsize : 0 < p.config.batchSize) (hlatches : p.surroundings.Latches asked)
    (hreturns : ∀ i < n, ∃ more, p.answer (Load.begin x rows) i = .ok more) :
    ∃ done due, Account p asked rows done due (p.after (Load.begin x rows) n) ∧
      (due = [] ∨ ∃ i < n, Withholds p asked (p.after (Load.begin x rows) i)
        (p.after (Load.begin x rows) (i + 1))) := by
  induction n with
  | zero => exact ⟨[], [], .begin hsize x, Or.inl rfl⟩
  | succ n ih =>
    obtain ⟨done, due, haccount, hdue⟩ := ih fun i hi => hreturns i (by omega)
    obtain ⟨more, hmore⟩ := hreturns n (by omega)
    have hadvances := p.after_advances (Load.begin x rows) n
    rw [hmore] at hadvances
    obtain ⟨done', due', haccount', hkept | hwithholds⟩ := haccount.advance hlatches hadvances
    · refine ⟨done', due', haccount', ?_⟩
      rw [hkept]
      rcases hdue with hnone | ⟨i, hi, hwithholds⟩
      · exact Or.inl hnone
      · exact Or.inr ⟨i, by omega, hwithholds⟩
    · exact ⟨done', due', haccount', Or.inr ⟨n, by omega, hwithholds⟩⟩

/-- What the store has accepted after any number of calls, whether they return or fail. -/
theorem prefix_after (hsize : 0 < p.config.batchSize) (hlatches : p.surroundings.Latches asked)
    (n : Nat) :
    (p.after (Load.begin x rows) n).accepted.flatMap Write.deliveries <+:
      p.config.deliveries p.surroundings.room (offered rows) := by
  -- Either no call has failed so far, or the load has ended.
  suffices h : (∃ done due, Account p asked rows done due (p.after (Load.begin x rows) n)) ∨
      (p.after (Load.begin x rows) n).phase = .terminated ∧
        (p.after (Load.begin x rows) n).accepted.flatMap Write.deliveries <+:
          p.config.deliveries p.surroundings.room (offered rows) by
    rcases h with ⟨done, due, haccount⟩ | ⟨-, hprefix⟩
    · exact haccount.accepted_prefix
    · exact hprefix
  induction n with
  | zero => exact Or.inl ⟨[], [], .begin hsize x⟩
  | succ n ih =>
    have hadvances := p.after_advances (Load.begin x rows) n
    rcases ih with ⟨done, due, haccount⟩ | ⟨hphase, hprefix⟩
    · rcases hanswer : p.answer (Load.begin x rows) n with f | more <;> rw [hanswer] at hadvances
      · exact Or.inr (haccount.fail hlatches hadvances)
      · obtain ⟨done', due', haccount', -⟩ := haccount.advance hlatches hadvances
        exact Or.inl ⟨done', due', haccount'⟩
    · have hsame := (Loader.eq_of_terminated hphase hadvances).2
      rw [hsame]
      exact Or.inr ⟨hphase, hprefix⟩

end Account

/-- What a run has delivered that was not cancelled and ended well. -/
structure Delivered (c : LoadConfig) (room : Room) (rows : List Value) (stats : Stats)
    (l : Load σ) : Prop where
  stats_eq : stats = l.stats
  complete : l.complete = true
  mapped : c.MapsAll room rows
  read : stats.rowsRead = rows.length
  processed : l.rowsProcessed = rows.length
  counted : stats.rowsRead = stats.rowsSkipped + stats.documentsInserted + stats.upsertsWritten
  skipped : stats.rowsSkipped = rows.countP (c.skips room)
  inserted : c.upsert = false → ∃ batches : List (List Value),
    l.accepted = batches.map .insertMany ∧
      batches.flatten.map .document = c.deliveries room rows ∧ Portioned c.batchSize batches ∧
      stats.documentsInserted = batches.flatten.length ∧ stats.upsertsWritten = 0 ∧
      stats.batchesWritten = batches.length ∧
      stats.batchesWritten = (stats.documentsInserted + c.batchSize - 1) / c.batchSize
  upserted : c.upsert = true →
    l.accepted.map .ok = (c.deliveries room rows).map (·.write c.multi) ∧
      stats.upsertsWritten = l.accepted.length ∧ stats.documentsInserted = 0 ∧
      stats.batchesWritten = 0

/-- Every row that was reported is skipped, delivered, waiting, or one of a write that was
withheld. -/
structure Accounted (c : LoadConfig) (room : Room) (rows : List Value) (withheld : List Delivery)
    (l : Load σ) : Prop where
  account : l.accepted.flatMap Write.deliveries ++ (withheld ++ l.buffer.map .document) =
    c.deliveries room (rows.take l.rowsProcessed)
  counted : l.rowsProcessed = l.rowsSkipped + l.documentsInserted + l.upsertsWritten +
    l.buffer.length + withheld.length
  limited : withheld.length ≤ c.limit
  complete : l.complete = true →
    l.buffer = [] ∧ l.rowsRead = rows.length ∧ l.rowsRead = l.rowsProcessed

/-- The books of a load that is complete, with nothing due and nothing waiting. -/
theorem Books.delivered {c : LoadConfig} {room : Room} {rows : List Value} {l : Load σ}
    (h : Books c room rows [] l.ledger) (hsize : 0 < c.batchSize) (hcomplete : l.complete = true)
    (hbuffer : l.buffer = []) : Delivered c room rows l.stats l := by
  have haccount : l.accepted.flatMap Write.deliveries = c.deliveries room rows := by
    simpa [Load.ledger, hbuffer] using h.account
  have hprocessed : l.rowsProcessed =
      l.rowsSkipped + l.documentsInserted + l.upsertsWritten := by
    simpa [Load.ledger, hbuffer] using h.rowsProcessed_eq
  have hread : l.rowsRead = rows.length := h.read
  have hreported : l.rowsProcessed = rows.length := h.processed
  have hbatches : l.batchesWritten = l.accepted.countP (·.isInsert) := h.tallied.batches
  have hupserts : l.upsertsWritten = l.accepted.countP (!·.isInsert) := h.tallied.upserts
  have hwritten : l.documentsInserted + l.upsertsWritten = (c.deliveries room rows).length := by
    rw [← haccount]
    exact h.tallied.written
  refine ⟨rfl, hcomplete, h.mapped, hread, hreported, ?_, h.skipped, ?_, ?_⟩
  · exact hread.trans (hreported.symm.trans hprocessed)
  · intro hinsert
    obtain ⟨batches, haccepted, hportions⟩ := h.inserts hinsert
    replace haccepted : l.accepted = batches.map .insertMany := haccepted
    have hdelivered : batches.flatten.map .document = c.deliveries room rows := by
      rw [← haccount, haccepted, List.flatMap_map, List.map_flatten]
      rfl
    have hnone : l.upsertsWritten = 0 := by
      simp [hupserts, haccepted, List.countP_map, Write.isInsert]
    have hnumber : l.batchesWritten = batches.length := by
      simp [hbatches, haccepted, List.countP_map, Write.isInsert]
    have hinserted : l.documentsInserted = batches.flatten.length := by
      rw [← hdelivered, List.length_map] at hwritten
      omega
    refine ⟨batches, haccepted, hdelivered, hportions, hinserted, hnone, hnumber, ?_⟩
    change l.batchesWritten = (l.documentsInserted + c.batchSize - 1) / c.batchSize
    rw [hnumber, hinserted]
    exact hportions.length_eq hsize
  · intro hupsert
    have hchosen : l.accepted.map .ok = (c.deliveries room rows).map (·.write c.multi) := by
      simpa [Load.ledger] using (h.upserts hupsert).2
    have hchanges : ∀ w ∈ l.accepted, w.isInsert = false := h.changes hupsert
    have hall : l.upsertsWritten = l.accepted.length := by
      rw [hupserts, List.countP_eq_length]
      intro w hw
      simp [hchanges w hw]
    have hnone : l.batchesWritten = 0 := by
      rw [hbatches, List.countP_eq_zero]
      intro w hw
      simp [hchanges w hw]
    have hlength : l.accepted.length = (c.deliveries room rows).length := by
      simpa using congrArg List.length hchosen
    refine ⟨hchosen, hall, ?_, hnone⟩
    change l.documentsInserted = 0
    omega

namespace Rehearsal

/-- A store that accepts a write and breaks down at the next one. -/
def waveringStore : ScriptedStore :=
  { willingStore with script :=
      [ScriptedStore.defaultCue, ⟨false, .error (.foreign ⟨.runtime, "no primary"⟩)⟩] }

def waveringRows : List Value := [numberedRow 1, numberedRow 2, numberedRow 3, numberedRow 4,
  numberedRow 5]

end Rehearsal

namespace Loader

/-- A run that is not cancelled and ends well has delivered every row. -/
theorem run_delivers (hconfig : LoadConfig.ofFields fs = .ok p.config)
    (hlatches : p.surroundings.Latches asked) {x : σ} {rows : List Value} {stats : Stats}
    {l : Load σ} (hrun : exec (run p) (Load.begin x rows) = (.ok stats, l))
    (hunasked : ¬ asked l.surroundings) :
    Delivered p.config p.surroundings.room (offered rows) stats l := by
  have hsize := LoadConfig.batchSize_pos hconfig
  obtain ⟨n, htrue, hlast, hends⟩ := run_eq p (Load.begin x rows)
  rw [hrun, Prod.mk.injEq] at hends
  obtain ⟨hstats, rfl⟩ := hends
  have hadvances := p.after_advances (Load.begin x rows) n
  have hphase := terminated_of_ne_true hadvances hlast
  rcases hanswer : p.answer (Load.begin x rows) n with f | more <;> rw [hanswer] at hstats
  · cases hstats
  have hreturns : ∀ i < n + 1, ∃ more, p.answer (Load.begin x rows) i = .ok more := by
    intro i hi
    rcases Nat.lt_succ_iff_lt_or_eq.mp hi with hlt | rfl
    · exact ⟨true, htrue i hlt⟩
    · exact ⟨more, hanswer⟩
  obtain ⟨done, due, haccount, -⟩ := Account.after hsize hlatches hreturns
  have hdue : due = [] := by
    rcases haccount.due_cases with hnone | ⟨-, hasked⟩
    · exact hnone
    · exact absurd hasked hunasked
  cases hstats
  cases haccount with
  | running hrunning _ _ _ _ => exact absurd hphase hrunning
  | stopped _ _ _ _ _ hasked => exact absurd hasked hunasked
  | completed _ hcomplete hbuffer hbooks _ =>
    rw [hdue] at hbooks
    exact hbooks.delivered hsize hcomplete hbuffer

/-- Three rows in batches of two. -/
theorem run_delivers_three_rows :
    Delivered (batchConfig 2) .ample (offered [numberedRow 1, numberedRow 2, numberedRow 3])
      ⟨3, 0, 3, 2, 0⟩ (exec (run (batchLoader 2))
        (Load.begin willingStore [numberedRow 1, numberedRow 2, numberedRow 3])).2 := by
  have hconfig : LoadConfig.ofFields (batchSettings 2) = .ok (batchLoader 2).config := rfl
  have hunasked : ¬ ScriptedStore.Cancelled (exec (run (batchLoader 2)) (Load.begin willingStore
      [numberedRow 1, numberedRow 2, numberedRow 3])).2.surroundings := by
    unfold ScriptedStore.Cancelled
    decide +kernel
  have hresult : (exec (run (batchLoader 2)) (Load.begin willingStore
      [numberedRow 1, numberedRow 2, numberedRow 3])).1 = .ok ⟨3, 0, 3, 2, 0⟩ :=
    eq_ok_of_toOption (by decide +kernel)
  refine run_delivers (x := willingStore) hconfig (ScriptedStore.surroundings_latches false) ?_
    hunasked
  rw [← hresult]

/-- What the store has accepted is a first part of what the rows stand for, after a run and
after any number of calls. -/
theorem run_accepted_prefix (hconfig : LoadConfig.ofFields fs = .ok p.config)
    (hlatches : p.surroundings.Latches asked) (x : σ) (rows : List Value) :
    (exec (run p) (Load.begin x rows)).2.accepted.flatMap Write.deliveries <+:
        p.config.deliveries p.surroundings.room (offered rows) ∧
      ∀ n, (p.after (Load.begin x rows) n).accepted.flatMap Write.deliveries <+:
        p.config.deliveries p.surroundings.room (offered rows) := by
  have hafter : ∀ n, (p.after (Load.begin x rows) n).accepted.flatMap Write.deliveries <+:
      p.config.deliveries p.surroundings.room (offered rows) :=
    Account.prefix_after (LoadConfig.batchSize_pos hconfig) hlatches
  obtain ⟨n, -, -, hrun⟩ := run_eq p (Load.begin x rows)
  rw [hrun]
  exact ⟨hafter (n + 1), hafter⟩

/-- A load whose fourth call fails, with its second batch. The documents in it are lost, and the
row that comes after them is not written. -/
theorem run_accepted_prefix_interrupted :
    (batchConfig 2).deliveries .ample (offered waveringRows) = waveringRows.map .document ∧
    ((batchLoader 2).after (Load.begin waveringStore waveringRows) 4).attempts =
      [.insertMany [numberedRow 1, numberedRow 2], .insertMany [numberedRow 3, numberedRow 4]] ∧
    ((batchLoader 2).after (Load.begin waveringStore waveringRows) 4).accepted =
      [.insertMany [numberedRow 1, numberedRow 2]] ∧
    [numberedRow 1, numberedRow 2].map Delivery.document <+:
      (batchConfig 2).deliveries .ample (offered waveringRows) := by
  have hconfig : LoadConfig.ofFields (batchSettings 2) = .ok (batchLoader 2).config := rfl
  have hlatches := ScriptedStore.surroundings_latches false
  have haccepted : ((batchLoader 2).after (Load.begin waveringStore waveringRows) 4).accepted =
      [.insertMany [numberedRow 1, numberedRow 2]] := by
    with_unfolding_all rfl
  obtain ⟨-, hprefix⟩ := run_accepted_prefix hconfig hlatches waveringStore waveringRows
  replace hprefix := hprefix 4
  rw [haccepted] at hprefix
  refine ⟨?_, ?_, haccepted, hprefix⟩
  · with_unfolding_all rfl
  · with_unfolding_all rfl

/-- As long as no call fails, every row that was reported is accounted for. Something is withheld
only if in one of the calls the wish to cancel came up after the call had looked for it, and
before any write was attempted. -/
theorem rows_accounted (hconfig : LoadConfig.ofFields fs = .ok p.config)
    (hlatches : p.surroundings.Latches asked) {x : σ} {rows : List Value} {n : Nat}
    (hreturns : ∀ i < n, ∃ more, p.answer (Load.begin x rows) i = .ok more) :
    ∃ withheld, Accounted p.config p.surroundings.room (offered rows) withheld
        (p.after (Load.begin x rows) n) ∧
      (withheld ≠ [] → ∃ i < n, Withholds p asked (p.after (Load.begin x rows) i)
        (p.after (Load.begin x rows) (i + 1))) := by
  obtain ⟨done, due, haccount, hdue⟩ :=
    Account.after (LoadConfig.batchSize_pos hconfig) hlatches hreturns
  obtain ⟨hbooks, hprefix⟩ := haccount.books
  have hprocessed : (p.after (Load.begin x rows) n).rowsProcessed = done.length :=
    hbooks.processed
  refine ⟨due, ⟨?_, hbooks.rowsProcessed_eq, ?_, ?_⟩, ?_⟩
  · rw [hprocessed, ← List.prefix_iff_eq_take.mp hprefix]
    exact hbooks.account
  · rcases haccount.due_cases with rfl | ⟨hlimit, -⟩
    · exact Nat.zero_le _
    · exact hlimit
  · intro hcomplete
    obtain ⟨hbuffer, hdone⟩ := haccount.of_complete hcomplete
    rw [← hdone]
    exact ⟨hbuffer, hbooks.read, hbooks.read.trans hprocessed.symm⟩
  · intro hsome
    rcases hdue with hnone | hwithholds
    · exact absurd hnone hsome
    · exact hwithholds

/-- The call that takes the only row returns, and nothing is written for the row. -/
theorem rows_accounted_interrupted :
    ∃ withheld, Accounted (batchConfig 1) .ample (offered [numberedRow 1]) withheld
        ((batchLoader 1).after (Load.begin interruptedStore [numberedRow 1]) 1) ∧
      (withheld ≠ [] → ∃ i < 1, Withholds (batchLoader 1) ScriptedStore.Cancelled
        ((batchLoader 1).after (Load.begin interruptedStore [numberedRow 1]) i)
        ((batchLoader 1).after (Load.begin interruptedStore [numberedRow 1]) (i + 1))) := by
  have hconfig : LoadConfig.ofFields (batchSettings 1) = .ok (batchLoader 1).config := rfl
  refine rows_accounted hconfig (ScriptedStore.surroundings_latches false) fun i hi => ?_
  obtain rfl : i = 0 := by omega
  exact ⟨true, eq_ok_of_toOption (by decide +kernel)⟩

/-- A row can be reported that is neither skipped nor written nor waiting: the load is cancelled
after the call has looked for the wish to cancel, and before its write is attempted. -/
theorem interrupted_row_lost :
    LoadConfig.ofFields (batchSettings 1) = .ok (batchLoader 1).config ∧
      (batchLoader 1).surroundings.Latches ScriptedStore.Cancelled ∧
      (batchLoader 1).answer (Load.begin interruptedStore [numberedRow 1]) 0 = .ok true ∧
      ((batchLoader 1).after (Load.begin interruptedStore [numberedRow 1]) 1).rowsProcessed ≠
        ((batchLoader 1).after (Load.begin interruptedStore [numberedRow 1]) 1).rowsSkipped +
        ((batchLoader 1).after (Load.begin interruptedStore
          [numberedRow 1]) 1).documentsInserted +
        ((batchLoader 1).after (Load.begin interruptedStore [numberedRow 1]) 1).upsertsWritten +
        ((batchLoader 1).after (Load.begin interruptedStore [numberedRow 1]) 1).buffer.length := by
  refine ⟨rfl, ScriptedStore.surroundings_latches false, ?_, ?_⟩
  · exact eq_ok_of_toOption (by decide +kernel)
  · decide +kernel

end Loader

end RowIngest
