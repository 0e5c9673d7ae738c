import RowIngest.Proofs.Provenance
/-!
How many rows a load has read and how many of them it has skipped. These counts are right in any
load, also in one that fails. Main statements: the rows that are read are the first ones of the
source, and the number of skipped ones is that of those that stand for nothing; a load whose
mapping does not pass its check reads no row and makes no write.
-/
namespace RowIngest

open RowIngest.Action

variable {σ : Type} {s : Surroundings σ} {p : Loader σ} {c : LoadConfig} {room : Room}
  {l l' l₁ : Load σ} {row : Value} {done : List Value}

/-- These rows have been read, and the skipped ones among them have been counted. -/
structure Counted (c : LoadConfig) (room : Room) (done : List Value) (l : Load σ) : Prop where
  read : l.rowsRead = done.length
  skipped : l.rowsSkipped = done.countP (c.skips room)

theorem Counted.begin (c : LoadConfig) (x : σ) (rows : List Value) :
    Counted c room [] (Load.begin x rows) := ⟨rfl, rfl⟩

theorem Counted.of_ledger (h : Counted c room done l) (hledger : l'.ledger = l.ledger) :
    Counted c room done l' where
  read := (congrArg Ledger.rowsRead hledger).trans h.read
  skipped := (congrArg Ledger.rowsSkipped hledger).trans h.skipped

/-- A passage counts no row, from a load that may have changed in other respects. -/
theorem Counted.passed {es : List Event} (h : Counted c room done l) (hpass : l₁.Passes s es l')
    (hread : l₁.rowsRead = l.rowsRead) (hskipped : l₁.rowsSkipped = l.rowsSkipped) :
    Counted c room done l' where
  read := (hpass.frame fun _ _ _ => rfl).trans (hread.trans h.read)
  skipped := (hpass.frame fun _ _ _ => rfl).trans (hskipped.trans h.skipped)

theorem Load.inert_rowsRead : Load.Inert (rowsRead : Load σ → Nat) :=
  ⟨fun _ _ _ => rfl, fun _ w => by cases w <;> rfl, fun _ _ => rfl, fun _ _ => rfl⟩

theorem Load.rowsSkipped_credit (l : Load σ) (w : Write) :
    (l.credit w).rowsSkipped = l.rowsSkipped := by
  cases w <;> rfl

theorem Issues.rowsSkipped_eq {policy : Retry.Policy} {w : Write} {r : Except Fault Unit}
    (h : Issues s policy l w r l') : l'.rowsSkipped = l.rowsSkipped :=
  h.frame (fun _ _ _ => rfl) fun l => l.rowsSkipped_credit w

/-- A row is counted as skipped exactly if it stands for nothing. -/
theorem Handles.rowsSkipped_eq {r : Except Fault Unit} (h : Handles p row l r l') :
    l'.rowsSkipped = l.rowsSkipped + [row].countP (p.config.skips p.surroundings.room) := by
  have hkept : ∀ {d : Delivery}, p.config.delivery p.surroundings.room row = .ok (some d) →
      [row].countP (p.config.skips p.surroundings.room) = 0 := by
    intro d hrow
    simp [LoadConfig.skips, hrow]
  cases h with
  | refused hrow hpass =>
    have hnone : [row].countP (p.config.skips p.surroundings.room) = 0 := by
      simp [LoadConfig.skips, hrow]
    rw [hnone]
    exact hpass.frame fun _ _ _ => rfl
  | skipped hrow hpass =>
    have hone : [row].countP (p.config.skips p.surroundings.room) = 1 := by
      simp [LoadConfig.skips, hrow]
    rw [hone]
    exact hpass.frame fun _ _ _ => rfl
  | kept hrow _ hpass =>
    rw [hkept hrow]
    exact hpass.frame fun _ _ _ => rfl
  | batched hrow _ hissues =>
    rw [hkept hrow]
    exact hissues.rowsSkipped_eq
  | changed hrow _ hissues =>
    rw [hkept hrow]
    exact hissues.rowsSkipped_eq
  | unfit hrow _ hpass =>
    rw [hkept hrow]
    exact hpass.frame fun _ _ _ => rfl

theorem Handles.counted {r : Except Fault Unit}
    (h : Handles p row { l with rowsRead := l.rowsRead + 1 } r l')
    (hl : Counted p.config p.surroundings.room done l) :
    Counted p.config p.surroundings.room (done ++ [row]) l' where
  read := by
    rw [h.frame Load.inert_rowsRead, List.length_append, ← hl.read]
    rfl
  skipped := by
    rw [h.rowsSkipped_eq, List.countP_append, ← hl.skipped]

theorem Drains.counted {r : Except Fault Unit} (h : Drains p l r l')
    (hl : Counted c room done l) : Counted c room done l' where
  read := (h.frame Load.inert_rowsRead).trans hl.read
  skipped := by
    rw [← hl.skipped]
    cases h with
    | empty _ => rfl
    | flushed _ hissues => exact hissues.rowsSkipped_eq

theorem Finishes.counted {r : Except Fault Unit} (h : Finishes p l r l')
    (hl : Counted c room done l) : Counted c room done l' := by
  have hdraining : Counted c room done { l with phase := .draining } := ⟨hl.read, hl.skipped⟩
  cases h with
  | undrained hdrains => exact hdrains.counted hdraining
  | unindexed hdrains _ hpass => exact (hdrains.counted hdraining).passed hpass rfl rfl
  | closed hdrains _ hpass => exact (hdrains.counted hdraining).passed hpass rfl rfl

theorem Closes.counted {r : Except Fault Unit} (h : Closes p l r l')
    (hl : Counted c room done l) : Counted c room done l' := by
  cases h with
  | already _ => exact hl
  | closed _ hpass => exact hl.passed hpass rfl rfl

/-- A step counts the row that it has taken and opened the collection for, and nothing else. -/
theorem Steps.counted {r : Except Fault Bool} (h : Steps p l r l')
    (hl : Counted p.config p.surroundings.room done l) :
    r ≠ .ok true ∧ Counted p.config p.surroundings.room done l' ∨
      ∃ row rest, offered l.rows = row :: rest ∧
        Counted p.config p.surroundings.room (done ++ [row]) l' ∧
        (r = .ok true → offered l'.rows = rest) := by
  cases h with
  | stopped _ hpass => exact Or.inl ⟨by simp, hl.passed hpass rfl rfl⟩
  | unstopped _ hpass => exact Or.inl ⟨by simp, hl.passed hpass rfl rfl⟩
  | ended hpulls hfinishes hafter =>
    have hfinished := hfinishes.counted (hl.of_ledger hpulls.spares.1)
    exact Or.inl ⟨by simp, hfinished.passed hafter rfl rfl⟩
  | unended hpulls hfinishes hafter =>
    have hfinished := hfinishes.counted (hl.of_ledger hpulls.spares.1)
    exact Or.inl ⟨by simp, hfinished.passed hafter rfl rfl⟩
  | unopened hpulls hopens hafter =>
    have hopened := (hl.of_ledger hpulls.spares.1).of_ledger hopens.spares.1
    exact Or.inl ⟨by simp, hopened.passed hafter rfl rfl⟩
  | @taken row l₁ l₂ l₃ _ hpulls hopens hhandles hafter =>
    have hopened := (hl.of_ledger hpulls.spares.1).of_ledger hopens.spares.1
    have hrows : l'.rows = l₁.rows := by
      rw [hafter.rows_eq]
      change l₃.rows = l₁.rows
      rw [hhandles.frame Load.inert_rows]
      exact hopens.spares.2.2.1
    refine Or.inr ⟨row, offered l₁.rows, hpulls.offered_eq, ?_, fun _ => by rw [hrows]⟩
    exact (hhandles.counted hopened).passed hafter rfl rfl
  | @unhandled row l₁ _ _ _ _ hpulls hopens hhandles hafter =>
    -- A row that fails has been read all the same.
    have hopened := (hl.of_ledger hpulls.spares.1).of_ledger hopens.spares.1
    refine Or.inr ⟨row, offered l₁.rows, hpulls.offered_eq, ?_, by simp⟩
    exact (hhandles.counted hopened).passed hafter rfl rfl

theorem Advances.counted {r : Except Fault Bool} (h : Advances p l r l')
    (hl : Counted p.config p.surroundings.room done l) :
    r ≠ .ok true ∧ Counted p.config p.surroundings.room done l' ∨
      l.phase ≠ .terminated ∧
        ∃ row rest, offered l.rows = row :: rest ∧
          Counted p.config p.surroundings.room (done ++ [row]) l' ∧
          (r = .ok true → offered l'.rows = rest) := by
  cases h with
  | idle _ => exact Or.inl ⟨by simp, hl⟩
  | stepped hphase hsteps => exact (hsteps.counted hl).imp_right fun htaken => ⟨hphase, htaken⟩
  | failed hphase hsteps hcloses _ =>
    rcases hsteps.counted hl with ⟨-, hcounted⟩ | ⟨row, rest, hrows, hcounted, -⟩
    · exact Or.inl ⟨by simp, hcloses.counted hcounted⟩
    · exact Or.inr ⟨hphase, row, rest, hrows, hcloses.counted hcounted, by simp⟩

namespace Loader

/-- The invariant of a load: the rows that were read are the first ones of the source, and as long
as the load goes on the others are still there. -/
theorem after_counted (p : Loader σ) (x : σ) (rows : List Value) (n : Nat) :
    ∃ done, Counted p.config p.surroundings.room done (p.after (Load.begin x rows) n) ∧
      done <+: offered rows ∧
      ((p.after (Load.begin x rows) n).phase ≠ .terminated →
        offered rows = done ++ offered (p.after (Load.begin x rows) n).rows) := by
  -- Every call takes the row that is next in line, or it is the last one to take any.
  induction n with
  | zero => exact ⟨[], .begin _ _ _, List.nil_prefix, fun _ => rfl⟩
  | succ n ih =>
    obtain ⟨done, hcounted, hprefix, hrest⟩ := ih
    have hadvances := p.after_advances (Load.begin x rows) n
    rcases hadvances.counted hcounted with ⟨hlast, hcounted'⟩ | ⟨hphase, row, rest, hrows,
      hcounted', hmore⟩
    · refine ⟨done, hcounted', hprefix, fun hphase => ?_⟩
      exact absurd (terminated_of_ne_true hadvances hlast) hphase
    · have hsplit : offered rows = done ++ [row] ++ rest := by
        rw [hrest hphase, hrows]
        simp
      refine ⟨done ++ [row], hcounted', ⟨rest, hsplit.symm⟩, fun hphase' => ?_⟩
      by_cases htrue : p.answer (Load.begin x rows) n = .ok true
      · rw [hsplit, hmore htrue]
      · exact absurd (terminated_of_ne_true hadvances htrue) hphase'

/-- After any number of calls, the rows that were read are the first ones, and those among them
that stand for nothing have been counted as skipped. -/
theorem rowsSkipped_after (p : Loader σ) (x : σ) (rows : List Value) (n : Nat) :
    (p.after (Load.begin x rows) n).rowsSkipped =
      ((offered rows).take (p.after (Load.begin x rows) n).rowsRead).countP
        (p.config.skips p.surroundings.room) := by
  obtain ⟨done, hcounted, hprefix, -⟩ := after_counted p x rows n
  rw [hcounted.skipped, hcounted.read, ← List.prefix_iff_eq_take.mp hprefix]

end Loader

/-- No row has been read, and no write has been made for one. -/
structure Unread (l : Load σ) : Prop where
  read : l.rowsRead = 0
  buffer : l.buffer = []
  attempts : l.attempts = []

theorem Unread.begin (x : σ) (rows : List Value) : Unread (Load.begin x rows) :=
  ⟨rfl, rfl, rfl⟩

theorem Unread.of_spares (h : Unread l)
    (hspares : l'.ledger = l.ledger ∧ l'.attempts = l.attempts) : Unread l' where
  read := (congrArg Ledger.rowsRead hspares.1).trans h.read
  buffer := (congrArg Ledger.buffer hspares.1).trans h.buffer
  attempts := hspares.2.trans h.attempts

/-- No collection is opened for a mapping that does not pass its check. -/
theorem Opens.checked (h : Opens p row l (.ok ()) l') (hphase : l.phase = .uninitialized) :
    p.config.checkMapping p.surroundings.acceptsArrays = .ok () := by
  cases h with
  | already hopen => exact absurd hphase hopen
  | prepares _ hprepares =>
    cases hprepares with
    | prepared hrow _ => exact Loader.checked_of_inspect hrow

/-- No load goes on to a second row with a mapping that does not pass its check. -/
theorem Advances.checked (h : Advances p l (.ok true) l') (hphase : l.phase = .uninitialized) :
    p.config.checkMapping p.surroundings.acceptsArrays = .ok () := by
  cases h with
  | stepped _ hsteps =>
    cases hsteps with
    | taken hpulls hopens _ _ => exact hopens.checked (hpulls.spares.2.2.1.trans hphase)

section

variable (hmapping : p.config.checkMapping p.surroundings.acceptsArrays ≠ .ok ())

include hmapping

theorem Steps.unread {r : Except Fault Bool} (h : Steps p l r l')
    (hphase : l.phase = .uninitialized) (hl : Unread l) : Unread l' ∧ r ≠ .ok true := by
  have hunopened : ∀ {row : Value} {l₁ l₂ : Load σ}, Pulls p l (some row) l₁ →
      ¬ Opens p row l₁ (.ok ()) l₂ := by
    intro row l₁ l₂ hpulls hopens
    exact hmapping (hopens.checked (hpulls.spares.2.2.1.trans hphase))
  have hfinished : ∀ {l₁ l₂ : Load σ} {r : Except Fault Unit}, Pulls p l none l₁ →
      Finishes p l₁ r l₂ → Unread l₂ := by
    intro l₁ l₂ r hpulls hfinishes
    have hpulled := hl.of_spares ⟨hpulls.spares.1, hpulls.spares.2.1⟩
    have hdrained : ∀ {l₀ : Load σ} {r : Except Fault Unit},
        Drains p { l₁ with phase := .draining } r l₀ → Unread l₀ := by
      intro l₀ r hdrains
      cases hdrains with
      | empty _ => exact ⟨hpulled.read, hpulled.buffer, hpulled.attempts⟩
      | flushed hsome _ => exact absurd hpulled.buffer hsome
    cases hfinishes with
    | undrained hdrains => exact hdrained hdrains
    | unindexed hdrains happlies hpass =>
      exact (hdrained hdrains).of_spares (hpass.idle fun e he =>
        Event.attempted?_of_isIndexing (happlies.isIndexing e he))
    | closed hdrains happlies hpass =>
      exact (hdrained hdrains).of_spares (hpass.idle happlies.not_attempted)
  cases h with
  | stopped _ hpass => exact ⟨hl.of_spares (hpass.idle (by simp [Event.attempted?])), by simp⟩
  | unstopped _ hpass => exact ⟨hl.of_spares (hpass.idle (by simp [Event.attempted?])), by simp⟩
  | ended hpulls hfinishes hafter =>
    have hspares := hafter.idle (by simp [Event.attempted?])
    exact ⟨(hfinished hpulls hfinishes).of_spares hspares, by simp⟩
  | unended hpulls hfinishes hafter =>
    exact ⟨(hfinished hpulls hfinishes).of_spares (hafter.idle (by simp)), by simp⟩
  | taken hpulls hopens _ _ => exact absurd hopens (hunopened hpulls)
  | unhandled hpulls hopens _ _ => exact absurd hopens (hunopened hpulls)
  | unopened hpulls hopens hafter =>
    have hpulled := hl.of_spares ⟨hpulls.spares.1, hpulls.spares.2.1⟩
    have hopened := hpulled.of_spares ⟨hopens.spares.1, hopens.spares.2.1⟩
    exact ⟨hopened.of_spares (hafter.idle (by simp)), by simp⟩

theorem Advances.unread {r : Except Fault Bool} (h : Advances p l r l')
    (hphase : l.phase = .uninitialized) (hl : Unread l) : Unread l' ∧ r ≠ .ok true := by
  cases h with
  | idle hterminated => simp [hphase] at hterminated
  | stepped _ hsteps => exact hsteps.unread hmapping hphase hl
  | failed _ hsteps hcloses _ =>
    have hstepped := (hsteps.unread hmapping hphase hl).1
    refine ⟨?_, by simp⟩
    cases hcloses with
    | already _ => exact hstepped
    | closed _ hpass => exact hstepped.of_spares (hpass.idle (by simp [Event.attempted?]))

/-- A load whose mapping does not pass its check reads no row and makes no write. -/
theorem Loader.unread_after (x : σ) (rows : List Value) (n : Nat) :
    Unread (p.after (Load.begin x rows) n) ∧
      ((p.after (Load.begin x rows) n).phase = .uninitialized ∨
        (p.after (Load.begin x rows) n).phase = .terminated) := by
  induction n with
  | zero => exact ⟨.begin x rows, Or.inl rfl⟩
  | succ n ih =>
    obtain ⟨hunread, hphase⟩ := ih
    have hadvances := p.after_advances (Load.begin x rows) n
    rcases hphase with hphase | hphase
    · obtain ⟨hunread', hlast⟩ := hadvances.unread hmapping hphase hunread
      exact ⟨hunread', Or.inr (terminated_of_ne_true hadvances hlast)⟩
    · obtain ⟨-, hsame⟩ := eq_of_terminated hphase hadvances
      rw [hsame]
      exact ⟨hunread, Or.inr hphase⟩

end

end RowIngest
