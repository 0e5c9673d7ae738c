import RowIngest.Proofs.Configuration
import RowIngest.Proofs.Conversation
import RowIngest.Proofs.Rehearsing
/-!
Where writes come from. Whatever the store answers and whenever the load is cancelled, every
write that is attempted stands for rows that the source has handed out: it is a batch of their
documents, or the change that one of them is mapped to. Main statement: an upsert of whole
documents replaces what it finds, unless every key of the document is an operator.
-/
namespace RowIngest

open RowIngest.Action Rehearsal

variable {σ : Type} {s : Surroundings σ} {p : Loader σ} {c : LoadConfig} {room : Room}
  {l l' l₁ : Load σ} {rows : List Value}

/-- One of these rows stands for a delivery. -/
def LoadConfig.Stands (c : LoadConfig) (room : Room) (rows : List Value) (δ : Delivery) : Prop :=
  ∃ row ∈ rows, c.delivery room row = .ok (some δ)

/-- A write that is made for these rows. -/
inductive LoadConfig.Sources (c : LoadConfig) (room : Room) (rows : List Value) : Write → Prop
  | batch {documents : List Value} (hsome : documents ≠ [])
      (hall : ∀ d ∈ documents, c.Stands room rows (.document d)) :
      Sources c room rows (.insertMany documents)
  | change {query document : Value} {w : Write} (hrow : c.Stands room rows (.change query document))
      (hw : Upsert.choose query document c.multi = .ok w) : Sources c room rows w

/-- The documents that wait and the writes that were attempted are made for these rows. -/
structure Sourced (c : LoadConfig) (room : Room) (rows : List Value) (l : Load σ) : Prop where
  buffer : ∀ d ∈ l.buffer, c.Stands room rows (.document d)
  attempts : ∀ w ∈ l.attempts, c.Sources room rows w

theorem Sourced.begin (c : LoadConfig) (rows : List Value) (x : σ) (rest : List Value) :
    Sourced c room rows (Load.begin x rest) :=
  ⟨by simp [Load.begin], by simp [Load.begin, Load.attempts]⟩

/-- No attempt is made and nothing is done about the documents that wait. -/
theorem Sourced.of_eq (h : Sourced c room rows l) (hbuffer : l'.buffer = l.buffer)
    (hattempts : l'.attempts = l.attempts) : Sourced c room rows l' where
  buffer := by
    rw [hbuffer]
    exact h.buffer
  attempts := by
    rw [hattempts]
    exact h.attempts

/-- A passage without attempts, from a load that may have changed in other respects. -/
theorem Sourced.idle {es : List Event} (h : Sourced c room rows l) (hpass : l₁.Passes s es l')
    (hbuffer : l₁.buffer = l.buffer) (hattempts : l₁.attempts = l.attempts)
    (hes : ∀ e ∈ es, e.attempted? = none) : Sourced c room rows l' :=
  h.of_eq (hpass.buffer_eq.trans hbuffer) ((hpass.idle hes).2.trans hattempts)

namespace Issues

variable {policy : Retry.Policy} {w : Write} {r : Except Fault Unit}

theorem buffer_eq (h : Issues s policy l w r l') : l'.buffer = l.buffer :=
  h.frame (fun _ _ _ => rfl) fun l => l.buffer_credit _

/-- A write that is issued is the only one that is attempted. -/
theorem mem_attempts (h : Issues s policy l w r l') {v : Write} (hv : v ∈ l'.attempts) :
    v ∈ l.attempts ∨ v = w := by
  have hsplit : ∀ {l₀ : Load σ} {es : List Event} {r : Except Fault (Option Outcome)},
      Retry.Series policy w 0 es r → l₀.Passes s es l' → l₀.attempts = l.attempts →
      v ∈ l.attempts ∨ v = w := by
    intro l₀ es r hseries hpass hsame
    rw [hpass.attempts_eq, hsame, List.mem_append] at hv
    exact hv.imp_right hseries.eq_of_attempted
  cases h with
  | accepted hseries hpass => exact hsplit hseries hpass (l.attempts_credit w)
  | failed hseries hpass => exact hsplit hseries hpass rfl
  | withheld _ hpass =>
    rw [hpass.attempts_eq] at hv
    simpa using Or.inl hv

theorem sourced (h : Issues s policy l w r l') (hl : Sourced c room rows l)
    (hw : c.Sources room rows w) : Sourced c room rows l' where
  buffer := by
    rw [h.buffer_eq]
    exact hl.buffer
  attempts v hv := by
    rcases h.mem_attempts hv with hbefore | rfl
    · exact hl.attempts v hbefore
    · exact hw

end Issues

/-- Documents that are taken out of the buffer. -/
theorem Sourced.emptied (h : Sourced c room rows l) : Sourced c room rows { l with buffer := [] } :=
  ⟨by simp, h.attempts⟩

theorem Handles.sourced {row : Value} {r : Except Fault Unit} (h : Handles p row l r l')
    (hmem : row ∈ rows) (hl : Sourced p.config p.surroundings.room rows l) :
    Sourced p.config p.surroundings.room rows l' := by
  have hadded : ∀ {d : Value},
      p.config.delivery p.surroundings.room row = .ok (some (.document d)) →
      ∀ d' ∈ l.buffer ++ [d], p.config.Stands p.surroundings.room rows (.document d') := by
    intro d hrow d' hd'
    rcases List.mem_append.mp hd' with hd' | hd'
    · exact hl.buffer d' hd'
    · rw [List.mem_singleton.mp hd']
      exact ⟨row, hmem, hrow⟩
  cases h with
  | refused hrow hpass => exact hl.idle hpass rfl rfl (by simp)
  | skipped hrow hpass => exact hl.idle hpass rfl rfl (by simp)
  | @kept d _ hrow hroom hpass =>
    have hkept : Sourced p.config p.surroundings.room rows { l with buffer := l.buffer ++ [d] } :=
      ⟨hadded hrow, hl.attempts⟩
    exact hkept.idle hpass rfl rfl (by simp)
  | batched hrow hfull hissues =>
    exact hissues.sourced hl.emptied (.batch (by simp) (hadded hrow))
  | changed hrow hw hissues => exact hissues.sourced hl (.change ⟨row, hmem, hrow⟩ hw)
  | unfit hrow hw hpass => exact hl.idle hpass rfl rfl (by simp)

theorem Drains.sourced {r : Except Fault Unit} (h : Drains p l r l')
    (hl : Sourced p.config p.surroundings.room rows l) :
    Sourced p.config p.surroundings.room rows l' := by
  cases h with
  | empty hbuffer => exact hl
  | flushed hsome hissues => exact hissues.sourced hl.emptied (.batch hsome hl.buffer)

theorem Finishes.sourced {r : Except Fault Unit} (h : Finishes p l r l')
    (hl : Sourced p.config p.surroundings.room rows l) :
    Sourced p.config p.surroundings.room rows l' := by
  have hdraining : Sourced p.config p.surroundings.room rows { l with phase := .draining } :=
    hl.of_eq rfl rfl
  cases h with
  | undrained hdrains => exact hdrains.sourced hdraining
  | unindexed hdrains happlies hpass =>
    exact (hdrains.sourced hdraining).idle hpass rfl rfl fun e he =>
      Event.attempted?_of_isIndexing (happlies.isIndexing e he)
  | closed hdrains happlies hpass =>
    exact (hdrains.sourced hdraining).idle hpass rfl rfl happlies.not_attempted

theorem Closes.sourced {r : Except Fault Unit} (h : Closes p l r l')
    (hl : Sourced c room rows l) : Sourced c room rows l' := by
  cases h with
  | already _ => exact hl
  | closed _ hpass => exact hl.idle hpass rfl rfl (by simp [Event.attempted?])

theorem Pulls.sourced {row : Option Value} (h : Pulls p l row l') (hl : Sourced c room rows l) :
    Sourced c room rows l' :=
  hl.of_eq (congrArg Ledger.buffer h.spares.1) h.spares.2.1

theorem Opens.sourced {row : Value} {r : Except Fault Unit} (h : Opens p row l r l')
    (hl : Sourced c room rows l) : Sourced c room rows l' :=
  hl.of_eq (congrArg Ledger.buffer h.spares.1) h.spares.2.1

/-- A step makes its writes for rows that the source still had. -/
theorem Steps.sourced {r : Except Fault Bool} (h : Steps p l r l')
    (hrows : offered l.rows ⊆ rows) (hl : Sourced p.config p.surroundings.room rows l) :
    Sourced p.config p.surroundings.room rows l' := by
  have htaken : ∀ {row : Value} {l₁ l₂ l₃ : Load σ} {r : Except Fault Unit},
      Pulls p l (some row) l₁ → Opens p row l₁ (.ok ()) l₂ →
      Handles p row { l₂ with rowsRead := l₂.rowsRead + 1 } r l₃ →
        Sourced p.config p.surroundings.room rows l₃ := by
    intro row l₁ l₂ l₃ r hpulls hopens hhandles
    have hmem : row ∈ rows := hrows (by rw [hpulls.offered_eq]; exact List.mem_cons_self)
    exact hhandles.sourced hmem ((hopens.sourced (hpulls.sourced hl)).of_eq rfl rfl)
  cases h with
  | stopped _ hpass => exact hl.idle hpass rfl rfl (by simp [Event.attempted?])
  | unstopped _ hpass => exact hl.idle hpass rfl rfl (by simp [Event.attempted?])
  | ended hpulls hfinishes hafter =>
    exact (hfinishes.sourced (hpulls.sourced hl)).idle hafter rfl rfl (by simp [Event.attempted?])
  | unended hpulls hfinishes hafter =>
    exact (hfinishes.sourced (hpulls.sourced hl)).idle hafter rfl rfl (by simp)
  | taken hpulls hopens hhandles hafter =>
    exact (htaken hpulls hopens hhandles).idle hafter rfl rfl (by simp [Event.attempted?])
  | unopened hpulls hopens hafter =>
    exact (hopens.sourced (hpulls.sourced hl)).idle hafter rfl rfl (by simp)
  | unhandled hpulls hopens hhandles hafter =>
    exact (htaken hpulls hopens hhandles).idle hafter rfl rfl (by simp)

theorem Advances.sourced {r : Except Fault Bool} (h : Advances p l r l')
    (hrows : l.phase ≠ .terminated → offered l.rows ⊆ rows)
    (hl : Sourced p.config p.surroundings.room rows l) :
    Sourced p.config p.surroundings.room rows l' := by
  cases h with
  | idle _ => exact hl
  | stepped hphase hsteps => exact hsteps.sourced (hrows hphase) hl
  | failed hphase hsteps hcloses _ => exact hcloses.sourced (hsteps.sourced (hrows hphase) hl)

/-- A call that announces more rows has taken the next one. -/
theorem Advances.offered_of_true (h : Advances p l (.ok true) l') :
    ∃ row, offered l.rows = row :: offered l'.rows := by
  cases h with
  | stepped _ hsteps =>
    cases hsteps with
    | @taken row l₁ l₂ l₃ _ hpulls hopens hhandles hafter =>
      have hrows : l'.rows = l₁.rows := by
        rw [hafter.rows_eq]
        change l₃.rows = l₁.rows
        rw [hhandles.frame Load.inert_rows]
        exact hopens.spares.2.2.1
      exact ⟨row, by rw [hpulls.offered_eq, hrows]⟩

namespace Loader

/-- The invariant of a load: as long as it goes on, its source hands out rows of the first ones
only. -/
theorem after_sourced (p : Loader σ) (x : σ) (rows : List Value) (n : Nat) :
    Sourced p.config p.surroundings.room (offered rows) (p.after (Load.begin x rows) n) ∧
      ((p.after (Load.begin x rows) n).phase ≠ .terminated →
        offered (p.after (Load.begin x rows) n).rows ⊆ offered rows) := by
  induction n with
  | zero => exact ⟨.begin _ _ _ _, fun _ => List.Subset.refl _⟩
  | succ n ih =>
    obtain ⟨hsourced, hrows⟩ := ih
    have hadvances := p.after_advances (Load.begin x rows) n
    refine ⟨hadvances.sourced hrows hsourced, fun hphase => ?_⟩
    by_cases hmore : p.answer (Load.begin x rows) n = .ok true
    · rw [hmore] at hadvances
      obtain ⟨row, hoffered⟩ := hadvances.offered_of_true
      have hrunning : (p.after (Load.begin x rows) n).phase ≠ .terminated := by
        intro hterminated
        cases (eq_of_terminated hterminated hadvances).1
      have hsubset := hrows hrunning
      rw [hoffered] at hsubset
      exact List.Subset.trans (List.subset_cons_self row _) hsubset
    · exact absurd (terminated_of_ne_true hadvances hmore) hphase

/-- Every write that a run attempts is made for rows of its source. -/
theorem run_sourced (p : Loader σ) (x : σ) (rows : List Value) :
    Sourced p.config p.surroundings.room (offered rows) (exec (run p) (Load.begin x rows)).2 := by
  obtain ⟨n, -, -, hrun⟩ := run_eq p (Load.begin x rows)
  rw [hrun]
  exact (after_sourced p x rows (n + 1)).1

end Loader

/-- The write that brings the whole document of a row to where its query leads. A document all of
whose keys are operators is not told from a modifier update. -/
def LoadConfig.Replaces (c : LoadConfig) (room : Room) (rows : List Value) (w : Write) : Prop :=
  ∃ row ∈ rows, ∃ query document : Value,
    c.mapQuery row = .ok (some query) ∧ c.mapDocument room row = .ok (some document) ∧
      w = if Upsert.isModifierUpdate document then .updateOne query document true
        else .replaceOne query document true

/-- An upsert makes no batches: its writes are chosen for the query and the change of a row. -/
theorem LoadConfig.Sources.mapped {w : Write} (h : c.Sources room rows w)
    (hupsert : c.upsert = true) :
    ∃ row ∈ rows, ∃ query document : Value, c.mapQuery row = .ok (some query) ∧
      c.mapChange room row = .ok (some document) ∧
      Upsert.choose query document c.multi = .ok w := by
  cases h with
  | @batch documents hsome hall =>
    obtain ⟨d, hd⟩ := List.exists_mem_of_ne_nil documents hsome
    obtain ⟨row, -, hrow⟩ := hall d hd
    rw [upsert_of_document hrow] at hupsert
    cases hupsert
  | @change query document _ hrow hw =>
    obtain ⟨row, hmem, hrow⟩ := hrow
    obtain ⟨hquery, hchange⟩ := mapped_of_change hupsert hrow
    exact ⟨row, hmem, query, document, hquery, hchange, hw⟩

theorem LoadConfig.Sources.replaces {w : Write} (h : c.Sources room rows w)
    (hupsert : c.upsert = true)
    (hmodifier : c.modifierUpdate = false) (hmulti : c.multi = false) : c.Replaces room rows w := by
  obtain ⟨row, hmem, query, document, hquery, hchange, hw⟩ := h.mapped hupsert
  have hdocument : c.mapDocument room row = .ok (some document) := by
    simpa [mapChange, hmodifier] using hchange
  refine ⟨row, hmem, query, document, hquery, hdocument, ?_⟩
  simp only [Upsert.choose, hmulti, Bool.false_eq_true, if_false] at hw
  split at hw <;> cases hw
  · rw [if_pos ‹_›]
  · rw [if_neg ‹_›]

namespace Loader

variable {fs : Fields}

/-- An upsert of whole documents makes no write but replacements, each of the document of a row,
unless every key of that document is an operator. -/
theorem run_replaces (hconfig : LoadConfig.ofFields fs = .ok p.config)
    (hupsert : p.config.upsert = true) (hmodifier : p.config.modifierUpdate = false)
    (x : σ) (rows : List Value) :
    (∀ w ∈ (exec (run p) (Load.begin x rows)).2.attempts,
      p.config.Replaces p.surroundings.room (offered rows) w) ∧
    ∀ n, ∀ w ∈ (p.after (Load.begin x rows) n).attempts,
      p.config.Replaces p.surroundings.room (offered rows) w := by
  have hmulti := LoadConfig.not_multi_of_ofFields hconfig hupsert hmodifier
  refine ⟨fun w hw => ?_, fun n w hw => ?_⟩
  · exact ((run_sourced p x rows).attempts w hw).replaces hupsert hmodifier hmulti
  · exact ((after_sourced p x rows n).1.attempts w hw).replaces hupsert hmodifier hmulti

/-- A document with a key that is no operator. -/
theorem run_replaces_named_document :
    LoadConfig.ofFields replacementSettings = .ok replacementLoader.config ∧
    replacementLoader.config.upsert = true ∧ replacementLoader.config.modifierUpdate = false ∧
    .replaceOne (.obj [("id", .int 1)]) (.obj [("name", .str "Ada")]) true ∈
      (exec (run replacementLoader) (Load.begin willingStore
        [documentRow (.obj [("name", .str "Ada")])])).2.attempts ∧
    replacementConfig.Replaces .ample (offered [documentRow (.obj [("name", .str "Ada")])])
      (.replaceOne (.obj [("id", .int 1)]) (.obj [("name", .str "Ada")]) true) := by
  have hconfig : LoadConfig.ofFields replacementSettings = .ok replacementLoader.config := rfl
  have hattempts : (exec (run replacementLoader) (Load.begin willingStore
      [documentRow (.obj [("name", .str "Ada")])])).2.attempts =
      [.replaceOne (.obj [("id", .int 1)]) (.obj [("name", .str "Ada")]) true] := by
    with_unfolding_all rfl
  have hmem := List.mem_singleton_self
    (Write.replaceOne (.obj [("id", .int 1)]) (.obj [("name", .str "Ada")]) true)
  rw [← hattempts] at hmem
  have hreplaces := run_replaces hconfig rfl rfl willingStore
    [documentRow (.obj [("name", .str "Ada")])]
  exact ⟨hconfig, rfl, rfl, hmem, hreplaces.1 _ hmem⟩

/-- A row can hold a document that is not taken for a replacement. -/
theorem operators_not_replaced :
    LoadConfig.ofFields replacementSettings = .ok replacementLoader.config ∧
      replacementLoader.config.upsert = true ∧
      replacementLoader.config.modifierUpdate = false ∧
      (exec (run replacementLoader) (Load.begin willingStore
        [documentRow (.obj [("$set", .obj [("a", .int 1)])])])).2.attempts.map (·.operation) =
        [.updateOne] := by
  refine ⟨rfl, rfl, rfl, ?_⟩
  decide +kernel

end Loader

end RowIngest
