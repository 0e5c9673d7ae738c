import RowIngest.Proofs.Attending
import RowIngest.Proofs.Rehearsing
import RowIngest.Proofs.Running
/-!
Every load keeps to the protocol of its store. Between two calls a load has either not begun, or
it has opened its collection and made its writes, all of them accepted or withheld; a call that
does not announce more rows ends that, and what was said to the store is then a whole
conversation. Main statement: this holds of every run, and the store is closed last and once.
-/
namespace RowIngest

open RowIngest.Action Rehearsal

variable {σ : Type} {s : Surroundings σ} {p : Loader σ} {rows : List Value} {l l' l₁ l₂ : Load σ}
  {row : Value} {x : σ} {opening acts es : List Event}

theorem filter_append_quiet (hes : ∀ e ∈ es, e.isCall = false) :
    (acts ++ es).filter (·.isCall) = acts.filter (·.isCall) := by
  have hnone : es.filter (·.isCall) = [] := by simpa using hes
  rw [List.filter_append, hnone, List.append_nil]

/-- The calls of a load whose store was closed last. -/
theorem Load.calls_of_closed {r : Except Fault Unit}
    (hacts : l.acts = acts ++ .commanded .close r :: es) (hes : ∀ e ∈ es, e.isCall = false) :
    l.calls = acts.filter (·.isCall) ++ [.commanded .close r] := by
  rw [Load.calls_eq, hacts, ← List.singleton_append, ← List.append_assoc, filter_append_quiet hes,
    List.filter_append]
  rfl

/-- A conversation under way: the collection was opened for the first row, no write has failed
since then, and indexes have not been asked for. -/
inductive Underway (p : Loader σ) (rows : List Value) : List Event → Prop
  | intro {row : Value} {opening later : List Event} (hfirst : (offered rows).head? = some row)
      (hrow : p.inspect row = .ok ()) (hopening : Opening p.config true opening)
      (hwriting : Writing p.config true (later.filter (·.isCall)))
      (hlater : ∀ e ∈ later, e.isIndexing = false) :
      Underway p rows (.pulled (some row) :: (opening ++ later))

namespace Underway

/-- The collection has just been opened. -/
theorem opened_for (hopening : Opening p.config true opening)
    (hfirst : (offered rows).head? = some row) (hrow : p.inspect row = .ok ()) :
    Underway p rows (.pulled (some row) :: opening) := by
  have hnone : Underway p rows (.pulled (some row) :: (opening ++ [])) :=
    .intro hfirst hrow hopening .none (by simp)
  rwa [List.append_nil] at hnone

/-- The conversation goes on, whatever else happens. -/
theorem quiet (h : Underway p rows acts) (hes : ∀ e ∈ es, e.isCall = false) :
    Underway p rows (acts ++ es) := by
  obtain ⟨hfirst, hrow, hopening, hwriting, hlater⟩ := h
  rw [List.cons_append, List.append_assoc]
  refine .intro hfirst hrow hopening ?_ (List.forall_mem_append.mpr ⟨hlater, fun e he => ?_⟩)
  · rwa [filter_append_quiet hes]
  · cases hindexing : e.isIndexing with
    | false => rfl
    | true =>
      have hcall := Event.isCall_of_isIndexing hindexing
      rw [hes e he] at hcall
      cases hcall

theorem wrote {w : Write} {o : Outcome} (h : Underway p rows acts)
    (hkind : w.isInsert = !p.config.upsert)
    (hseries : Retry.Series p.config.policy w 0 es (.ok (some o))) :
    Underway p rows (acts ++ es) := by
  obtain ⟨hfirst, hrow, hopening, hwriting, hlater⟩ := h
  rw [List.cons_append, List.append_assoc]
  refine .intro hfirst hrow hopening ?_ (List.forall_mem_append.mpr ⟨hlater, fun e he => ?_⟩)
  · rw [List.filter_append]
    exact hwriting.accepted hkind hseries
  · exact (hseries.calls_subset e he).1

theorem unindexed (h : Underway p rows acts) : ∀ e ∈ acts, e.isIndexing = false := by
  obtain ⟨-, -, hopening, -, hlater⟩ := h
  intro e he
  rcases List.mem_cons.mp he with rfl | he
  · rfl
  · rcases List.mem_append.mp he with he | he
    · exact hopening.not_isIndexing e he
    · exact hlater e he

/-- The first row has passed every check. -/
theorem passed (h : Underway p rows acts) : ∃ row, p.inspect row = .ok () := by
  obtain ⟨-, hrow, -, -, -⟩ := h
  exact ⟨_, hrow⟩

/-- Nothing more is said. -/
theorem converses (h : Underway p rows acts) (hconcludes : Concludes p rows x acts true []) :
    Converses p rows x acts := by
  obtain ⟨hfirst, hrow, hopening, hwriting, -⟩ := h
  exact .opened hfirst hrow hopening hwriting (by simp) hconcludes

/-- A write that fails is the last request before the closing. -/
theorem converses_failed {w : Write} {f : Fault} (h : Underway p rows acts)
    (hkind : w.isInsert = !p.config.upsert)
    (hseries : Retry.Series p.config.policy w 0 es (.error f)) :
    Converses p rows x (acts ++ es) := by
  obtain ⟨hfirst, hrow, hopening, hwriting, -⟩ := h
  rw [List.cons_append, List.append_assoc]
  refine .opened hfirst hrow hopening (hwriting.failed hkind hseries) ?_ .unwritten
  rw [List.filter_append, List.append_nil]

/-- Indexes are asked for after the end of the rows. -/
theorem converses_indexed {before flush indexes : List Event} {r : Except Fault Unit}
    (h : Underway p rows acts) (hacts : acts = before ++ .pulled none :: flush)
    (hall : before.filterMap (·.row?) = offered rows)
    (happlies : Indexing.Applies p.config.truncate p.config.indexes indexes r) :
    Converses p rows x (acts ++ indexes) := by
  have hbefore : ∀ e ∈ before ++ flush, e.isIndexing = false := by
    intro e he
    refine h.unindexed e ?_
    rw [hacts]
    rcases List.mem_append.mp he with he | he
    · exact List.mem_append_left _ he
    · exact List.mem_append_right _ (List.mem_cons_of_mem _ he)
  obtain ⟨hfirst, hrow, hopening, hwriting, -⟩ := h
  rw [List.cons_append, List.append_assoc]
  refine .opened hfirst hrow hopening hwriting ?_ (.ended ?_ hall hbefore happlies)
  · rw [List.filter_append, happlies.filter_isCall]
  · rw [← List.append_assoc, ← List.cons_append, hacts]
    simp

end Underway

namespace Issues

variable {w : Write}

theorem underway (h : Issues s p.config.policy l w (.ok ()) l')
    (hkind : w.isInsert = !p.config.upsert) (hunderway : Underway p rows l.acts) :
    Underway p rows l'.acts := by
  cases h with
  | accepted hseries hpass =>
    rw [hpass.acts_eq, Load.acts_credit]
    exact hunderway.wrote hkind hseries
  | withheld _ hpass =>
    rw [hpass.acts_eq, List.append_nil]
    exact hunderway

theorem converses {f : Fault} (h : Issues s p.config.policy l w (.error f) l')
    (hkind : w.isInsert = !p.config.upsert) (hunderway : Underway p rows l.acts) :
    Converses p rows x l'.acts := by
  cases h with
  | failed hseries hpass =>
    rw [hpass.acts_eq]
    exact hunderway.converses_failed hkind hseries

end Issues

theorem Load.buffer_credit (l : Load σ) (w : Write) : (l.credit w).buffer = l.buffer := by
  cases w <;> rfl

namespace Handles

theorem underway (h : Handles p row l (.ok ()) l') (hunderway : Underway p rows l.acts) :
    Underway p rows l'.acts := by
  cases h with
  | skipped hrow hpass =>
    rw [hpass.acts_eq, List.append_nil]
    exact hunderway
  | kept hrow hroom hpass =>
    rw [hpass.acts_eq, List.append_nil]
    exact hunderway
  | batched hrow hfull hissues =>
    refine hissues.underway ?_ hunderway
    rw [LoadConfig.upsert_of_document hrow]
    rfl
  | changed hrow hw hissues =>
    refine hissues.underway ?_ hunderway
    rw [LoadConfig.upsert_of_change hrow, Upsert.isInsert_of_choose hw]
    rfl

theorem converses {f : Fault} (h : Handles p row l (.error f) l')
    (hunderway : Underway p rows l.acts)
    (hlast : (l.acts.filterMap (·.row?)).getLast? = some row) : Converses p rows x l'.acts := by
  cases h with
  | refused hrow hpass =>
    rw [hpass.acts_eq, List.append_nil]
    exact hunderway.converses (.unwritable hlast (.unmapped hrow))
  | batched hrow hfull hissues =>
    refine hissues.converses ?_ hunderway
    rw [LoadConfig.upsert_of_document hrow]
    rfl
  | changed hrow hw hissues =>
    refine hissues.converses ?_ hunderway
    rw [LoadConfig.upsert_of_change hrow, Upsert.isInsert_of_choose hw]
    rfl
  | unfit hrow hw hpass =>
    rw [hpass.acts_eq, List.append_nil]
    exact hunderway.converses (.unwritable hlast (.unfit hrow hw))

/-- An upsert lets no document wait. -/
theorem buffer_eq {r : Except Fault Unit} (h : Handles p row l r l')
    (hupsert : p.config.upsert = true) : l'.buffer = l.buffer := by
  have hinsert : ∀ {d : Value},
      p.config.delivery p.surroundings.room row ≠ .ok (some (.document d)) := by
    intro d hrow
    rw [LoadConfig.upsert_of_document hrow] at hupsert
    cases hupsert
  cases h with
  | refused hrow hpass => exact hpass.buffer_eq
  | skipped hrow hpass => exact hpass.buffer_eq
  | kept hrow hroom hpass => exact absurd hrow hinsert
  | batched hrow hfull hissues => exact absurd hrow hinsert
  | changed hrow hw hissues =>
    exact hissues.frame (fun _ _ _ => rfl) fun l => l.buffer_credit _
  | unfit hrow hw hpass => exact hpass.buffer_eq

end Handles

namespace Pulls

theorem acts_eq {row : Option Value} (h : Pulls p l row l') :
    l'.acts = l.acts ++ [Event.pulled row] := by
  cases h with
  | none hno hrows hpass => exact hpass.acts_eq
  | some hno hrows hrow hpass => exact hpass.acts_eq

theorem truncated_eq {row : Option Value} (h : Pulls p l row l') :
    l'.truncated = l.truncated := by
  cases h with
  | none hno hrows hpass => exact hpass.frame Load.inert_truncated.passing
  | some hno hrows hrow hpass => exact hpass.frame Load.inert_truncated.passing

end Pulls

/-- A load whose collection is open: what it has said, the rows that it has pulled, and whether
the collection was dropped. Only inserts let documents wait. -/
structure Engaged (p : Loader σ) (rows : List Value) (l : Load σ) : Prop where
  phase : l.phase = .active
  underway : Underway p rows l.acts
  pulled : l.acts.filterMap (·.row?) ++ offered l.rows = offered rows
  truncated : l.truncated = p.config.truncate
  buffer : p.config.upsert = true → l.buffer = []

namespace Engaged

theorem quiet (h : Engaged p rows l) (hpass : l.Passes p.surroundings es l')
    (hes : ∀ e ∈ es, e.isCall = false) (hrows : es.filterMap (·.row?) = []) :
    Engaged p rows l' where
  phase := hpass.phase_eq.trans h.phase
  underway := by
    rw [hpass.acts_eq]
    exact h.underway.quiet hes
  pulled := by
    rw [hpass.acts_eq, hpass.rows_eq, List.filterMap_append, hrows, List.append_nil, h.pulled]
  truncated := (hpass.frame Load.inert_truncated.passing).trans h.truncated
  buffer hupsert := hpass.buffer_eq.trans (h.buffer hupsert)

theorem handles (h : Engaged p rows l)
    (hhandles : Handles p row { l with rowsRead := l.rowsRead + 1 } (.ok ()) l') :
    Engaged p rows l' := by
  obtain ⟨es, hacts, hrows, hserves⟩ := hhandles.attends
  refine ⟨?_, hhandles.underway h.underway, ?_, ?_, fun hupsert => ?_⟩
  · exact (hhandles.frame Load.inert_phase).trans h.phase
  · rw [hacts, hrows, List.filterMap_append, hserves.not_source.2.1, List.append_nil, h.pulled]
  · exact (hhandles.frame Load.inert_truncated).trans h.truncated
  · exact (hhandles.buffer_eq hupsert).trans (h.buffer hupsert)

end Engaged

/-- A load between two calls that has not ended. -/
inductive Between (p : Loader σ) (rows : List Value) (l : Load σ) : Prop
  | fresh (hphase : l.phase = .uninitialized) (hacts : l.acts = [])
      (hrows : offered l.rows = offered rows) (hbuffer : l.buffer = [])
      (htruncated : l.truncated = false)
  | active (hengaged : Engaged p rows l)

namespace Between

theorem phase_ne (h : Between p rows l) : l.phase ≠ .terminated := by
  cases h with
  | fresh hphase _ _ _ _ => simp [hphase]
  | active hengaged => simp [hengaged.phase]

/-- The rows that have been pulled, and those that have not. -/
theorem pulled (h : Between p rows l) :
    l.acts.filterMap (·.row?) ++ offered l.rows = offered rows := by
  cases h with
  | fresh _ hacts hrows _ _ => rw [hacts, hrows, List.filterMap_nil, List.nil_append]
  | active hengaged => exact hengaged.pulled

/-- Before a load has begun, nothing has been done in it. The row that it pulls is the first one. -/
theorem first_pulled (h : Between p rows l) (hphase : l.phase = .uninitialized)
    (hpulls : Pulls p l (some row) l₁) :
    l₁.acts = [Event.pulled (some row)] ∧ (offered rows).head? = some row ∧ l.buffer = [] ∧
      l.truncated = false := by
  cases h with
  | active hengaged =>
    rw [hengaged.phase] at hphase
    cases hphase
  | fresh _ hnone hoffered hbuffer htruncated =>
    refine ⟨?_, ?_, hbuffer, htruncated⟩
    · rw [hpulls.acts_eq, hnone]
      rfl
    · rw [← hoffered, hpulls.offered_eq]
      rfl

/-- Opening the collection pulls no other row. -/
theorem opens_pulled {r : Except Fault Unit} (h : Between p rows l)
    (hpulls : Pulls p l (some row) l₁) (hopens : Opens p row l₁ r l₂) :
    l₂.acts.filterMap (·.row?) ++ offered l₂.rows = offered rows ∧
      (l₂.acts.filterMap (·.row?)).getLast? = some row := by
  obtain ⟨es, hacts, hrows, hserves⟩ := hopens.attends
  have hseen : l₂.acts.filterMap (·.row?) = l.acts.filterMap (·.row?) ++ [row] := by
    rw [hacts, hpulls.acts_eq, List.filterMap_append, List.filterMap_append,
      hserves.not_source.2.1, List.append_nil]
    rfl
  constructor
  · rw [hseen, hrows, ← h.pulled, hpulls.offered_eq, List.append_assoc]
    rfl
  · rw [hseen, List.getLast?_concat]

/-- The collection is open after the first row has passed, and stays so. -/
theorem opens_ok (h : Between p rows l) (hpulls : Pulls p l (some row) l₁)
    (hopens : Opens p row l₁ (.ok ()) l₂) :
    Engaged p rows l₂ ∧ (l₂.acts.filterMap (·.row?)).getLast? = some row := by
  obtain ⟨hledger, -, hphase₁, -⟩ := hpulls.spares
  have hbuffer₁ : l₁.buffer = l.buffer := congrArg Ledger.buffer hledger
  obtain ⟨hpulled, hlast⟩ := h.opens_pulled hpulls hopens
  refine ⟨?_, hlast⟩
  cases hopens with
  | prepares hopen hprepares =>
    obtain ⟨hacts₁, hfirst, hbuffer, htruncated⟩ := h.first_pulled (hphase₁.symm.trans hopen) hpulls
    cases hprepares with
    | prepared hrow hpass =>
      have hacts₂ : l₂.acts = .pulled (some row) ::
          (p.config.dropping ++ [Event.commanded .ensureCollection (.ok ())]) := by
        rw [hpass.acts_eq]
        change l₁.acts ++ _ = _
        rw [hacts₁]
        rfl
      have htruncated₂ : l₂.truncated = (p.config.truncate || l₁.truncated) :=
        hpass.frame Load.inert_truncated.passing
      refine ⟨hpass.phase_eq, ?_, hpulled, ?_, fun _ => ?_⟩
      · rw [hacts₂]
        exact .opened_for .opened hfirst hrow
      · rw [htruncated₂, hpulls.truncated_eq, htruncated, Bool.or_false]
      · exact hpass.buffer_eq.trans (hbuffer₁.trans hbuffer)
  | already hopen =>
    cases h with
    | fresh hphase _ _ _ _ => exact absurd (hphase₁.trans hphase) hopen
    | active hengaged =>
      refine ⟨hphase₁.trans hengaged.phase, ?_, hpulled, ?_, fun hupsert => ?_⟩
      · rw [hpulls.acts_eq]
        exact hengaged.underway.quiet (by simp [Event.isCall])
      · exact hpulls.truncated_eq.trans hengaged.truncated
      · exact hbuffer₁.trans (hengaged.buffer hupsert)

/-- The collection cannot be opened; nothing but the closing is said after that. -/
theorem opens_error {f : Fault} (h : Between p rows l) (hpulls : Pulls p l (some row) l₁)
    (hopens : Opens p row l₁ (.error f) l₂) :
    l₂.phase ≠ .terminated ∧ Converses p rows x l₂.acts := by
  obtain ⟨-, -, hphase₁, -⟩ := hpulls.spares
  cases hopens with
  | prepares hopen hprepares =>
    obtain ⟨hacts₁, hfirst, -, -⟩ := h.first_pulled (hphase₁.symm.trans hopen) hpulls
    have hrest : ∀ {l₀ : Load σ} {es : List Event}, l₀.Passes p.surroundings es l₂ →
        l₀.phase = l₁.phase → l₀.acts = l₁.acts →
        l₂.phase ≠ .terminated ∧ l₂.acts = .pulled (some row) :: es := by
      intro l₀ es hpass hphase₀ hacts₀
      refine ⟨?_, by rw [hpass.acts_eq, hacts₀, hacts₁]; rfl⟩
      rw [hpass.phase_eq, hphase₀, hopen]
      simp
    cases hprepares with
    | refused hrow hpass =>
      obtain ⟨hphase₂, hacts₂⟩ := hrest hpass rfl rfl
      rw [hacts₂]
      exact ⟨hphase₂, .refused hfirst hrow⟩
    | undropped hrow htruncate hpass =>
      obtain ⟨hphase₂, hacts₂⟩ := hrest hpass rfl rfl
      rw [hacts₂]
      exact ⟨hphase₂, .unopened hfirst hrow (.undropped htruncate)⟩
    | unensured hrow hpass =>
      obtain ⟨hphase₂, hacts₂⟩ := hrest hpass rfl rfl
      rw [hacts₂]
      exact ⟨hphase₂, .unopened hfirst hrow .unensured⟩

/-- The load is ended before its next row. -/
theorem stops (h : Between p rows l) (hasked : (p.surroundings.cancelled x).1 = true) :
    Converses p rows x l.acts := by
  cases h with
  | fresh _ hacts _ _ _ =>
    rw [hacts]
    exact .stopped hasked
  | active hengaged => exact hengaged.underway.converses (.stopped hasked)

end Between

/-- What is done up to the closing of the store, and after it. -/
inductive Closed (p : Loader σ) (rows : List Value) (x : σ) : List Event → Prop
  | intro {acts later : List Event} {r : Except Fault Unit} (hconverses : Converses p rows x acts)
      (hlater : ∀ e ∈ later, e.isCall = false) :
      Closed p rows x (acts ++ .commanded .close r :: later)

/-- All that there was to say has been said; the store may still have to be closed. -/
def Spoken (p : Loader σ) (rows : List Value) (x : σ) (l : Load σ) : Prop :=
  l.phase ≠ .terminated ∧ Converses p rows x l.acts ∨
    l.phase = .terminated ∧ Closed p rows x l.acts

theorem Converses.close (h : Converses p rows x acts) (r : Except Fault Unit) :
    Closed p rows x (acts ++ [Event.commanded .close r]) :=
  .intro h (by simp)

/-- After the closing it does not matter what else happens. -/
theorem Closed.quiet (h : Closed p rows x acts) (hes : ∀ e ∈ es, e.isCall = false) :
    Closed p rows x (acts ++ es) := by
  obtain ⟨hconverses, hlater⟩ := h
  rw [List.append_assoc, List.cons_append]
  exact .intro hconverses (List.forall_mem_append.mpr ⟨hlater, hes⟩)

/-- What waits at the end of the rows is written, and the conversation goes on. -/
theorem Drains.underway (h : Drains p l (.ok ()) l') (hunderway : Underway p rows l.acts)
    (hbuffer : p.config.upsert = true → l.buffer = []) : Underway p rows l'.acts := by
  cases h with
  | empty _ => exact hunderway
  | flushed hsome hissues =>
    have hinsert : p.config.upsert = false := Bool.eq_false_iff.mpr fun h => hsome (hbuffer h)
    exact hissues.underway (by rw [hinsert]; rfl) hunderway

theorem Drains.converses {f : Fault} (h : Drains p l (.error f) l')
    (hunderway : Underway p rows l.acts) (hbuffer : p.config.upsert = true → l.buffer = []) :
    Converses p rows x l'.acts := by
  cases h with
  | flushed hsome hissues =>
    have hinsert : p.config.upsert = false := Bool.eq_false_iff.mpr fun h => hsome (hbuffer h)
    exact hissues.converses (by rw [hinsert]; rfl) hunderway

/-- The end of the rows, given what is said if what waited is not written, and what is said if
indexes are asked for after that. -/
theorem Finishes.spoken {r : Except Fault Unit} (h : Finishes p l r l')
    (hundrained : ∀ {f : Fault} {l₁ : Load σ},
      Drains p { l with phase := .draining } (.error f) l₁ → Converses p rows x l₁.acts)
    (hindexed : ∀ {l₁ : Load σ} {es : List Event} {r : Except Fault Unit},
      Drains p { l with phase := .draining } (.ok ()) l₁ →
      Indexing.Applies l₁.truncated p.config.indexes es r →
      Converses p rows x (l₁.acts ++ es)) : Spoken p rows x l' := by
  cases h with
  | undrained hdrains =>
    refine Or.inl ⟨?_, hundrained hdrains⟩
    rw [hdrains.frame Load.inert_phase]
    simp
  | unindexed hdrains happlies hpass =>
    refine Or.inl ⟨?_, ?_⟩
    · rw [hpass.phase_eq, hdrains.frame Load.inert_phase]
      simp
    · rw [hpass.acts_eq]
      exact hindexed hdrains happlies
  | closed hdrains happlies hpass =>
    refine Or.inr ⟨hpass.phase_eq, ?_⟩
    rw [hpass.acts_eq, ← List.append_assoc]
    exact (hindexed hdrains happlies).close r

namespace Between

/-- There are no more rows. -/
theorem finishes {r : Except Fault Unit} (h : Between p rows l) (hpulls : Pulls p l none l₁)
    (hfinishes : Finishes p l₁ r l') : Spoken p rows x l' := by
  have hbuffer₁ : l₁.buffer = l.buffer := congrArg Ledger.buffer hpulls.spares.1
  cases h with
  | fresh _ hacts hrows hbuffer htruncated =>
    have hempty : l₁.buffer = [] := hbuffer₁.trans hbuffer
    refine hfinishes.spoken (fun hdrains => ?_) fun hdrains happlies => ?_
    · cases hdrains with
      | flushed hsome _ => exact absurd hempty hsome
    · cases hdrains with
      | flushed hsome _ => exact absurd hempty hsome
      | empty _ =>
        have hacts₁ : l₁.acts = [Event.pulled none] := by
          rw [hpulls.acts_eq, hacts]
          rfl
        have htruncated₁ : l₁.truncated = false := hpulls.truncated_eq.trans htruncated
        change Indexing.Applies l₁.truncated _ _ _ at happlies
        change Converses p rows x (l₁.acts ++ _)
        rw [htruncated₁] at happlies
        rw [hacts₁]
        exact .rowless (hrows.symm.trans hpulls.offered_nil) happlies
  | active hengaged =>
    have hunderway : Underway p rows l₁.acts := by
      rw [hpulls.acts_eq]
      exact hengaged.underway.quiet (by simp [Event.isCall])
    have hwaits : p.config.upsert = true → l₁.buffer = [] :=
      fun hupsert => hbuffer₁.trans (hengaged.buffer hupsert)
    refine hfinishes.spoken (fun hdrains => hdrains.converses hunderway hwaits)
      fun {l₂ indexes _} hdrains happlies => ?_
    obtain ⟨flush, hflush, -, -⟩ := hdrains.attends
    have hacts₂ : l₂.acts = l.acts ++ .pulled none :: flush := by
      rw [hflush]
      change l₁.acts ++ flush = _
      rw [hpulls.acts_eq, List.append_assoc]
      rfl
    have hall : l.acts.filterMap (·.row?) = offered rows := by
      simpa [hpulls.offered_nil] using hengaged.pulled
    have htruncated₂ : l₂.truncated = p.config.truncate :=
      (hdrains.frame Load.inert_truncated).trans (hpulls.truncated_eq.trans hengaged.truncated)
    rw [htruncated₂] at happlies
    exact (hdrains.underway hunderway hwaits).converses_indexed hacts₂ hall happlies

theorem begin (p : Loader σ) (x : σ) (rows : List Value) : Between p rows (Load.begin x rows) :=
  .fresh rfl rfl rfl rfl rfl

/-- A call that announces more rows leaves the conversation under way. -/
theorem advance (h : Between p rows l) (hadvances : Advances p l (.ok true) l') :
    Between p rows l' := by
  cases hadvances with
  | stepped _ hsteps =>
    cases hsteps with
    | @taken row l₁ l₂ l₃ _ hpulls hopens hhandles hafter =>
      have hengaged := (h.opens_ok hpulls hopens).1.handles hhandles
      have hcounted : Engaged p rows { l₃ with rowsProcessed := l₃.rowsProcessed + 1 } :=
        ⟨hengaged.phase, hengaged.underway, hengaged.pulled, hengaged.truncated, hengaged.buffer⟩
      exact .active (hcounted.quiet hafter (by simp [Event.isCall]) rfl)

/-- A step that does not announce more rows has said all it has to say, but for the closing if
it failed. -/
theorem spoken {r : Except Fault Bool} (h : Between p rows l) (hsteps : Steps p l r l')
    (hr : r ≠ .ok true) : Spoken p rows l.surroundings l' := by
  have hclosed : ∀ {r}, (p.surroundings.cancelled l.surroundings).1 = true →
      { l with phase := .terminated }.Passes p.surroundings [.commanded .close r] l' →
      Spoken p rows l.surroundings l' := by
    intro r hasked hpass
    refine Or.inr ⟨hpass.phase_eq, ?_⟩
    rw [hpass.acts_eq]
    exact (h.stops hasked).close r
  -- What follows a failed step is the closing.
  have hquiet : ∀ {l₂ : Load σ}, l₂.Passes p.surroundings [] l' →
      Spoken p rows l.surroundings l₂ → Spoken p rows l.surroundings l' := by
    intro l₂ hafter hspoken
    rwa [Spoken, hafter.phase_eq, hafter.acts_eq, List.append_nil]
  cases hsteps with
  | stopped hheeds hpass => exact hclosed hheeds.1 hpass
  | unstopped hheeds hpass => exact hclosed hheeds.1 hpass
  | @ended _ l₂ _ hpulls hfinishes hafter =>
    have hphase : l'.phase = l₂.phase := hafter.phase_eq
    have hacts : l'.acts = l₂.acts ++ [Event.completed] := hafter.acts_eq
    rcases h.finishes hpulls hfinishes with ⟨hrunning, -⟩ | ⟨hterminated, hclosed⟩
    · exact absurd hfinishes.phase_of_ok hrunning
    · refine Or.inr ⟨hphase.trans hterminated, ?_⟩
      rw [hacts]
      exact hclosed.quiet (by simp [Event.isCall])
  | unended hpulls hfinishes hafter => exact hquiet hafter (h.finishes hpulls hfinishes)
  | taken _ _ _ _ => exact absurd rfl hr
  | unopened hpulls hopens hafter => exact hquiet hafter (Or.inl (h.opens_error hpulls hopens))
  | @unhandled row _ l₂ l₃ _ _ hpulls hopens hhandles hafter =>
    obtain ⟨hengaged, hlast⟩ := h.opens_ok hpulls hopens
    have hphase₃ : l₃.phase = .active := (hhandles.frame Load.inert_phase).trans hengaged.phase
    have hrunning : l₃.phase ≠ .terminated := by simp [hphase₃]
    exact hquiet hafter (Or.inl ⟨hrunning, hhandles.converses hengaged.underway hlast⟩)

end Between

theorem Spoken.closed {r : Except Fault Unit} (h : Spoken p rows x l) (hcloses : Closes p l r l') :
    Closed p rows x l'.acts := by
  cases hcloses with
  | already hterminated =>
    rcases h with ⟨hphase, -⟩ | ⟨-, hclosed⟩
    · exact absurd hterminated hphase
    · exact hclosed
  | @closed r _ hrunning hpass =>
    rcases h with ⟨-, hconverses⟩ | ⟨hterminated, -⟩
    · rw [hpass.acts_eq]
      exact hconverses.close r
    · exact absurd hterminated hrunning

/-- A call that does not announce more rows ends the conversation. -/
theorem Between.ends {r : Except Fault Bool} (h : Between p rows l) (hadvances : Advances p l r l')
    (hr : r ≠ .ok true) : Closed p rows l.surroundings l'.acts := by
  have hterminated := Loader.terminated_of_ne_true hadvances hr
  cases hadvances with
  | idle hphase => exact absurd hphase h.phase_ne
  | stepped _ hsteps =>
    rcases h.spoken hsteps hr with ⟨hrunning, -⟩ | ⟨-, hclosed⟩
    · exact absurd hterminated hrunning
    · exact hclosed
  | failed _ hsteps hcloses _ => exact (h.spoken hsteps (by simp)).closed hcloses

namespace Rehearsal

/-- Settings of a load that empties its collection first and makes an index last. -/
def rebuildingSettings : Fields :=
  batchSettings 2 ++ [("truncate", .bool true),
    ("indexes", .list [.obj [("fields", .list [.obj [("path", .str "id")]])]])]

def rebuildingLoader : Loader ScriptedStore :=
  { batchLoader 2 with
    config := { batchConfig 2 with
      truncate := true
      indexes := [⟨[("id", 1)], false, false, false⟩] } }

def rebuildingRows : List Value := [numberedRow 1, numberedRow 2, numberedRow 3]

/-- What is asked of the store. -/
def requestName : Event → String
  | .wrote w _ => w.operation.name
  | .indexed _ _ => "create_index"
  | .commanded c _ => c.name
  | _ => ""

end Rehearsal

namespace Loader

/-- As long as calls announce more rows, a load is between two of them. -/
theorem between_after (p : Loader σ) (x : σ) (rows : List Value) {n : Nat}
    (h : ∀ i < n, p.answer (Load.begin x rows) i = .ok true) :
    Between p rows (p.after (Load.begin x rows) n) := by
  induction n with
  | zero => exact .begin p x rows
  | succ n ih =>
    have hadvances := p.after_advances (Load.begin x rows) n
    rw [h n (Nat.lt_succ_self n)] at hadvances
    exact (ih fun i hi => h i (Nat.lt_succ_of_lt hi)).advance hadvances

/-- A run keeps to the protocol of its store, whether it returns or fails, and no call after it
asks anything of the store. The store is closed once, after all other requests, and nothing but
that follows a request that raised. -/
theorem run_converses (p : Loader σ) (x : σ) (rows : List Value) :
    ∃ n acts r later,
      (exec (run p) (Load.begin x rows)).2 = p.after (Load.begin x rows) (n + 1) ∧
      (∀ k, p.after (p.after (Load.begin x rows) (n + 1)) k =
        p.after (Load.begin x rows) (n + 1)) ∧
      (p.after (Load.begin x rows) (n + 1)).acts = acts ++ .commanded .close r :: later ∧
      Converses p rows (p.after (Load.begin x rows) n).surroundings acts ∧
      (∀ e ∈ acts, e.isClose = false) ∧ (∀ e ∈ later, e.isCall = false) ∧
      ∀ before e behind, (p.after (Load.begin x rows) (n + 1)).calls = before ++ e :: behind →
        e.raises = true → behind = [] ∨ behind = [.commanded .close r] := by
  obtain ⟨n, htrue, hlast, hrun⟩ := run_eq p (Load.begin x rows)
  have hadvances := p.after_advances (Load.begin x rows) n
  have hterminated := terminated_of_ne_true hadvances hlast
  -- All calls but the last one announce more rows.
  have hclosed := (between_after p x rows htrue).ends hadvances hlast
  generalize hacts : (p.after (Load.begin x rows) (n + 1)).acts = all at hclosed
  obtain @⟨acts, later, r, hconverses, hlater⟩ := hclosed
  refine ⟨n, acts, r, later, by rw [hrun], after_of_terminated hterminated, hacts, hconverses,
    hconverses.not_isClose, hlater, ?_⟩
  intro before e behind hsplit he
  rw [Load.calls_of_closed hacts hlater] at hsplit
  exact hconverses.only_close_after hsplit he

/-- A collection that is emptied, filled in two batches and indexed. -/
theorem run_converses_rebuilding :
    LoadConfig.ofFields rebuildingSettings = .ok rebuildingLoader.config ∧
    ∃ x acts r later,
      (exec (run rebuildingLoader) (Load.begin willingStore rebuildingRows)).2.acts =
        acts ++ .commanded .close r :: later ∧
      Converses rebuildingLoader rebuildingRows x acts ∧
      (acts.filter (·.isCall)).map requestName =
        ["drop", "ensure_collection", "insert_many", "insert_many", "create_index"] := by
  have hnames : (exec (run rebuildingLoader)
      (Load.begin willingStore rebuildingRows)).2.calls.map requestName =
      ["drop", "ensure_collection", "insert_many", "insert_many", "create_index", "close"] := by
    decide +kernel
  obtain ⟨n, acts, r, later, hrun, -, hacts, hconverses, -, hlater, -⟩ :=
    run_converses rebuildingLoader willingStore rebuildingRows
  rw [← hrun] at hacts
  rw [Load.calls_of_closed hacts hlater, List.map_append] at hnames
  exact ⟨rfl, _, acts, r, later, hacts, hconverses, (List.append_inj' hnames rfl).1⟩

end Loader

end RowIngest
