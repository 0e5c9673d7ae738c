import RowIngest.Proofs.Provenance
/-!
How a load and its source take turns. A call pulls a row or comes to the end of the rows, asks the
store for what follows from that, and then tells the source about it or closes the store. Main
statements: every call to a load that has not ended is one such turn, which leaves the load active
exactly if it announces more rows; a load that has ended is left as it is; and a run takes no more
turns than there are rows, and one.
-/
namespace RowIngest

open RowIngest.Action RowIngest.Rehearsal

variable {σ : Type} {s : Surroundings σ} {p : Loader σ} {l l' l₁ : Load σ} {es : List Event}

/-- The attempts at the documents `waiting` that there are at the end of the rows; `x` is how the
surroundings are found then. There are no attempts if nothing waits, or if the wish to cancel is
noticed before the first one; otherwise they come to an outcome. -/
inductive Loader.Flushes (p : Loader σ) (waiting : List Value) (x : σ) : List Event → Prop
  | empty (hnone : waiting = []) : Flushes p waiting x []
  | withheld (hsome : waiting ≠ []) (hasked : (p.surroundings.cancelled x).1 = true) :
      Flushes p waiting x []
  | flushed {attempts : List Event} {o : Outcome} (hsome : waiting ≠ [])
      (hseries : Retry.Series p.config.policy (.insertMany waiting) 0 attempts (.ok (some o))) :
      Flushes p waiting x attempts

/-- One turn, from a load to the one that it leaves: what its step comes to and what the call
answers, and all that is done in order. Every turn begins with a look at the wish to cancel. -/
inductive Turn (p : Loader σ) (l l' : Load σ) :
    Except Fault Bool → Except Fault Bool → List Event → Prop
  /-- The wish to cancel is noticed, and no row is pulled. -/
  | stopped {r : Except Fault Unit} (hasked : (p.surroundings.cancelled l.surroundings).1 = true)
      (hrest : l'.rows = l.rows) :
      Turn p l l' (r.map fun _ => false) (r.map fun _ => false) [.commanded .close r]
  | taken {row : Value} {es : List Event}
      (hunasked : (p.surroundings.cancelled l.surroundings).1 = false)
      (hrows : l.rows = row :: l'.rows) (hrow : row ≠ .null) (hes : Serves es) :
      Turn p l l' (.ok true) (.ok true) (.pulled (some row) :: (es ++ [.processed]))
  | broken {row : Value} {es : List Event} {f : Fault} {r : Except Fault Unit}
      (hunasked : (p.surroundings.cancelled l.surroundings).1 = false)
      (hrows : l.rows = row :: l'.rows) (hrow : row ≠ .null) (hes : Serves es) :
      Turn p l l' (.error f) (r.bind fun _ => .error f)
        (.pulled (some row) :: (es ++ [.commanded .close r]))
  | ended {attempts indexes : List Event}
      (hunasked : (p.surroundings.cancelled l.surroundings).1 = false)
      (hrows : offered l.rows = []) (hrest : l'.rows = l.rows.tail)
      (hflushes : p.Flushes l.buffer (p.surroundings.cancelled l.surroundings).2 attempts)
      (happlies : Indexing.Applies l.truncated p.config.indexes indexes (.ok ())) :
      Turn p l l' (.ok false) (.ok false)
        (.pulled none :: (attempts ++ indexes ++ [.commanded .close (.ok ()), .completed]))
  | unended {es : List Event} {f : Fault} {r : Except Fault Unit}
      (hunasked : (p.surroundings.cancelled l.surroundings).1 = false)
      (hrows : offered l.rows = []) (hrest : l'.rows = l.rows.tail) (hes : Serves es) :
      Turn p l l' (.error f) (r.bind fun _ => .error f)
        (.pulled none :: (es ++ [.commanded .close r]))

theorem Loader.Flushes.serves {waiting : List Value} {x : σ} (h : p.Flushes waiting x es) :
    Serves es := by
  cases h with
  | empty _ => exact .nil
  | withheld _ _ => exact .nil
  | flushed _ hseries => exact hseries.serves

namespace Turn

variable {s r : Except Fault Bool}

/-- A turn pulls at most one row, and it uses up no other. -/
theorem pulls (h : Turn p l l' s r es) :
    es.countP (·.isPull) ≤ 1 ∧ l'.rows = l.rows.drop (es.countP (·.isPull)) := by
  cases h with
  | stopped _ hrest =>
    rw [hrest]
    simp [Event.isPull]
  | taken _ hrows hrow hes =>
    simp only [List.countP_cons, List.countP_append, hes.not_source.1, List.countP_nil, hrows]
    simp [Event.isPull]
  | broken _ hrows hrow hes =>
    simp only [List.countP_cons, List.countP_append, hes.not_source.1, List.countP_nil, hrows]
    simp [Event.isPull]
  | ended _ hrows hrest hflushes happlies =>
    simp only [List.countP_cons, List.countP_append, hflushes.serves.not_source.1,
      happlies.serves.not_source.1, List.countP_nil, hrest]
    simp [Event.isPull]
  | unended _ hrows hrest hes =>
    simp only [List.countP_cons, List.countP_append, hes.not_source.1, List.countP_nil, hrest]
    simp [Event.isPull]

/-- A row is reported once if nothing was raised for it, and not at all otherwise. -/
theorem reports (h : Turn p l l' s r es) :
    es.countP (·.isReport) = if s.isOk then (es.filterMap (·.row?)).length else 0 := by
  cases h with
  | @stopped closed => cases closed <;> simp [Event.isReport, Event.row?]
  | taken _ hrows hrow hes =>
    obtain ⟨-, hpulled, hreported, -⟩ := hes.not_source
    simp only [List.countP_cons, List.countP_append, List.filterMap_cons, List.filterMap_append,
      hpulled, hreported]
    rfl
  | broken _ hrows hrow hes =>
    simp only [List.countP_cons, List.countP_append, hes.not_source.2.2.1]
    rfl
  | ended _ hrows hrest hflushes happlies =>
    obtain ⟨-, hpulled, hreported, -⟩ := hflushes.serves.not_source
    obtain ⟨-, hpulled', hreported', -⟩ := happlies.serves.not_source
    simp only [List.countP_cons, List.countP_append, List.filterMap_cons, List.filterMap_append,
      hpulled, hreported, hpulled', hreported']
    rfl
  | unended _ hrows hrest hes =>
    simp only [List.countP_cons, List.countP_append, hes.not_source.2.2.1]
    rfl

/-- No turn but the last one tells the source that its rows are all done. -/
theorem completions (h : Turn p l l' s r es) :
    es.countP (·.isCompletion) ≤ 1 ∧ (r = .ok true → es.countP (·.isCompletion) = 0) := by
  cases h with
  | stopped => simp [Event.isCompletion]
  | taken _ hrows hrow hes =>
    simp only [List.countP_cons, List.countP_append, hes.not_source.2.2.2, List.countP_nil]
    simp [Event.isCompletion]
  | broken _ hrows hrow hes =>
    simp only [List.countP_cons, List.countP_append, hes.not_source.2.2.2, List.countP_nil]
    simp [Event.isCompletion]
  | ended _ hrows hrest hflushes happlies =>
    simp only [List.countP_cons, List.countP_append, hflushes.serves.not_source.2.2.2,
      happlies.serves.not_source.2.2.2, List.countP_nil]
    simp [Event.isCompletion]
  | unended _ hrows hrest hes =>
    simp only [List.countP_cons, List.countP_append, hes.not_source.2.2.2, List.countP_nil]
    simp [Event.isCompletion]

end Turn

/-- What is drained at the end of the rows are the documents that waited before it. -/
theorem Drains.flushes (h : Drains p { l with phase := .draining } (.ok ()) l') :
    ∃ attempts, l.Attends attempts l' ∧ p.Flushes l.buffer l.surroundings attempts := by
  cases h with
  | empty hnone => exact ⟨[], ⟨by simp [Load.acts], rfl, .nil⟩, .empty hnone⟩
  | flushed hsome hissues =>
    cases hissues with
    | accepted hseries hpass =>
      exact ⟨_, hpass.attends hseries.serves (Load.acts_credit _ _) (Load.rows_credit _ _),
        .flushed hsome hseries⟩
    | withheld hheeds hpass => exact ⟨[], hpass.attends .nil rfl rfl, .withheld hsome hheeds.1⟩

theorem Closes.of_running {closed : Except Fault Unit} (h : Closes p l closed l')
    (hphase : l.phase ≠ .terminated) :
    l'.acts = l.acts ++ [.commanded .close closed] ∧ l'.rows = l.rows := by
  cases h with
  | already hterminated => exact absurd hterminated hphase
  | closed _ hpass => exact ⟨hpass.acts_eq, hpass.rows_eq⟩

theorem Closes.of_terminated {closed : Except Fault Unit} (h : Closes p l closed l')
    (hphase : l.phase = .terminated) : closed = .ok () ∧ l' = l := by
  cases h with
  | already _ => exact ⟨rfl, rfl⟩
  | closed hrunning _ => exact absurd hphase hrunning

theorem Pulls.rows_eq {row : Value} (h : Pulls p l (Option.some row) l') :
    l.rows = row :: l'.rows ∧ row ≠ .null := by
  cases h with
  | some _ hrows hrow hpass =>
    rw [hpass.rows_eq]
    exact ⟨hrows, hrow⟩

theorem Pulls.rows_tail (h : Pulls p l Option.none l') : l'.rows = l.rows.tail := by
  cases h with
  | none _ _ hpass => exact hpass.rows_eq

theorem Pulls.phase_ne {row : Option Value} (h : Pulls p l row l')
    (hphase : l.phase ≠ .terminated) : l'.phase ≠ .terminated := by
  rwa [h.spares.2.2.1]

/-- The end of the rows fails while the store is served, or when it is closed. -/
theorem Finishes.attends_of_error {f : Fault} (h : Finishes p l (.error f) l') :
    (l'.phase ≠ .terminated ∧ ∃ es, l.Attends es l') ∨
      (l'.phase = .terminated ∧ ∃ es, Serves es ∧
        l'.acts = l.acts ++ (es ++ [.commanded .close (.error f)]) ∧ l'.rows = l.rows) := by
  cases h with
  | undrained hdrains =>
    obtain ⟨es, hacts, hrows, hes⟩ := hdrains.attends
    refine Or.inl ⟨?_, es, hacts, hrows, hes⟩
    rw [hdrains.frame Load.inert_phase]
    simp
  | unindexed hdrains happlies hpass =>
    obtain ⟨es, hacts, hrows, hes⟩ := hdrains.attends
    refine Or.inl ⟨?_, _, ⟨?_, hpass.rows_eq.trans hrows, hes.append happlies.serves⟩⟩
    · rw [hpass.phase_eq, hdrains.frame Load.inert_phase]
      simp
    · rw [hpass.acts_eq, hacts]
      exact List.append_assoc _ _ _
  | @closed l₀ _ indexes _ hdrains happlies hpass =>
    obtain ⟨es, hacts, hrows, hes⟩ := hdrains.attends
    refine Or.inr ⟨hpass.phase_eq, _, hes.append happlies.serves, ?_, hpass.rows_eq.trans hrows⟩
    have hclosed : l'.acts = l₀.acts ++ (indexes ++ [.commanded .close (.error f)]) :=
      hpass.acts_eq
    have hdrained : l₀.acts = l.acts ++ es := hacts
    rw [hclosed, hdrained]
    simp

theorem Pulls.left {row : Option Value} (h : Pulls p l row l') :
    l'.surroundings = (p.surroundings.cancelled l.surroundings).2 := by
  cases h with
  | none _ _ _ hleft => exact hleft
  | some _ _ _ _ hleft => exact hleft

/-- What a row has been pulled for that ends with a fault, and with the closing that follows. -/
theorem Load.Attends.turn_of_error {row : Value} {f : Fault} {closed : Except Fault Unit}
    {l₀ l₂ : Load σ} (h : l₀.Attends es l₂) (hpulls : Pulls p l (some row) l₀)
    (hafter : l₂.Passes p.surroundings [] l₁) (hphase : l₂.phase ≠ .terminated)
    (hcloses : Closes p l₁ closed l') :
    ∃ es, l'.acts = l.acts ++ es ∧
      Turn p l l' (.error f) (closed.bind fun _ => .error f) es := by
  obtain ⟨hacts, hrows⟩ := hcloses.of_running (by rwa [hafter.phase_eq])
  obtain ⟨hpulled, hrow⟩ := hpulls.rows_eq
  refine ⟨.pulled (some row) :: (es ++ [.commanded .close closed]), ?_, ?_⟩
  · rw [hacts, hafter.acts_eq, h.acts_eq, hpulls.acts_eq]
    simp
  · rw [← h.rows_eq, ← hafter.rows_eq, ← hrows] at hpulled
    exact .broken hpulls.unasked hpulled hrow h.serves

/-- What a step comes to that does not fail. -/
theorem Steps.turn {more : Bool} (h : Steps p l (.ok more) l') :
    ∃ es, l'.acts = l.acts ++ es ∧ Turn p l l' (.ok more) (.ok more) es := by
  cases h with
  | stopped hheeds hpass =>
    exact ⟨_, hpass.acts_eq, .stopped (r := .ok ()) hheeds.1 hpass.rows_eq⟩
  | @ended l₁ l₂ _ hpulls hfinishes hafter =>
    cases hfinishes with
    | @closed l₀ _ indexes _ hdrains happlies hpass =>
      obtain ⟨attempts, hattends, hflushes⟩ := hdrains.flushes
      have hrows : l'.rows = l.rows.tail := by
        rw [hafter.rows_eq, ← hpulls.rows_tail]
        exact hpass.rows_eq.trans hattends.rows_eq
      have hacts : l'.acts = l.acts ++ (.pulled none ::
          (attempts ++ indexes ++ [.commanded .close (.ok ()), .completed])) := by
        have hended : l'.acts = l₂.acts ++ [.completed] := hafter.acts_eq
        have hclosed : l₂.acts = l₀.acts ++ (indexes ++ [.commanded .close (.ok ())]) :=
          hpass.acts_eq
        have hflushed : l₀.acts = l₁.acts ++ attempts := hattends.acts_eq
        rw [hended, hclosed, hflushed, hpulls.acts_eq]
        simp
      have hbuffer : l₁.buffer = l.buffer := congrArg Ledger.buffer hpulls.spares.1
      have htruncated : l₀.truncated = l.truncated :=
        (hdrains.frame Load.inert_truncated).trans hpulls.truncated_eq
      rw [hbuffer, hpulls.left] at hflushes
      rw [htruncated] at happlies
      exact ⟨_, hacts, .ended hpulls.unasked hpulls.offered_nil hrows hflushes happlies⟩
  | @taken row l₁ l₂ l₃ _ hpulls hopens hhandles hafter =>
    obtain ⟨opening, hopened⟩ := hopens.attends
    obtain ⟨es, hhandled⟩ := hhandles.attends
    obtain ⟨hrows, hrow⟩ := hpulls.rows_eq
    have hacts : l'.acts = l.acts ++
        (.pulled (some row) :: ((opening ++ es) ++ [.processed])) := by
      have hreported : l'.acts = l₃.acts ++ [.processed] := hafter.acts_eq
      rw [hreported, hhandled.acts_eq, hopened.acts_eq, hpulls.acts_eq]
      simp
    have hleft : l'.rows = l₃.rows := hafter.rows_eq
    rw [← hopened.rows_eq, ← hhandled.rows_eq, ← hleft] at hrows
    exact ⟨_, hacts, .taken hpulls.unasked hrows hrow (hopened.serves.append hhandled.serves)⟩

/-- What a step comes to that fails, with the closing that follows. -/
theorem Steps.turn_of_error {f : Fault} {closed : Except Fault Unit}
    (h : Steps p l (.error f) l₁) (hphase : l.phase ≠ .terminated)
    (hcloses : Closes p l₁ closed l') :
    ∃ es, l'.acts = l.acts ++ es ∧
      Turn p l l' (.error f) (closed.bind fun _ => .error f) es := by
  cases h with
  | unstopped hheeds hpass =>
    obtain ⟨rfl, rfl⟩ := hcloses.of_terminated hpass.phase_eq
    exact ⟨_, hpass.acts_eq, .stopped (r := .error f) hheeds.1 hpass.rows_eq⟩
  | @unended l₀ l₂ _ _ hpulls hfinishes hafter =>
    have hrows₀ : l₀.rows = l.rows.tail := hpulls.rows_tail
    have hacts₁ : l₁.acts = l₂.acts := by simpa using hafter.acts_eq
    rcases hfinishes.attends_of_error with ⟨hrunning, es, hattends⟩ | ⟨hterminated, es, hclosed⟩
    · obtain ⟨hacts, hrows⟩ := hcloses.of_running (by rwa [hafter.phase_eq])
      refine ⟨.pulled none :: (es ++ [.commanded .close closed]), ?_, ?_⟩
      · rw [hacts, hacts₁, hattends.acts_eq, hpulls.acts_eq]
        simp
      · rw [hafter.rows_eq, hattends.rows_eq, hrows₀] at hrows
        exact .unended hpulls.unasked hpulls.offered_nil hrows hattends.serves
    · -- The closing itself has failed, and the store is not closed again.
      obtain ⟨rfl, rfl⟩ := hcloses.of_terminated (by rwa [hafter.phase_eq])
      obtain ⟨hserves, hacts, hrows⟩ := hclosed
      refine ⟨.pulled none :: (es ++ [.commanded .close (.error f)]), ?_, ?_⟩
      · rw [hacts₁, hacts, hpulls.acts_eq]
        simp
      · rw [← hafter.rows_eq, hrows₀] at hrows
        exact .unended (r := .error f) hpulls.unasked hpulls.offered_nil hrows hserves
  | @unopened row l₀ l₂ _ _ hpulls hopens hafter =>
    obtain ⟨es, hopened⟩ := hopens.attends
    have hrunning := hopens.phase_ne (hpulls.phase_ne hphase)
    exact hopened.turn_of_error hpulls hafter hrunning hcloses
  | @unhandled row l₀ l₂ l₃ _ _ hpulls hopens hhandles hafter =>
    obtain ⟨opening, hopened⟩ := hopens.attends
    obtain ⟨es, hhandled⟩ := hhandles.attends
    have hrunning : l₃.phase ≠ .terminated := by
      rw [hhandles.frame Load.inert_phase]
      exact hopens.phase_ne (hpulls.phase_ne hphase)
    exact (hopened.trans hhandled).turn_of_error hpulls hafter hrunning hcloses

/-- What the step of a call comes to, before the call answers for it. -/
def Loader.stepped (p : Loader σ) (l : Load σ) : Except Fault Bool :=
  (exec (inScope p.ownScope (step p)) l).1

theorem Loader.advance_turn {r : Except Fault Bool} (hphase : l.phase ≠ .terminated)
    (h : exec (advance p) l = (r, l')) :
    ∃ es, l'.acts = l.acts ++ es ∧ Turn p l l' (p.stepped l) r es := by
  rcases hscope : exec (inScope p.ownScope (step p)) l with ⟨s, l₁⟩
  have hstepped : p.stepped l = s := congrArg Prod.fst hscope
  have hsteps := scoped_steps hphase hscope
  rw [advance_eq hphase, hscope] at h
  rw [hstepped]
  rcases s with f | more
  · rcases hclose : exec (closeStore p) l₁ with ⟨closed, l₂⟩
    simp only [hclose] at h
    obtain ⟨rfl, rfl⟩ := Prod.mk.inj h
    exact hsteps.turn_of_error hphase (closeStore_closes hclose)
  · obtain ⟨rfl, rfl⟩ := Prod.mk.inj h
    exact hsteps.turn

/-- The collection is opened for the first row, and the load is active from then on. -/
theorem Opens.phase_active {row : Value} (h : Opens p row l (.ok ()) l')
    (hphase : l.phase = .uninitialized ∨ l.phase = .active) : l'.phase = .active := by
  cases h with
  | already hopen => exact hphase.resolve_left hopen
  | prepares _ hprepares =>
    cases hprepares with
    | prepared _ hpass => exact hpass.phase_eq

theorem Advances.phase_active (h : Advances p l (.ok true) l')
    (hphase : l.phase = .uninitialized ∨ l.phase = .active) : l'.phase = .active := by
  cases h with
  | stepped _ hsteps =>
    cases hsteps with
    | @taken row l₁ l₂ l₃ _ hpulls hopens hhandles hafter =>
      have hphase' : l'.phase = l₃.phase := hafter.phase_eq
      rw [hphase', hhandles.frame Load.inert_phase]
      refine hopens.phase_active ?_
      rwa [hpulls.spares.2.2.1]

/-- What a call to a load does to it, and what the call answers. -/
structure Answers (p : Loader σ) (l : Load σ) (r : Except Fault Bool) (l' : Load σ) : Prop where
  /-- Of a load that has ended nothing is asked, and nothing of it is changed. -/
  idle : l.phase = .terminated → r = .ok false ∧ l' = l
  turn : l.phase ≠ .terminated → ∃ es, l'.acts = l.acts ++ es ∧
    Turn p l l' (p.stepped l) r es ∧
    es.countP (·.isPull) ≤ 1 ∧ l'.rows = l.rows.drop (es.countP (·.isPull)) ∧
    es.countP (·.isReport) = if (p.stepped l).isOk then (es.filterMap (·.row?)).length else 0
  active_iff : l'.phase = .active ↔ r = .ok true
  terminated_iff : l'.phase = .terminated ↔ r ≠ .ok true

namespace Loader

/-- Between two calls a load is active or terminated, once there has been a call. -/
theorem phase_after (p : Loader σ) (x : σ) (rows : List Value) (n : Nat) :
    (n = 0 ∧ (p.after (Load.begin x rows) n).phase = .uninitialized) ∨
      (n ≠ 0 ∧ ((p.after (Load.begin x rows) n).phase = .active ∨
        (p.after (Load.begin x rows) n).phase = .terminated)) := by
  induction n with
  | zero => exact Or.inl ⟨rfl, rfl⟩
  | succ n ih =>
    have hadvances := p.after_advances (Load.begin x rows) n
    refine Or.inr ⟨by omega, ?_⟩
    by_cases hmore : p.answer (Load.begin x rows) n = .ok true
    · rw [hmore] at hadvances
      refine Or.inl (hadvances.phase_active ?_)
      rcases ih with ⟨-, hphase⟩ | ⟨-, hphase | hphase⟩
      · exact Or.inl hphase
      · exact Or.inr hphase
      · cases (eq_of_terminated hphase hadvances).1
    · exact Or.inr (terminated_of_ne_true hadvances hmore)

theorem answers_after (p : Loader σ) (x : σ) (rows : List Value) (n : Nat) :
    Answers p (p.after (Load.begin x rows) n) (p.answer (Load.begin x rows) n)
      (p.after (Load.begin x rows) (n + 1)) := by
  have hadvances := p.after_advances (Load.begin x rows) n
  have hactive : p.answer (Load.begin x rows) n = .ok true →
      (p.after (Load.begin x rows) (n + 1)).phase = .active := by
    intro hmore
    rw [hmore] at hadvances
    refine hadvances.phase_active ?_
    rcases p.phase_after x rows n with ⟨-, hphase⟩ | ⟨-, hphase | hphase⟩
    · exact Or.inl hphase
    · exact Or.inr hphase
    · cases (eq_of_terminated hphase hadvances).1
  refine ⟨fun hphase => eq_of_terminated hphase hadvances, fun hphase => ?_, ⟨?_, hactive⟩,
    ⟨?_, terminated_of_ne_true hadvances⟩⟩
  · obtain ⟨es, hacts, hturn⟩ := advance_turn hphase rfl
    exact ⟨es, hacts, hturn, hturn.pulls.1, hturn.pulls.2, hturn.reports⟩
  · intro hphase
    refine Classical.byContradiction fun hlast => ?_
    have hterminated := terminated_of_ne_true hadvances hlast
    rw [hphase] at hterminated
    cases hterminated
  · intro hphase hmore
    rw [hactive hmore] at hphase
    cases hphase

/-- The source is told at most once that its rows are all done, and not before the load ends. -/
theorem completions_after (p : Loader σ) (x : σ) (rows : List Value) (n : Nat) :
    (p.after (Load.begin x rows) n).acts.countP (·.isCompletion) ≤ 1 ∧
      ((p.after (Load.begin x rows) n).phase ≠ .terminated →
        (p.after (Load.begin x rows) n).acts.countP (·.isCompletion) = 0) := by
  induction n with
  | zero => exact ⟨Nat.zero_le 1, fun _ => rfl⟩
  | succ n ih =>
    have hanswers := p.answers_after x rows n
    by_cases hphase : (p.after (Load.begin x rows) n).phase = .terminated
    · rw [(hanswers.idle hphase).2]
      exact ih
    · obtain ⟨es, hacts, hturn, -⟩ := hanswers.turn hphase
      obtain ⟨hone, hnone⟩ := hturn.completions
      rw [hacts, List.countP_append, ih.2 hphase, Nat.zero_add]
      refine ⟨hone, fun hrunning => hnone (Classical.byContradiction fun hlast => ?_)⟩
      exact hrunning (hanswers.terminated_iff.mpr hlast)

/-- Every call that announces more rows has taken one. -/
theorem offered_after (p : Loader σ) (x : σ) (rows : List Value) {n : Nat}
    (h : ∀ i < n, p.answer (Load.begin x rows) i = .ok true) :
    (offered (p.after (Load.begin x rows) n).rows).length + n = (offered rows).length := by
  induction n with
  | zero => rfl
  | succ n ih =>
    have hadvances := p.after_advances (Load.begin x rows) n
    rw [h n (Nat.lt_succ_self n)] at hadvances
    obtain ⟨row, hrow⟩ := hadvances.offered_of_true
    have hbefore := ih fun i hi => h i (Nat.lt_succ_of_lt hi)
    rw [hrow, List.length_cons] at hbefore
    omega

/-- Every call to a load is a turn or leaves it as it is. Draining is never seen between two calls,
the source is told once that its rows are done, and a run takes at most one turn more than there
are rows. -/
theorem calls_take_turns (p : Loader σ) (x : σ) (rows : List Value) :
    (∀ n, Answers p (p.after (Load.begin x rows) n) (p.answer (Load.begin x rows) n)
      (p.after (Load.begin x rows) (n + 1))) ∧
    (∀ n, (p.after (Load.begin x rows) n).phase ≠ .draining ∧
      ((p.after (Load.begin x rows) n).phase = .uninitialized ↔ n = 0)) ∧
    (∀ n, (p.after (Load.begin x rows) n).acts.countP (·.isCompletion) ≤ 1) ∧
    ∃ n, n + 1 ≤ (offered rows).length + 1 ∧
      (∀ i < n, p.answer (Load.begin x rows) i = .ok true) ∧
      p.answer (Load.begin x rows) n ≠ .ok true ∧
      exec (run p) (Load.begin x rows) =
        ((p.answer (Load.begin x rows) n).map fun _ =>
          (p.after (Load.begin x rows) (n + 1)).stats, p.after (Load.begin x rows) (n + 1)) := by
  refine ⟨p.answers_after x rows, fun n => ?_, fun n => (p.completions_after x rows n).1, ?_⟩
  · rcases p.phase_after x rows n with ⟨hn, hphase⟩ | ⟨hn, hphase | hphase⟩ <;>
      rw [hphase] <;> simp [hn]
  · obtain ⟨n, htrue, hlast, hrun⟩ := run_eq p (Load.begin x rows)
    have htaken := p.offered_after x rows htrue
    exact ⟨n, by omega, htrue, hlast, hrun⟩

/-- Three rows in batches of two. The fourth call finds no more rows, writes the document that
waits, closes the store, and then tells the source. -/
theorem calls_take_turns_flushing :
    ((batchLoader 2).after (Load.begin willingStore rebuildingRows) 3).buffer = [numberedRow 3] ∧
    Answers (batchLoader 2) ((batchLoader 2).after (Load.begin willingStore rebuildingRows) 3)
      (.ok false) ((batchLoader 2).after (Load.begin willingStore rebuildingRows) 4) ∧
    ((batchLoader 2).after (Load.begin willingStore rebuildingRows) 4).acts =
      ((batchLoader 2).after (Load.begin willingStore rebuildingRows) 3).acts ++
        [.pulled none,
          .wrote (.insertMany [numberedRow 3]) ScriptedStore.defaultCue.result,
          .commanded .close (.ok ()), .completed] := by
  have hanswer : (batchLoader 2).answer (Load.begin willingStore rebuildingRows) 3 = .ok false := by
    with_unfolding_all rfl
  have hanswers := (calls_take_turns (batchLoader 2) willingStore rebuildingRows).1 3
  rw [hanswer] at hanswers
  refine ⟨?_, hanswers, ?_⟩
  · with_unfolding_all rfl
  · with_unfolding_all rfl

end Loader

end RowIngest
