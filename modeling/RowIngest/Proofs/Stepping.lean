import RowIngest.Proofs.Ending
import RowIngest.Proofs.Opening
/-!
One step of a load, and how it is advanced by steps. A step is stopped before it takes a row,
or it takes one and opens the collection if that was not done, or it comes to the end of the
rows. A step that fails closes the store, and a load whose store is closed is not advanced.
-/
namespace RowIngest

open RowIngest.Action

variable {σ : Type} {s : Surroundings σ} {p : Loader σ} {l l' l₁ : Load σ}

/-- The rows that a source hands out; a null among them is their end. -/
def offered : List Value → List Value
  | [] => []
  | .null :: _ => []
  | row :: rest => row :: offered rest

theorem offered_cons {row : Value} (hrow : row ≠ .null) (rest : List Value) :
    offered (row :: rest) = row :: offered rest := by
  cases row with
  | null => exact absurd rfl hrow
  | _ => rfl

/-- No wish to cancel is noticed, and the next row is taken from the source. -/
inductive Pulls (p : Loader σ) (l : Load σ) : Option Value → Load σ → Prop
  | none {l' : Load σ} (hno : (p.surroundings.cancelled l.surroundings).1 = false)
      (hrows : offered l.rows = [])
      (hpass : { l with rows := l.rows.tail }.Passes p.surroundings [.pulled none] l')
      (hleft : l'.surroundings = (p.surroundings.cancelled l.surroundings).2) :
      Pulls p l none l'
  | some {row : Value} {rest : List Value} {l' : Load σ}
      (hno : (p.surroundings.cancelled l.surroundings).1 = false)
      (hrows : l.rows = row :: rest) (hrow : row ≠ .null)
      (hpass : { l with rows := rest }.Passes p.surroundings [.pulled (some row)] l')
      (hleft : l'.surroundings = (p.surroundings.cancelled l.surroundings).2) :
      Pulls p l (some row) l'

/-- A load is prepared for its first row only. -/
inductive Opens (p : Loader σ) (row : Value) (l : Load σ) : Except Fault Unit → Load σ → Prop
  | already (hphase : l.phase ≠ .uninitialized) : Opens p row l (.ok ()) l
  | prepares {r : Except Fault Unit} {l' : Load σ} (hphase : l.phase = .uninitialized)
      (hprepares : Prepares p row l r l') : Opens p row l r l'

/-- What a step of a load comes to that has not ended. -/
inductive Steps (p : Loader σ) (l : Load σ) : Except Fault Bool → Load σ → Prop
  | stopped {l' : Load σ} (hheeds : p.surroundings.Heeds l.surroundings l'.surroundings)
      (hpass : { l with phase := .terminated }.Passes p.surroundings
        [.commanded .close (.ok ())] l') : Steps p l (.ok false) l'
  | unstopped {f : Fault} {l' : Load σ}
      (hheeds : p.surroundings.Heeds l.surroundings l'.surroundings)
      (hpass : { l with phase := .terminated }.Passes p.surroundings
        [.commanded .close (.error f)] l') : Steps p l (.error f) l'
  | ended {l₁ l₂ l' : Load σ} (hpulls : Pulls p l none l₁) (hfinishes : Finishes p l₁ (.ok ()) l₂)
      (hafter : { l₂ with complete := true }.Passes p.surroundings [.completed] l') :
      Steps p l (.ok false) l'
  | unended {l₁ l₂ l' : Load σ} {f : Fault} (hpulls : Pulls p l none l₁)
      (hfinishes : Finishes p l₁ (.error f) l₂) (hafter : l₂.Passes p.surroundings [] l') :
      Steps p l (.error f) l'
  | taken {row : Value} {l₁ l₂ l₃ l' : Load σ} (hpulls : Pulls p l (some row) l₁)
      (hopens : Opens p row l₁ (.ok ()) l₂)
      (hhandles : Handles p row { l₂ with rowsRead := l₂.rowsRead + 1 } (.ok ()) l₃)
      (hafter : { l₃ with rowsProcessed := l₃.rowsProcessed + 1 }.Passes p.surroundings
        [.processed] l') : Steps p l (.ok true) l'
  | unopened {row : Value} {l₁ l₂ l' : Load σ} {f : Fault} (hpulls : Pulls p l (some row) l₁)
      (hopens : Opens p row l₁ (.error f) l₂) (hafter : l₂.Passes p.surroundings [] l') :
      Steps p l (.error f) l'
  | unhandled {row : Value} {l₁ l₂ l₃ l' : Load σ} {f : Fault} (hpulls : Pulls p l (some row) l₁)
      (hopens : Opens p row l₁ (.ok ()) l₂)
      (hhandles : Handles p row { l₂ with rowsRead := l₂.rowsRead + 1 } (.error f) l₃)
      (hafter : l₃.Passes p.surroundings [] l') : Steps p l (.error f) l'

/-- What it comes to that a load is advanced. -/
inductive Advances (p : Loader σ) (l : Load σ) : Except Fault Bool → Load σ → Prop
  | idle (hphase : l.phase = .terminated) : Advances p l (.ok false) l
  | stepped {more : Bool} {l' : Load σ} (hphase : l.phase ≠ .terminated)
      (hsteps : Steps p l (.ok more) l') : Advances p l (.ok more) l'
  | failed {f g : Fault} {r : Except Fault Unit} {l₁ l' : Load σ} (hphase : l.phase ≠ .terminated)
      (hsteps : Steps p l (.error f) l₁) (hcloses : Closes p l₁ r l')
      (hfault : r.bind (fun _ => .error f) = (.error g : Except Fault Unit)) :
      Advances p l (.error g) l'

/-- What is said before a step does not matter to it. -/
theorem Pulls.of_record {e : Event} {row : Option Value} (he : e.isAct = false)
    (h : Pulls p (l.record e) row l') : Pulls p l row l' := by
  have hsaid := Load.passes_remark p.surroundings l he
  cases h with
  | none hno hrows hpass hleft =>
    have hrest := hsaid.map (f := fun l => { l with rows := l.rows.tail }) fun _ _ _ => rfl
    exact .none hno hrows (hrest.trans hpass) hleft
  | @some row rest _ hno hrows hrow hpass hleft =>
    have hrest := hsaid.map (f := fun l => { l with rows := rest }) fun _ _ _ => rfl
    exact .some hno hrows hrow (hrest.trans hpass) hleft

theorem Steps.of_record {e : Event} {r : Except Fault Bool} (he : e.isAct = false)
    (h : Steps p (l.record e) r l') : Steps p l r l' := by
  have hclosed := (Load.passes_remark p.surroundings l he).map
    (f := fun l => { l with phase := .terminated }) fun _ _ _ => rfl
  cases h with
  | stopped hheeds hpass => exact .stopped hheeds (hclosed.trans hpass)
  | unstopped hheeds hpass => exact .unstopped hheeds (hclosed.trans hpass)
  | ended hpulls hfinishes hafter => exact .ended (hpulls.of_record he) hfinishes hafter
  | unended hpulls hfinishes hafter => exact .unended (hpulls.of_record he) hfinishes hafter
  | taken hpulls hopens hhandles hafter =>
    exact .taken (hpulls.of_record he) hopens hhandles hafter
  | unopened hpulls hopens hafter => exact .unopened (hpulls.of_record he) hopens hafter
  | unhandled hpulls hopens hhandles hafter =>
    exact .unhandled (hpulls.of_record he) hopens hhandles hafter

/-- What is said after a step belongs to it. -/
theorem Steps.then_record {e : Event} {r : Except Fault Bool} (he : e.isAct = false)
    (h : Steps p l r l') : Steps p l r (l'.record e) := by
  have hsaid := Load.passes_remark p.surroundings l' he
  cases h with
  | stopped hheeds hpass =>
    exact .stopped ⟨hheeds.1, hheeds.2.trans hsaid.moved⟩ (hpass.trans hsaid)
  | unstopped hheeds hpass =>
    exact .unstopped ⟨hheeds.1, hheeds.2.trans hsaid.moved⟩ (hpass.trans hsaid)
  | ended hpulls hfinishes hafter => exact .ended hpulls hfinishes (hafter.trans hsaid)
  | unended hpulls hfinishes hafter => exact .unended hpulls hfinishes (hafter.trans hsaid)
  | taken hpulls hopens hhandles hafter =>
    exact .taken hpulls hopens hhandles (hafter.trans hsaid)
  | unopened hpulls hopens hafter => exact .unopened hpulls hopens (hafter.trans hsaid)
  | unhandled hpulls hopens hhandles hafter =>
    exact .unhandled hpulls hopens hhandles (hafter.trans hsaid)

namespace Loader

theorem pull_pulls {r : Except Fault (Option Value)}
    (hno : (p.surroundings.cancelled l.surroundings).1 = false)
    (h : exec pull { l with surroundings := (p.surroundings.cancelled l.surroundings).2 } =
      (r, l')) : ∃ row, r = .ok row ∧ Pulls p l row l' := by
  have hasked : p.surroundings.Reaches l.surroundings
      (p.surroundings.cancelled l.surroundings).2 := (Surroundings.Moves.cancelled _).reaches
  rcases hrows : l.rows with _ | ⟨row, rest⟩
  · simp only [pull, exec_modifyGet, hrows, Prod.mk.injEq] at h
    obtain ⟨rfl, rfl⟩ := h
    refine ⟨none, rfl, .none hno (by simp [hrows, offered]) ?_ rfl⟩
    rw [hrows]
    exact .intro _ _ hasked (by simp [Load.acts, Event.isAct])
  · by_cases hrow : row = .null
    · subst hrow
      simp only [pull, exec_modifyGet, hrows, Prod.mk.injEq] at h
      obtain ⟨rfl, rfl⟩ := h
      refine ⟨none, rfl, .none hno (by simp [hrows, offered]) ?_ rfl⟩
      rw [hrows]
      exact .intro _ _ hasked (by simp [Load.record, Load.acts, Event.isAct])
    · simp only [pull, exec_modifyGet, hrows, Prod.mk.injEq] at h
      obtain ⟨rfl, rfl⟩ := h
      refine ⟨some row, rfl, .some hno hrows hrow ?_ rfl⟩
      exact .intro _ _ hasked (by simp [Load.record, Load.acts, Event.isAct])

/-- What is done with a row once the collection is open. -/
def takeRow (p : Loader σ) (row : Value) : Action σ Bool := do
  handleRow p row
  reportProcessed
  return true

theorem takeRow_steps {row : Value} {l₂ : Load σ} {r : Except Fault Bool}
    (hpulls : Pulls p l (some row) l₁) (hopens : Opens p row l₁ (.ok ()) l₂)
    (h : exec (takeRow p row) l₂ = (r, l')) : Steps p l r l' := by
  rcases hhandle : exec (handleRow p row) l₂ with ⟨r₁, l₃⟩
  have hhandles := handleRow_handles hhandle
  simp only [takeRow, exec_bind, hhandle] at h
  rcases r₁ with f | u
  · obtain ⟨rfl, rfl⟩ := Prod.mk.inj h
    exact .unhandled hpulls hopens hhandles (.refl _ _)
  · simp only [reportProcessed, exec_modify, exec_pure, Prod.mk.injEq] at h
    obtain ⟨rfl, rfl⟩ := h
    have hreported := Load.passes_record p.surroundings
      { l₃ with rowsProcessed := l₃.rowsProcessed + 1 } .processed
    exact .taken hpulls hopens hhandles hreported

theorem step_steps {r : Except Fault Bool} (hphase : l.phase ≠ .terminated)
    (h : exec (step p) l = (r, l')) : Steps p l r l' := by
  have htake (row : Value) : (do
      handleRow p row
      reportProcessed
      return true) = takeRow p row := rfl
  simp only [step, htake, exec_bind, exec_isCancelled] at h
  cases hcancelled : (p.surroundings.cancelled l.surroundings).1 with
  | true =>
    have hsaid := (Load.passes_move p.surroundings l
      (Surroundings.Moves.cancelled l.surroundings)).trans (Load.passes_remark _ _
        (e := .logged ⟨.info, .rows, "Pipeline stopped", [("rows_read", .int l.rowsRead)]⟩) rfl)
    have hclosed := hsaid.map (f := fun l => { l with phase := .terminated }) fun _ _ _ => rfl
    rcases hclose : exec (closeStore p)
      ({ l with surroundings := (p.surroundings.cancelled l.surroundings).2 }.record
        (.logged ⟨.info, .rows, "Pipeline stopped", [("rows_read", .int l.rowsRead)]⟩))
      with ⟨r₁, l₁⟩
    simp only [hcancelled, if_true, exec_bind, exec_get, exec_log, hclose] at h
    cases closeStore_closes hclose with
    | already hterminated => exact absurd hterminated hphase
    | closed _ hpass =>
      have hheeds : p.surroundings.Heeds l.surroundings l₁.surroundings :=
        ⟨hcancelled, hpass.moved⟩
      rcases r₁ with f | u <;> obtain ⟨rfl, rfl⟩ := Prod.mk.inj h
      · exact .unstopped hheeds (hclosed.trans hpass)
      · exact .stopped hheeds (hclosed.trans hpass)
  | false =>
    simp only [hcancelled, Bool.false_eq_true, if_false, exec_bind] at h
    rcases hpull : exec (pull : Action σ (Option Value))
      { l with surroundings := (p.surroundings.cancelled l.surroundings).2 } with ⟨r₁, l₁⟩
    obtain ⟨row, rfl, hpulls⟩ := pull_pulls hcancelled hpull
    rw [hpull] at h
    cases row with
    | none =>
      rcases hfinish : exec (finish p) l₁ with ⟨r₂, l₂⟩
      have hfinishes := finish_finishes hfinish
      simp only [exec_bind, hfinish] at h
      rcases r₂ with f | u
      · obtain ⟨rfl, rfl⟩ := Prod.mk.inj h
        exact .unended hpulls hfinishes (.refl _ _)
      · simp only [reportComplete, exec_modify, exec_pure, Prod.mk.injEq] at h
        obtain ⟨rfl, rfl⟩ := h
        have hreported := Load.passes_record p.surroundings { l₂ with complete := true } .completed
        exact .ended hpulls hfinishes hreported
    | some row =>
      by_cases hopen : l₁.phase = .uninitialized
      · rcases hprepare : exec (prepare p row) l₁ with ⟨r₂, l₂⟩
        have hopens := Opens.prepares hopen (prepare_prepares hprepare)
        simp only [exec_bind, exec_get, hopen, if_true, hprepare] at h
        rcases r₂ with f | u
        · obtain ⟨rfl, rfl⟩ := Prod.mk.inj h
          exact .unopened hpulls hopens (.refl _ _)
        · exact takeRow_steps hpulls hopens h
      · simp only [exec_bind, exec_get, hopen, if_false] at h
        exact takeRow_steps hpulls (.already hopen) h

theorem inScope_eq {α : Type} {x : Action σ α} {r : Except Fault α} {ownScope : Bool}
    (h : exec (inScope ownScope x) l = (r, l')) :
    (ownScope = false ∧ exec x l = (r, l')) ∨
      ∃ l₁, exec x (l.record .entered) = (r, l₁) ∧ l' = l₁.record .left := by
  cases ownScope with
  | false =>
    rcases hx : exec x l with ⟨r₁, l₁⟩
    simp only [inScope, Bool.not_false, if_true, hx] at h
    rcases r₁ with f | a <;> obtain ⟨rfl, rfl⟩ := Prod.mk.inj h <;> exact Or.inl ⟨rfl, rfl⟩
  | true =>
    rcases hx : exec x (l.record .entered) with ⟨r₁, l₁⟩
    simp only [inScope, Bool.not_true, Bool.false_eq_true, if_false, exec_bind, exec_happen,
      exec_tryCatch, hx] at h
    rcases r₁ with f | a <;> obtain ⟨rfl, rfl⟩ := Prod.mk.inj h <;> exact Or.inr ⟨l₁, rfl, rfl⟩

/-- A step comes to the same whether or not it is taken in a scope of its own. -/
theorem scoped_steps {r : Except Fault Bool} (hphase : l.phase ≠ .terminated)
    (h : exec (inScope p.ownScope (step p)) l = (r, l')) : Steps p l r l' := by
  rcases inScope_eq h with ⟨-, hstep⟩ | ⟨l₀, hstep, rfl⟩
  · exact step_steps hphase hstep
  · have hsteps : Steps p (l.record .entered) r l₀ := step_steps hphase hstep
    exact (hsteps.of_record rfl).then_record rfl

/-- A step that fails is followed by the closing, and a closing that fails takes the place of the
fault that led to it. -/
theorem advance_eq (hphase : l.phase ≠ .terminated) :
    exec (advance p) l =
      match exec (inScope p.ownScope (step p)) l with
      | (.ok more, l₁) => (.ok more, l₁)
      | (.error f, l₁) =>
        ((exec (closeStore p) l₁).1.bind fun _ => .error f, (exec (closeStore p) l₁).2) := by
  rcases hscope : exec (inScope p.ownScope (step p)) l with ⟨r₁, l₁⟩
  simp only [advance, exec_bind, exec_get, hphase, if_false, exec_tryCatch, hscope]
  rcases r₁ with f | more
  · rcases hclose : exec (closeStore p) l₁ with ⟨g | u, l₂⟩
    · simp only [hclose]
      rfl
    · simp only [hclose]
      rfl
  · rfl

theorem advance_advances {r : Except Fault Bool} (h : exec (advance p) l = (r, l')) :
    Advances p l r l' := by
  by_cases hphase : l.phase = .terminated
  · simp only [advance, exec_bind, exec_get, hphase, if_true, exec_pure, Prod.mk.injEq] at h
    obtain ⟨rfl, rfl⟩ := h
    exact .idle hphase
  · rcases hscope : exec (inScope p.ownScope (step p)) l with ⟨r₁, l₁⟩
    have hsteps := scoped_steps hphase hscope
    rw [advance_eq hphase, hscope] at h
    rcases r₁ with f | more
    · rcases hclose : exec (closeStore p) l₁ with ⟨r₂, l₂⟩
      have hcloses := closeStore_closes hclose
      simp only [hclose] at h
      rcases r₂ with g | u <;> obtain ⟨rfl, rfl⟩ := Prod.mk.inj h
      · exact .failed hphase hsteps hcloses rfl
      · exact .failed hphase hsteps hcloses rfl
    · obtain ⟨rfl, rfl⟩ := Prod.mk.inj h
      exact .stepped hphase hsteps

end Loader

end RowIngest
