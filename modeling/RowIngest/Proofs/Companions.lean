import RowIngest.Proofs.Accord
import RowIngest.Proofs.Hesitating
/-!
Two loads of one configuration, of which one has a calm store and the other one that hesitates.
Whatever is asked of the two stores keeps the loads alike; of all requests only a write is made in
different ways. Main statement: two runs go alongside each other.
-/
namespace RowIngest

open RowIngest.Action

variable {σ₁ σ₂ : Type}

namespace Alike

variable {R : σ₁ → σ₂ → Prop} {delay : Binary64} {l₁ : Load σ₁} {l₂ : Load σ₂}

/-- The same row is pulled in both loads. -/
theorem pull (h : Alike R delay l₁ l₂) :
    Alike R delay (exec Action.pull l₁).2 (exec Action.pull l₂).2 := by
  have hrows : l₂.rows = l₁.rows := h.read fun _ _ _ => rfl
  have hpulled (row : Option Value) (rest : List Value) :
      Alike R delay { l₁.record (.pulled row) with rows := rest }
        { l₂.record (.pulled row) with rows := rest } :=
    (h.record_dealing rfl).update (f := fun l => { l with rows := rest })
      (g := fun l => { l with rows := rest }) (fun _ _ _ => rfl) fun _ => ⟨rfl, rfl⟩
  simp only [Action.pull, exec_modifyGet, hrows]
  rcases l₁.rows with _ | ⟨row, rest⟩
  · exact h.record_dealing rfl
  · cases row <;> exact hpulled _ rest

end Alike

namespace Hesitates

variable {calm : Surroundings σ₁} {hesitant : Surroundings σ₂} {most : Nat}
  {R : Nat → σ₁ → σ₂ → Prop} {c : LoadConfig}

theorem accord (h : Hesitates calm hesitant most R) (hmost : most ≤ c.retries)
    (htime : hesitant.canTime c.retryDelay = true) :
    Accord c calm hesitant (Alike (R most) c.retryDelay) where
  arrays := h.arrays
  room := h.room
  same {l₁ l₂} hl := by
    have hrows : l₂.rows = l₁.rows := hl.read fun _ _ _ => rfl
    rw [hrows]
    exact hl.same
  rows_length hl := congrArg List.length (hl.read fun _ _ _ => rfl)
  update {f g} hsame hkept {l₁ l₂} hl := by
    refine hl.update (fun l x a => ?_) fun l => ⟨(hkept l).1, (hkept l).2.2⟩
    have hrows : { f l with surroundings := x, rows := l.rows, history := a } =
        { f l with surroundings := x, history := a } := by
      rw [← (hkept l).2.1]
    exact (hsame l x l.rows a).trans hrows
  noted_left he _ _ hl :=
    hl.passes (Load.passes_remark calm _ he) (.refl hesitant _) .nil hl.states
  noted_right he _ _ hl :=
    hl.passes (.refl calm _) (Load.passes_remark hesitant _ he) .nil hl.states
  processed hl := hl.record_dealing rfl
  completed hl := hl.record_dealing rfl
  pull hl := hl.pull
  isCancelled := (h.isCancelled_alongside c.retryDelay).mono fun _ _ hno => hno.1.trans hno.2.symm
  command k := h.command_alongside c.retryDelay k
  createIndex q := h.createIndex_alongside c.retryDelay q
  write context w :=
    (h.write_alongside (p := c.policy) (Int.ofNat_le.mpr hmost) htime context w).mono
      fun _ _ hmade => hmade.1.trans hmade.2.symm

end Hesitates

/-- The same row comes next in loads that have the same rows. -/
theorem Fit.of_rows_eq {c : LoadConfig} {acceptsArrays : Bool} {room : Room} {l₁ : Load σ₁}
    {l₂ : Load σ₂} (h : l₂.rows = l₁.rows) : Fit c acceptsArrays room l₁ l₂ := by
  unfold Fit
  rw [h]
  cases (offered l₁.rows).head? with
  | none => exact .none
  | some row => exact .some ⟨fun _ => rfl, fun _ => .refl c room row⟩

/-- Two runs come to the same result or fault, and stay alike. -/
theorem Loader.run_alongside {calm : Surroundings σ₁} {hesitant : Surroundings σ₂} {most : Nat}
    {R : Nat → σ₁ → σ₂ → Prop} (h : Hesitates calm hesitant most R) {c : LoadConfig}
    (hmost : most ≤ c.retries) (htime : hesitant.canTime c.retryDelay = true) (own : Bool) :
    Alongside (Alike (R most) c.retryDelay) Eq (run ⟨c, calm, own⟩) (run ⟨c, hesitant, own⟩) := by
  intro l₁ l₂ hl
  have hfit : ∀ l₁ l₂, Alike (R most) c.retryDelay l₁ l₂ → True →
      Fit c calm.acceptsArrays calm.room l₁ l₂ :=
    fun l₁ l₂ hl _ => .of_rows_eq (hl.read fun _ _ _ => rfl)
  exact (h.accord hmost htime).run_meets hfit (fun _ _ _ _ _ _ _ _ _ => trivial) hl trivial

end RowIngest
