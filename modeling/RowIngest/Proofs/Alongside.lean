import RowIngest.Proofs.Execution
/-!
Two actions side by side. They are taken by two loads, which may have different surroundings, and
go alongside each other if they lead from related loads to related loads and come to related
results or to the same fault. Main statements: what is composed in the same way of parts that go
alongside each other does so too.
-/
namespace RowIngest

/-- Related results, or the same fault. -/
inductive Agree {α β : Type} (V : α → β → Prop) : Except Fault α → Except Fault β → Prop
  | ok {a : α} {b : β} (h : V a b) : Agree V (.ok a) (.ok b)
  | error (f : Fault) : Agree V (.error f) (.error f)

theorem Agree.eq {α : Type} {r r' : Except Fault α} (h : Agree Eq r r') : r = r' := by
  cases h with
  | ok h => rw [h]
  | error f => rfl

theorem Agree.refl {α : Type} (r : Except Fault α) : Agree Eq r r := by
  cases r with
  | ok a => exact .ok rfl
  | error f => exact .error f

theorem Agree.mono {α β : Type} {V V' : α → β → Prop} {r : Except Fault α} {r' : Except Fault β}
    (hr : Agree V r r') (h : ∀ a b, V a b → V' a b) : Agree V' r r' := by
  cases hr with
  | ok hab => exact .ok (h _ _ hab)
  | error f => exact .error f

namespace Action

variable {σ₁ σ₂ α β γ δ : Type} {Q : Load σ₁ → Load σ₂ → Prop}

/-- From these two loads the actions lead to related loads, with related results or the same
fault. -/
def Meets (Q : Load σ₁ → Load σ₂ → Prop) (V : α → β → Prop) (x : Action σ₁ α) (y : Action σ₂ β)
    (l₁ : Load σ₁) (l₂ : Load σ₂) : Prop :=
  Agree V (exec x l₁).1 (exec y l₂).1 ∧ Q (exec x l₁).2 (exec y l₂).2

namespace Meets

variable {V : α → β → Prop} {W : γ → δ → Prop} {x : Action σ₁ α} {y : Action σ₂ β} {l₁ : Load σ₁}
  {l₂ : Load σ₂}

theorem bind (hxy : Meets Q V x y l₁ l₂) {f : α → Action σ₁ γ} {g : β → Action σ₂ δ}
    (hfg : ∀ a b, V a b → Meets Q W (f a) (g b) (exec x l₁).2 (exec y l₂).2) :
    Meets Q W (x >>= f) (y >>= g) l₁ l₂ := by
  obtain ⟨hagree, hrelated⟩ := hxy
  unfold Meets
  rw [exec_bind, exec_bind]
  rcases hx : exec x l₁ with ⟨r, l₁'⟩
  rcases hy : exec y l₂ with ⟨r', l₂'⟩
  rw [hx, hy] at hagree hrelated hfg
  cases hagree with
  | ok hab => exact hfg _ _ hab
  | error f => exact ⟨.error f, hrelated⟩

theorem get_bind {f : Load σ₁ → Action σ₁ γ} {g : Load σ₂ → Action σ₂ δ}
    (h : Meets Q W (f l₁) (g l₂) l₁ l₂) :
    Meets Q W (MonadState.get >>= f) (MonadState.get >>= g) l₁ l₂ := by
  unfold Meets
  rw [exec_bind, exec_bind]
  exact h

theorem tryCatch (hxy : Meets Q V x y l₁ l₂) {f : Fault → Action σ₁ α} {g : Fault → Action σ₂ β}
    (hfg : ∀ e, Meets Q V (f e) (g e) (exec x l₁).2 (exec y l₂).2) :
    Meets Q V (MonadExcept.tryCatch x f) (MonadExcept.tryCatch y g) l₁ l₂ := by
  obtain ⟨hagree, hrelated⟩ := hxy
  unfold Meets
  rw [exec_tryCatch, exec_tryCatch]
  rcases hx : exec x l₁ with ⟨r, l₁'⟩
  rcases hy : exec y l₂ with ⟨r', l₂'⟩
  rw [hx, hy] at hagree hrelated hfg
  cases hagree with
  | ok hab => exact ⟨.ok hab, hrelated⟩
  | error e => exact hfg e

end Meets

/-- The actions lead from related loads to related loads, with related results or the same fault. -/
def Alongside (Q : Load σ₁ → Load σ₂ → Prop) (V : α → β → Prop) (x : Action σ₁ α)
    (y : Action σ₂ β) : Prop :=
  ∀ l₁ l₂, Q l₁ l₂ → Agree V (exec x l₁).1 (exec y l₂).1 ∧ Q (exec x l₁).2 (exec y l₂).2

namespace Alongside

variable {V : α → β → Prop} {W : γ → δ → Prop} {x : Action σ₁ α} {y : Action σ₂ β}

theorem pure {a : α} {b : β} (h : V a b) :
    Alongside Q V (pure a : Action σ₁ α) (pure b : Action σ₂ β) :=
  fun _ _ hl => ⟨.ok h, hl⟩

theorem throw (f : Fault) :
    Alongside Q V (throw f : Action σ₁ α) (throw f : Action σ₂ β) :=
  fun _ _ hl => ⟨.error f, hl⟩

theorem settle (r : Except Fault α) :
    Alongside Q Eq (settle r : Action σ₁ α) (settle r : Action σ₂ α) := by
  intro l₁ l₂ hl
  rw [exec_settle, exec_settle]
  exact ⟨.refl r, hl⟩

theorem get : Alongside Q Q (MonadState.get : Action σ₁ (Load σ₁)) MonadState.get :=
  fun _ _ hl => ⟨.ok hl, hl⟩

theorem modify {f : Load σ₁ → Load σ₁} {g : Load σ₂ → Load σ₂}
    (h : ∀ l₁ l₂, Q l₁ l₂ → Q (f l₁) (g l₂)) :
    Alongside Q Eq (modify f : Action σ₁ PUnit) (modify g : Action σ₂ PUnit) :=
  fun l₁ l₂ hl => ⟨.ok rfl, h l₁ l₂ hl⟩

theorem modifyGet {f : Load σ₁ → α × Load σ₁} {g : Load σ₂ → β × Load σ₂}
    (h : ∀ l₁ l₂, Q l₁ l₂ → V (f l₁).1 (g l₂).1 ∧ Q (f l₁).2 (g l₂).2) :
    Alongside Q V (modifyGet f : Action σ₁ α) (modifyGet g : Action σ₂ β) :=
  fun l₁ l₂ hl => ⟨.ok (h l₁ l₂ hl).1, (h l₁ l₂ hl).2⟩

theorem bind (hxy : Alongside Q V x y) {f : α → Action σ₁ γ} {g : β → Action σ₂ δ}
    (hfg : ∀ a b, V a b → Alongside Q W (f a) (g b)) : Alongside Q W (x >>= f) (y >>= g) := by
  intro l₁ l₂ hl
  have hmeets : Meets Q V x y l₁ l₂ := hxy l₁ l₂ hl
  exact hmeets.bind fun a b hab => hfg a b hab _ _ hmeets.2

theorem mono (hxy : Alongside Q V x y) {V' : α → β → Prop} (h : ∀ a b, V a b → V' a b) :
    Alongside Q V' x y := by
  intro l₁ l₂ hl
  obtain ⟨hagree, hrelated⟩ := hxy l₁ l₂ hl
  exact ⟨hagree.mono h, hrelated⟩

/-- The result of the first part does not matter. -/
theorem andThen (hxy : Alongside Q V x y) {x' : Action σ₁ γ} {y' : Action σ₂ δ}
    (h : Alongside Q W x' y') : Alongside Q W (x >>= fun _ => x') (y >>= fun _ => y') :=
  hxy.bind fun _ _ _ => h

theorem ite {P P' : Prop} [Decidable P] [Decidable P'] (hP : P ↔ P') {x' : Action σ₁ α}
    {y' : Action σ₂ β} (hxy : Alongside Q V x y) (hxy' : Alongside Q V x' y') :
    Alongside Q V (if P then x else x') (if P' then y else y') := by
  by_cases h : P
  · rw [if_pos h, if_pos (hP.mp h)]
    exact hxy
  · rw [if_neg h, if_neg (mt hP.mpr h)]
    exact hxy'

theorem foldlM {ε : Type} {f : α → ε → Action σ₁ α} {g : β → ε → Action σ₂ β} {items : List ε}
    (hfg : ∀ a b, V a b → ∀ i ∈ items, Alongside Q V (f a i) (g b i)) {a : α} {b : β}
    (hab : V a b) : Alongside Q V (items.foldlM f a) (items.foldlM g b) := by
  induction items generalizing a b with
  | nil => exact pure hab
  | cons i rest ih =>
    rw [List.foldlM_cons, List.foldlM_cons]
    exact (hfg a b hab i List.mem_cons_self).bind fun a' b' hab' =>
      ih (fun a b hab j hj => hfg a b hab j (List.mem_cons_of_mem i hj)) hab'

end Alongside

end Action

end RowIngest
