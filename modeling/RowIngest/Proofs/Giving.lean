import RowIngest.Mapping.Value
/-!
What a row gives to the fields of a mapping. Documents, queries and updates are all built by
taking the fields one after the other and leaving out those whose value is null. Main statements:
what such a step does is decided by the value that the row gives, and what one step keeps, all
steps keep.
-/
namespace RowIngest

/-- What succeeds has succeeded in both of its parts. -/
theorem bind_eq_ok {α β ε : Type} {x : Except ε α} {f : α → Except ε β} {b : β} :
    x >>= f = .ok b ↔ ∃ a, x = .ok a ∧ f a = .ok b := by
  cases x <;> simp [bind, Except.bind]

/-- What fails has failed in one of its parts. -/
theorem bind_eq_error {α β ε : Type} {x : Except ε α} {f : α → Except ε β} {e : ε} :
    x >>= f = .error e ↔ x = .error e ∨ ∃ a, x = .ok a ∧ f a = .error e := by
  cases x <;> simp [bind, Except.bind]

section

variable {α β ε : Type} {step : β → α → Except ε β} {as : List α} {b b' : β}

theorem foldlM_cons_ok {a : α} :
    (a :: as).foldlM step b = .ok b' ↔ ∃ b₁, step b a = .ok b₁ ∧ as.foldlM step b₁ = .ok b' := by
  rw [List.foldlM_cons, bind_eq_ok]

theorem foldlM_append_ok {bs : List α} :
    (as ++ bs).foldlM step b = .ok b' ↔
      ∃ b₁, as.foldlM step b = .ok b₁ ∧ bs.foldlM step b₁ = .ok b' := by
  rw [List.foldlM_append, bind_eq_ok]

theorem foldlM_keeps {P : β → Prop}
    (hstep : ∀ a ∈ as, ∀ b b', step b a = .ok b' → P b → P b')
    (h : as.foldlM step b = .ok b') (hb : P b) : P b' := by
  induction as generalizing b with
  | nil =>
    obtain rfl : b = b' := Except.ok.inj h
    exact hb
  | cons a rest ih =>
    obtain ⟨b₁, hone, hrest⟩ := foldlM_cons_ok.mp h
    exact ih (fun c hc => hstep c (List.mem_cons_of_mem a hc)) hrest
      (hstep a List.mem_cons_self b b₁ hone hb)

theorem foldlM_succeeds (hstep : ∀ a ∈ as, ∀ b, ∃ b', step b a = .ok b') (b : β) :
    ∃ b', as.foldlM step b = .ok b' := by
  induction as generalizing b with
  | nil => exact ⟨b, rfl⟩
  | cons a rest ih =>
    obtain ⟨b₁, hone⟩ := hstep a List.mem_cons_self b
    obtain ⟨b', hrest⟩ := ih (fun c hc => hstep c (List.mem_cons_of_mem a hc)) b₁
    exact ⟨b', foldlM_cons_ok.mpr ⟨b₁, hone, hrest⟩⟩

/-- Where the steps fail, one of them does, after all those before it have succeeded. -/
theorem foldlM_stops {e : ε} (h : as.foldlM step b = .error e) :
    ∃ before a after b', as = before ++ a :: after ∧ before.foldlM step b = .ok b' ∧
      step b' a = .error e := by
  induction as generalizing b with
  | nil => cases h
  | cons a rest ih =>
    rw [List.foldlM_cons] at h
    rcases bind_eq_error.mp h with hone | ⟨b₁, hone, hrest⟩
    · exact ⟨[], a, rest, b, rfl, rfl, hone⟩
    · obtain ⟨before, c, after, b', rfl, hbefore, hfails⟩ := ih hrest
      exact ⟨a :: before, c, after, b', rfl, foldlM_cons_ok.mpr ⟨b₁, hone, hbefore⟩, hfails⟩

theorem foldlM_fails {e : ε} (h : as.foldlM step b = .error e) :
    ∃ a ∈ as, ∃ b', step b' a = .error e := by
  obtain ⟨before, a, after, b', rfl, -, hfails⟩ := foldlM_stops h
  exact ⟨a, by simp, b', hfails⟩

/-- Every step fills what is made or else leaves it as it is for a reason; so do all of them. -/
theorem foldlM_fills {P : β → Prop} {Q : α → Prop}
    (hstep : ∀ a ∈ as, ∀ b b', step b a = .ok b' → P b' ∨ b' = b ∧ Q a)
    (h : as.foldlM step b = .ok b') : P b' ∨ b' = b ∧ ∀ a ∈ as, Q a := by
  induction as generalizing b with
  | nil =>
    obtain rfl : b = b' := Except.ok.inj h
    exact Or.inr ⟨rfl, by simp⟩
  | cons a rest ih =>
    obtain ⟨b₁, hone, hrest⟩ := foldlM_cons_ok.mp h
    rcases ih (fun c hc => hstep c (List.mem_cons_of_mem a hc)) hrest with hfilled | ⟨rfl, hothers⟩
    · exact Or.inl hfilled
    · exact (hstep a List.mem_cons_self b b' hone).imp_right fun ⟨hsame, ha⟩ =>
        ⟨hsame, List.forall_mem_cons.mpr ⟨ha, hothers⟩⟩

/-- Nothing is filled exactly if there is such a reason at every step. -/
theorem foldlM_unfilled_iff {P : β → Prop} {Q : α → Prop}
    (hstep : ∀ a ∈ as, ∀ b b', step b a = .ok b' → P b' ∨ b' = b ∧ Q a)
    (hidle : ∀ a ∈ as, Q a → ∀ b, step b a = .ok b) (hb : ¬ P b) :
    (∃ b', as.foldlM step b = .ok b' ∧ ¬ P b') ↔ ∀ a ∈ as, Q a := by
  constructor
  · rintro ⟨b', hmade, hunfilled⟩
    rcases foldlM_fills hstep hmade with hfilled | ⟨-, hall⟩
    · exact absurd hfilled hunfilled
    · exact hall
  · intro hall
    refine ⟨b, ?_, hb⟩
    clear hstep hb
    induction as with
    | nil => rfl
    | cons a rest ih =>
      refine foldlM_cons_ok.mpr ⟨b, hidle a List.mem_cons_self (hall a List.mem_cons_self) b, ?_⟩
      exact ih (fun c hc => hidle c (List.mem_cons_of_mem a hc))
        fun c hc => hall c (List.mem_cons_of_mem a hc)

end

namespace FieldMapping

variable {f : FieldMapping} {row : Row} {β : Type} {made made' : β}

/-- The row has this value for the field, and it is not null. -/
def Gives (f : FieldMapping) (row : Row) (v : Value) : Prop :=
  f.value row = .ok v ∧ v.isNull = false

theorem Gives.unique {v w : Value} (hv : f.Gives row v) (hw : f.Gives row w) : v = w :=
  Except.ok.inj (hv.1.symm.trans hw.1)

/-- A step that leaves null out uses the value that the row gives, or the row has null. -/
theorem gives_or_null {use : Value → Except Fault β}
    (h : (do let v ← f.value row; if v.isNull then return made else use v) = .ok made') :
    (∃ v, f.Gives row v ∧ use v = .ok made') ∨ made' = made ∧ f.value row = .ok .null := by
  obtain ⟨v, hvalue, hused⟩ := bind_eq_ok.mp h
  rcases hnull : v.isNull with _ | _
  · simp only [hnull, Bool.false_eq_true, if_false] at hused
    exact Or.inl ⟨v, ⟨hvalue, hnull⟩, hused⟩
  · simp only [hnull, if_true] at hused
    obtain rfl : v = .null := by
      cases v with
      | null => rfl
      | _ => cases hnull
    exact Or.inr ⟨(Except.ok.inj hused).symm, hvalue⟩

theorem kept_of_null (h : f.value row = .ok .null) (use : Value → Except Fault β) :
    (do let v ← f.value row; if v.isNull then return made else use v) = .ok made := by
  rw [h]
  rfl

theorem gives_or_kept {use : Value → Except Fault β}
    (h : (do let v ← f.value row; if v.isNull then return made else use v) = .ok made') :
    (∃ v, f.Gives row v ∧ use v = .ok made') ∨ made' = made ∧ ∀ v, ¬ f.Gives row v := by
  refine (gives_or_null h).imp_right fun ⟨hsame, hvalue⟩ => ⟨hsame, fun v hv => ?_⟩
  obtain rfl : Value.null = v := Except.ok.inj (hvalue.symm.trans hv.1)
  cases hv.2

end FieldMapping

end RowIngest
