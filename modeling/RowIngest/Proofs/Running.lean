import RowIngest.Proofs.Accounting
/-!
Loads that are advanced again and again. A run advances a load until a call does not announce
more rows; the rows are numbered, so there is such a call, and the run ends as that call does.
-/
namespace RowIngest.Loader

open RowIngest.Action

variable {σ : Type} {p : Loader σ} {l l' : Load σ}

/-- The load after so many calls. -/
def after (p : Loader σ) (l : Load σ) : Nat → Load σ
  | 0 => l
  | n + 1 => (exec (advance p) (p.after l n)).2

/-- The answer to a call; the calls before it are numbered from zero. -/
def answer (p : Loader σ) (l : Load σ) (n : Nat) : Except Fault Bool :=
  (exec (advance p) (p.after l n)).1

theorem after_advances (p : Loader σ) (l : Load σ) (n : Nat) :
    Advances p (p.after l n) (p.answer l n) (p.after l (n + 1)) :=
  advance_advances rfl

theorem after_after (p : Loader σ) (l : Load σ) (n k : Nat) :
    p.after (p.after l n) k = p.after l (n + k) := by
  induction k with
  | zero => rfl
  | succ k ih =>
    rw [after, ih]
    rfl

theorem answer_after (p : Loader σ) (l : Load σ) (n k : Nat) :
    p.answer (p.after l n) k = p.answer l (n + k) := by
  rw [answer, after_after, answer]

/-- A call that announces more rows has taken one from the source. -/
theorem rows_length_of_true (h : Advances p l (.ok true) l') :
    l'.rows.length < l.rows.length := by
  cases h with
  | stepped _ hsteps =>
    cases hsteps with
    | @taken row l₁ l₂ l₃ _ hpulls hopens hhandles hafter =>
      have hrows : l'.rows = l₁.rows := by
        rw [hafter.rows_eq]
        change l₃.rows = l₁.rows
        rw [hhandles.frame Load.inert_rows]
        exact hopens.spares.2.2.1
      cases hpulls with
      | some hno hpulled hrow hpass =>
        rw [hrows, hpass.rows_eq, hpulled]
        simp

/-- With as many steps as there are rows, and one more, a load comes to its end: to a call that
does not announce more rows. -/
theorem runFor_eq (k : Nat) (hk : l.rows.length < k) :
    ∃ n, (∀ i < n, p.answer l i = .ok true) ∧ p.answer l n ≠ .ok true ∧
      exec (runFor p k) l =
        ((p.answer l n).map fun _ => (p.after l (n + 1)).stats, p.after l (n + 1)) := by
  induction k generalizing l with
  | zero => omega
  | succ k ih =>
    have hadvance : exec (advance p) l = (p.answer l 0, p.after l 1) := rfl
    have hadvances : Advances p l (p.answer l 0) (p.after l 1) := p.after_advances l 0
    rcases hanswer : p.answer l 0 with f | (_ | _) <;>
      simp only [runFor, exec_bind, hadvance, hanswer, Bool.false_eq_true, if_true, if_false]
    · exact ⟨0, by simp, by simp [hanswer], by simp [hanswer, Except.map]⟩
    · exact ⟨0, by simp, by simp [hanswer], by simp [hanswer, Except.map]⟩
    · rw [hanswer] at hadvances
      have hfewer := rows_length_of_true hadvances
      obtain ⟨n, htrue, hlast, hrun⟩ := ih (l := p.after l 1) (by omega)
      simp only [after_after, answer_after] at htrue hlast hrun
      refine ⟨1 + n, fun i hi => ?_, hlast, hrun⟩
      cases i with
      | zero => exact hanswer
      | succ i => simpa [Nat.add_comm] using htrue i (by omega)

/-- A run ends with the first call that does not announce more rows. -/
theorem run_eq (p : Loader σ) (l : Load σ) :
    ∃ n, (∀ i < n, p.answer l i = .ok true) ∧ p.answer l n ≠ .ok true ∧
      exec (run p) l =
        ((p.answer l n).map fun _ => (p.after l (n + 1)).stats, p.after l (n + 1)) := by
  obtain ⟨n, htrue, hlast, hrun⟩ := runFor_eq (p := p) (l.rows.length + 1) (Nat.lt_succ_self _)
  refine ⟨n, htrue, hlast, ?_⟩
  rw [← hrun, run, exec_bind, exec_get]

theorem run_of_last {n : Nat} (htrue : ∀ i < n, p.answer l i = .ok true)
    (hlast : p.answer l n ≠ .ok true) :
    exec (run p) l =
      ((p.answer l n).map fun _ => (p.after l (n + 1)).stats, p.after l (n + 1)) := by
  obtain ⟨m, hbefore, hend, hrun⟩ := run_eq p l
  rcases Nat.lt_trichotomy m n with hlt | rfl | hlt
  · exact absurd (htrue m hlt) hend
  · exact hrun
  · exact absurd (hbefore n hlt) hlast

/-- A call that does not announce more rows ends the load, whether it returns or fails. -/
theorem terminated_of_ne_true {r : Except Fault Bool} (h : Advances p l r l')
    (hr : r ≠ .ok true) : l'.phase = .terminated := by
  cases h with
  | idle hphase => exact hphase
  | stepped _ hsteps =>
    cases hsteps with
    | stopped _ hpass => exact hpass.phase_eq
    | @ended l₁ l₂ _ hpulls hfinishes hafter =>
      have hphase : l'.phase = l₂.phase := hafter.phase_eq
      rw [hphase, hfinishes.phase_of_ok]
    | taken _ _ _ _ => exact absurd rfl hr
  | failed _ hsteps hcloses _ =>
    cases hcloses with
    | already hphase => exact hphase
    | closed _ hpass => exact hpass.phase_eq

theorem eq_of_terminated {r : Except Fault Bool} (hphase : l.phase = .terminated)
    (h : Advances p l r l') : r = .ok false ∧ l' = l := by
  cases h with
  | idle _ => exact ⟨rfl, rfl⟩
  | stepped hrunning _ => exact absurd hphase hrunning
  | failed hrunning _ _ _ => exact absurd hphase hrunning

/-- A load that has come to its end stays as it is. -/
theorem after_of_terminated (hphase : l.phase = .terminated) (n : Nat) : p.after l n = l := by
  induction n with
  | zero => rfl
  | succ n ih =>
    have hadvances := p.after_advances l n
    rw [ih] at hadvances
    exact (eq_of_terminated hphase hadvances).2

/-- A load that has not come to its end has announced more rows with every call. -/
theorem true_of_running {n : Nat} (hrunning : (p.after l n).phase ≠ .terminated) :
    ∀ i < n, p.answer l i = .ok true := by
  intro i hi
  refine Classical.byContradiction fun hlast => hrunning ?_
  have hterminated := terminated_of_ne_true (p.after_advances l i) hlast
  have hstays := after_of_terminated (p := p) hterminated (n - (i + 1))
  rw [after_after, show i + 1 + (n - (i + 1)) = n by omega] at hstays
  rw [hstays]
  exact hterminated

end RowIngest.Loader
