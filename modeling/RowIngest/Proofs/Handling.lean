import RowIngest.Proofs.Attempts
import RowIngest.Proofs.Delivery
/-!
What becomes of one row. It is refused, skipped or kept back, or a write is issued for it. A
write that is issued is accepted and counted, or it fails, or it is withheld because the wish
to cancel is noticed before its first attempt; what was to be written is gone in any case.
-/
namespace RowIngest

open RowIngest.Action

variable {σ β : Type} {s : Surroundings σ} {l l' l₁ l₂ : Load σ} {es : List Event}

namespace Load

/-- Counts a write that the store has accepted. -/
def credit (l : Load σ) : Write → Load σ
  | .insertMany documents => { l with
      batchesWritten := l.batchesWritten + 1
      documentsInserted := l.documentsInserted + documents.length }
  | _ => { l with upsertsWritten := l.upsertsWritten + 1 }

theorem Passes.credit (h : l.Passes s es l') (w : Write) :
    (l.credit w).Passes s es (l'.credit w) :=
  h.map (f := (Load.credit · w)) fun _ _ _ => by cases w <;> rfl

theorem attempts_credit (l : Load σ) (w : Write) : (l.credit w).attempts = l.attempts := by
  cases w <;> rfl

/-- What no write and no row has to do with. -/
structure Inert (f : Load σ → β) : Prop where
  passing : ∀ (l : Load σ) (x : σ) (h : Array Event),
    f { l with surroundings := x, history := h } = f l
  crediting : ∀ (l : Load σ) (w : Write), f (l.credit w) = f l
  buffering : ∀ (l : Load σ) (b : List Value), f { l with buffer := b } = f l
  skipping : ∀ (l : Load σ) (n : Nat), f { l with rowsSkipped := n } = f l

theorem inert_rows : Inert (rows : Load σ → List Value) :=
  ⟨fun _ _ _ => rfl, fun _ w => by cases w <;> rfl, fun _ _ => rfl, fun _ _ => rfl⟩

theorem inert_phase : Inert (phase : Load σ → Phase) :=
  ⟨fun _ _ _ => rfl, fun _ w => by cases w <;> rfl, fun _ _ => rfl, fun _ _ => rfl⟩

theorem inert_complete : Inert (complete : Load σ → Bool) :=
  ⟨fun _ _ _ => rfl, fun _ w => by cases w <;> rfl, fun _ _ => rfl, fun _ _ => rfl⟩

theorem inert_truncated : Inert (truncated : Load σ → Bool) :=
  ⟨fun _ _ _ => rfl, fun _ w => by cases w <;> rfl, fun _ _ => rfl, fun _ _ => rfl⟩

end Load

/-- A write is issued under a policy. -/
inductive Issues (s : Surroundings σ) (p : Retry.Policy) (l : Load σ) (w : Write) :
    Except Fault Unit → Load σ → Prop
  | accepted {es : List Event} {o : Outcome} {l' : Load σ}
      (hseries : Retry.Series p w 0 es (.ok (some o))) (hpass : (l.credit w).Passes s es l') :
      Issues s p l w (.ok ()) l'
  | withheld {l' : Load σ} (hheeds : s.Heeds l.surroundings l'.surroundings)
      (hpass : l.Passes s [] l') : Issues s p l w (.ok ()) l'
  | failed {es : List Event} {f : Fault} {l' : Load σ}
      (hseries : Retry.Series p w 0 es (.error f)) (hpass : l.Passes s es l') :
      Issues s p l w (.error f) l'

namespace Issues

variable {p : Retry.Policy} {w : Write} {r : Except Fault Unit}

/-- It does not matter what was said before. -/
theorem of_said (hsaid : l₁.Says l) (h : Issues s p l w r l') : Issues s p l₁ w r l' := by
  have hbefore := hsaid.passes s
  cases h with
  | accepted hseries hpass => exact .accepted hseries ((hbefore.credit w).trans hpass)
  | withheld hheeds hpass =>
    rw [hsaid.surroundings_eq] at hheeds
    exact .withheld hheeds (hbefore.trans hpass)
  | failed hseries hpass => exact .failed hseries (hbefore.trans hpass)

/-- A write leaves as it was whatever is not concerned with counting it. -/
theorem frame {f : Load σ → β} (h : Issues s p l w r l')
    (hpassing : ∀ (l : Load σ) (x : σ) (h : Array Event),
      f { l with surroundings := x, history := h } = f l)
    (hcrediting : ∀ l : Load σ, f (l.credit w) = f l) : f l' = f l := by
  cases h with
  | accepted _ hpass => rw [hpass.frame hpassing, hcrediting]
  | withheld _ hpass => exact hpass.frame hpassing
  | failed _ hpass => exact hpass.frame hpassing

theorem of_error {context : Fields} {f : Fault} (hp : 0 < p.attempts)
    (h : exec (Retry.write s p context w) l = (.error f, l')) :
    Issues s p l w (.error f) l' := by
  rcases Retry.write_passes hp h with ⟨es, hseries, hpass⟩ | ⟨hnone, -, -⟩
  · exact .failed hseries hpass
  · cases hnone

theorem of_none {context : Fields} (hp : 0 < p.attempts)
    (h : exec (Retry.write s p context w) l = (.ok none, l')) : Issues s p l w (.ok ()) l' := by
  rcases Retry.write_passes hp h with ⟨es, hseries, -⟩ | ⟨-, hpass, hheeds⟩
  · exact absurd rfl hseries.ne_none
  · exact .withheld hheeds hpass

/-- After the outcome the write is counted; more may be said about it. -/
theorem of_some {context : Fields} {o : Outcome} (hp : 0 < p.attempts)
    (h : exec (Retry.write s p context w) l = (.ok (some o), l₁))
    (hafter : (l₁.credit w).Passes s [] l') : Issues s p l w (.ok ()) l' := by
  rcases Retry.write_passes hp h with ⟨es, hseries, hpass⟩ | ⟨hnone, -, -⟩
  · exact .accepted hseries (by simpa using (hpass.credit w).trans hafter)
  · cases hnone

end Issues

/-- A batch is one write of all documents kept back. It is counted if it has an outcome. -/
theorem Batch.flush_cases {p : Retry.Policy} {r : Except Fault (Option Outcome)}
    (hbuffer : l.buffer ≠ []) (h : exec (Batch.flush s p) l = (r, l')) :
    ∃ l₁, exec (Retry.write s p [("batch_size", .int l.buffer.length)] (.insertMany l.buffer))
        { l with buffer := [] } = (r, l₁) ∧
      ((∀ o, r ≠ .ok (some o)) ∧ l' = l₁ ∨ ∃ o said, r = .ok (some o) ∧
        l' = (l₁.credit (.insertMany l.buffer)).record (.logged said)) := by
  rcases hwrite : exec (Retry.write s p [("batch_size", .int l.buffer.length)]
    (.insertMany l.buffer)) { l with buffer := [] } with ⟨f | (_ | o), l₁⟩ <;>
    simp [Batch.flush, Batch.takeBuffer, exec_bind, hbuffer, hwrite] at h <;>
    obtain ⟨rfl, rfl⟩ := h
  · exact ⟨l₁, rfl, Or.inl ⟨nofun, rfl⟩⟩
  · exact ⟨l₁, rfl, Or.inl ⟨nofun, rfl⟩⟩
  · exact ⟨l₁, rfl, Or.inr ⟨o, _, rfl, rfl⟩⟩

theorem Batch.exec_add_of_room {p : Retry.Policy} {capacity : Nat} {document : Value}
    (hroom : l.buffer.length + 1 < capacity) :
    exec (Batch.add s p capacity document) l =
      (.ok (), { l with buffer := l.buffer ++ [document] }) := by
  have hfew : ¬ capacity ≤ l.buffer.length + 1 := by omega
  simp only [Batch.add, exec_bind, exec_modify, exec_get, List.length_append,
    List.length_singleton, ge_iff_le, hfew, if_false, exec_pure]

/-- A document that fills the batch is flushed with it. -/
theorem Batch.exec_add_of_full {p : Retry.Policy} {capacity : Nat} {document : Value}
    (hfull : capacity ≤ l.buffer.length + 1) :
    exec (Batch.add s p capacity document) l = exec (do let _ ← Batch.flush s p)
      (Load.record { l with buffer := l.buffer ++ [document] } (.logged ⟨.debug, .writes,
        "Committing a full batch", [("batch_size", .int capacity)]⟩)) := by
  simp only [Batch.add, exec_bind, exec_modify, exec_get, exec_log, List.length_append,
    List.length_singleton, ge_iff_le, hfull, if_true]

/-- Where the outcome of a flush is not looked at. -/
theorem Batch.exec_flush_eq {p : Retry.Policy} {r : Except Fault Unit}
    (h : exec (do let _ ← Batch.flush s p) l = (r, l')) :
    ∃ result, exec (Batch.flush s p) l = (result, l') ∧ r = result.map fun _ => () := by
  rcases hflush : exec (Batch.flush s p) l with ⟨result, l₁⟩
  rw [exec_bind, hflush] at h
  cases result with
  | error f =>
    obtain ⟨rfl, rfl⟩ := Prod.mk.inj h
    exact ⟨_, rfl, rfl⟩
  | ok o =>
    obtain ⟨rfl, rfl⟩ := Prod.mk.inj h
    exact ⟨_, rfl, rfl⟩

/-- The documents kept back are written in one batch; nothing is left of them after that. -/
theorem Batch.flush_issues {p : Retry.Policy} {r : Except Fault (Option Outcome)}
    (hp : 0 < p.attempts) (hbuffer : l.buffer ≠ []) (h : exec (Batch.flush s p) l = (r, l')) :
    Issues s p { l with buffer := [] } (.insertMany l.buffer) (r.map fun _ => ()) l' := by
  obtain ⟨l₁, hwrite, ⟨hnone, rfl⟩ | ⟨o, said, rfl, rfl⟩⟩ := flush_cases hbuffer h
  · rcases r with f | (_ | o)
    · exact .of_error hp hwrite
    · exact .of_none hp hwrite
    · exact absurd rfl (hnone o)
  · exact .of_some hp hwrite (Load.passes_remark s _ rfl)

theorem Load.credit_of_choose {query document : Value} {multi : Bool} {w : Write}
    (hw : Upsert.choose query document multi = .ok w) (l : Load σ) :
    { l with upsertsWritten := l.upsertsWritten + 1 } = l.credit w := by
  have hkind := Upsert.isInsert_of_choose hw
  cases w <;> simp_all [Load.credit, Write.isInsert]

/-- A change is one write, which is counted if it has an outcome. -/
theorem Upsert.write_cases {p : Retry.Policy} {query document : Value} {multi : Bool} {w : Write}
    {r : Except Fault (Option Outcome)} (hw : Upsert.choose query document multi = .ok w)
    (h : exec (Upsert.write s p query document multi) l = (r, l')) :
    ∃ l₁, exec (Retry.write s p [("query", query)] w) l = (r, l₁) ∧
      ((∀ o, r ≠ .ok (some o)) ∧ l' = l₁ ∨ ∃ o, r = .ok (some o) ∧ l' = l₁.credit w) := by
  rcases hwrite : exec (Retry.write s p [("query", query)] w) l with ⟨f | (_ | o), l₁⟩ <;>
    simp [Upsert.write, hw, exec_bind, hwrite] at h <;>
    obtain ⟨rfl, rfl⟩ := h
  · exact ⟨l₁, rfl, Or.inl ⟨nofun, rfl⟩⟩
  · exact ⟨l₁, rfl, Or.inl ⟨nofun, rfl⟩⟩
  · exact ⟨l₁, rfl, Or.inr ⟨o, rfl, Load.credit_of_choose hw l₁⟩⟩

theorem Upsert.write_issues {p : Retry.Policy} {query document : Value} {multi : Bool} {w : Write}
    {r : Except Fault (Option Outcome)} (hp : 0 < p.attempts)
    (hw : Upsert.choose query document multi = .ok w)
    (h : exec (Upsert.write s p query document multi) l = (r, l')) :
    Issues s p l w (r.map fun _ => ()) l' := by
  obtain ⟨l₁, hwrite, ⟨hnone, rfl⟩ | ⟨o, rfl, rfl⟩⟩ := write_cases hw h
  · rcases r with f | (_ | o)
    · exact .of_error hp hwrite
    · exact .of_none hp hwrite
    · exact absurd rfl (hnone o)
  · exact .of_some hp hwrite (.refl s _)

/-- What handling a row comes to, once the row is counted. -/
inductive Handles (p : Loader σ) (row : Value) (l : Load σ) : Except Fault Unit → Load σ → Prop
  | refused {f : Fault} {l' : Load σ} (hrow : p.config.delivery p.surroundings.room row = .error f)
      (hpass : l.Passes p.surroundings [] l') : Handles p row l (.error f) l'
  | skipped {l' : Load σ} (hrow : p.config.delivery p.surroundings.room row = .ok none)
      (hpass : { l with rowsSkipped := l.rowsSkipped + 1 }.Passes p.surroundings [] l') :
      Handles p row l (.ok ()) l'
  | kept {d : Value} {l' : Load σ}
      (hrow : p.config.delivery p.surroundings.room row = .ok (some (.document d)))
      (hroom : l.buffer.length + 1 < p.config.batchSize)
      (hpass : { l with buffer := l.buffer ++ [d] }.Passes p.surroundings [] l') :
      Handles p row l (.ok ()) l'
  | batched {d : Value} {r : Except Fault Unit} {l' : Load σ}
      (hrow : p.config.delivery p.surroundings.room row = .ok (some (.document d)))
      (hfull : p.config.batchSize ≤ l.buffer.length + 1)
      (hissues : Issues p.surroundings p.config.policy { l with buffer := [] }
        (.insertMany (l.buffer ++ [d])) r l') : Handles p row l r l'
  | changed {query document : Value} {w : Write} {r : Except Fault Unit} {l' : Load σ}
      (hrow : p.config.delivery p.surroundings.room row = .ok (some (.change query document)))
      (hw : Upsert.choose query document p.config.multi = .ok w)
      (hissues : Issues p.surroundings p.config.policy l w r l') : Handles p row l r l'
  /-- A change that replaces a document cannot go to every match. -/
  | unfit {query document : Value} {problem : ConfigProblem} {l' : Load σ}
      (hrow : p.config.delivery p.surroundings.room row = .ok (some (.change query document)))
      (hw : Upsert.choose query document p.config.multi = .error problem)
      (hpass : l.Passes p.surroundings [] l') : Handles p row l (.error (.config problem)) l'

variable {p : Loader σ} {row : Value} {r : Except Fault Unit}

theorem Handles.frame {f : Load σ → β} (h : Handles p row l r l') (hf : Load.Inert f) :
    f l' = f l := by
  cases h with
  | refused _ hpass => exact hpass.frame hf.passing
  | skipped _ hpass => rw [hpass.frame hf.passing, hf.skipping]
  | kept _ _ hpass => rw [hpass.frame hf.passing, hf.buffering]
  | batched _ _ hissues => rw [hissues.frame hf.passing fun l => hf.crediting l _, hf.buffering]
  | changed _ _ hissues => exact hissues.frame hf.passing fun l => hf.crediting l _
  | unfit _ _ hpass => exact hpass.frame hf.passing

/-- It does not matter what was said before. -/
theorem Handles.of_said (hsaid : l₁.Says l) (h : Handles p row l r l') :
    Handles p row l₁ r l' := by
  have hbefore := hsaid.passes p.surroundings
  have hbuffer : l.buffer = l₁.buffer := hsaid.buffer_eq
  cases h with
  | refused hrow hpass => exact .refused hrow (hbefore.trans hpass)
  | skipped hrow hpass =>
    have hskipped := hbefore.map (f := fun l => { l with rowsSkipped := l.rowsSkipped + 1 })
      fun _ _ _ => rfl
    exact .skipped hrow (hskipped.trans hpass)
  | @kept d _ hrow hroom hpass =>
    have hkept := hbefore.map (f := fun l => { l with buffer := l.buffer ++ [d] })
      fun _ _ _ => rfl
    exact .kept hrow (by rwa [← hbuffer]) (hkept.trans hpass)
  | batched hrow hfull hissues =>
    rw [hbuffer] at hfull hissues
    exact .batched hrow hfull (hissues.of_said hsaid.emptied)
  | changed hrow hw hissues => exact .changed hrow hw (hissues.of_said hsaid)
  | unfit hrow hw hpass => exact .unfit hrow hw (hbefore.trans hpass)

namespace Loader

theorem attempts_pos (c : LoadConfig) : 0 < c.policy.attempts := by
  simp only [LoadConfig.policy, Retry.Policy.attempts]
  omega

theorem add_handles {d : Value}
    (hrow : p.config.delivery p.surroundings.room row = .ok (some (.document d)))
    (h : exec (Batch.add p.surroundings p.config.policy p.config.batchSize d) l = (r, l')) :
    Handles p row l r l' := by
  by_cases hfull : p.config.batchSize ≤ l.buffer.length + 1
  · have hsaid := Load.said_remark { l with buffer := [] }
      (e := .logged ⟨.debug, .writes, "Committing a full batch",
        [("batch_size", .int p.config.batchSize)]⟩) rfl
    rw [Batch.exec_add_of_full hfull] at h
    obtain ⟨result, hflush, rfl⟩ := Batch.exec_flush_eq h
    have hissues := Batch.flush_issues (attempts_pos _) (by simp [Load.record]) hflush
    exact .batched hrow hfull (hissues.of_said hsaid)
  · have hroom : l.buffer.length + 1 < p.config.batchSize := by omega
    rw [Batch.exec_add_of_room hroom] at h
    obtain ⟨rfl, rfl⟩ := Prod.mk.inj h
    exact .kept hrow hroom (.refl _ _)

theorem skip_handles {reason : String} (hrow : p.config.delivery p.surroundings.room row = .ok none)
    (h : exec (skip reason) l = (r, l')) : Handles p row l r l' := by
  simp only [skip, exec_bind, exec_modify, exec_get, exec_log, Prod.mk.injEq] at h
  obtain ⟨rfl, rfl⟩ := h
  exact .skipped hrow (Load.passes_remark _ _ rfl)

theorem insertRow_handles (hinsert : p.config.upsert = false)
    (h : exec (insertRow p row) l = (r, l')) : Handles p row l r l' := by
  rcases hdocument : exec (document p.config p.surroundings.room row) l with ⟨r₁, l₁⟩
  obtain ⟨hmap, hsaid⟩ := document_said hdocument
  have hrow := LoadConfig.delivery_insert hinsert p.surroundings.room row
  rw [← hmap] at hrow
  rcases r₁ with f | (_ | d) <;> simp only [insertRow, exec_bind, hdocument] at h
  · obtain ⟨rfl, rfl⟩ := Prod.mk.inj h
    exact .refused hrow (hsaid.passes _)
  · exact (skip_handles hrow h).of_said hsaid
  · exact (add_handles hrow h).of_said hsaid

theorem upsertRow_handles (hupsert : p.config.upsert = true)
    (h : exec (upsertRow p row) l = (r, l')) : Handles p row l r l' := by
  rcases hquery : exec (query p.config row) l with ⟨r₁, l₁⟩
  obtain ⟨hmapped, hsaid⟩ := query_said hquery
  have hrow := LoadConfig.delivery_upsert hupsert p.surroundings.room row
  rw [← hmapped] at hrow
  rcases r₁ with f | (_ | q) <;> simp only [upsertRow, exec_bind, hquery] at h
  · obtain ⟨rfl, rfl⟩ := Prod.mk.inj h
    exact .refused hrow (hsaid.passes _)
  · exact (skip_handles hrow h).of_said hsaid
  · refine Handles.of_said hsaid ?_
    rcases hchange : exec (if p.config.modifierUpdate then modifierUpdate p.config row
      else document p.config p.surroundings.room row) l₁ with ⟨r₂, l₂⟩
    obtain ⟨hmap, hsaid₂⟩ := change_said hchange
    simp only [← hmap] at hrow
    -- What follows the change stands in both branches; here it comes after them.
    obtain ⟨next, hrest, hnone, hsome⟩ : ∃ next : Option Value → Action σ Unit,
        exec ((if p.config.modifierUpdate then modifierUpdate p.config row
          else document p.config p.surroundings.room row) >>= next) l₁ = (r, l') ∧
        next none = skip "Row produced no update" ∧
        ∀ d, next (some d) = (do
          let _ ← Upsert.write p.surroundings p.config.policy q d p.config.multi) := by
      cases hmodifier : p.config.modifierUpdate <;>
        simp only [hmodifier, Bool.false_eq_true, if_true, if_false] at h ⊢ <;>
        exact ⟨_, h, rfl, fun _ => rfl⟩
    rw [exec_bind, hchange] at hrest
    rcases r₂ with f | (_ | d)
    · obtain ⟨rfl, rfl⟩ := Prod.mk.inj hrest
      exact .refused hrow (hsaid₂.passes _)
    · simp only [hnone] at hrest
      exact (skip_handles hrow hrest).of_said hsaid₂
    · simp only [hsome, exec_bind] at hrest
      refine Handles.of_said hsaid₂ ?_
      rcases hw : Upsert.choose q d p.config.multi with problem | w
      · have hthrow : exec (Upsert.write p.surroundings p.config.policy q d p.config.multi) l₂ =
            (.error (.config problem), l₂) := by
          simp [Upsert.write, hw]
        rw [hthrow] at hrest
        obtain ⟨rfl, rfl⟩ := Prod.mk.inj hrest
        exact .unfit hrow hw (.refl _ _)
      · rcases hwrite : exec (Upsert.write p.surroundings p.config.policy q d p.config.multi) l₂
          with ⟨r₃, l₃⟩
        have hissues := Upsert.write_issues (attempts_pos p.config) hw hwrite
        have hresult : (r₃.map fun _ => ()) = r ∧ l₃ = l' := by
          rw [hwrite] at hrest
          rcases r₃ with f | o <;> exact Prod.mk.inj hrest
        obtain ⟨rfl, rfl⟩ := hresult
        exact .changed hrow hw hissues

theorem handleRow_handles (h : exec (handleRow p row) l = (r, l')) :
    Handles p row { l with rowsRead := l.rowsRead + 1 } r l' := by
  cases hupsert : p.config.upsert <;>
    simp only [handleRow, exec_bind, exec_modify, hupsert, Bool.false_eq_true,
      if_true, if_false] at h
  · exact insertRow_handles hupsert h
  · exact upsertRow_handles hupsert h

end Loader

end RowIngest
