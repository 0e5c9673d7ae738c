import RowIngest.Config
/-!
What is known of a load configuration that was accepted: its numbers are in range, and the
kinds of writes that it asks for fit together.
-/
namespace RowIngest

namespace Checked

variable {α β : Type}

theorem map_eq_valid {g : α → β} {x : Checked α} {b : β} :
    g <$> x = .valid b ↔ ∃ a, x = .valid a ∧ g a = b := by
  cases x <;> simp [Functor.map, map]

theorem seq_eq_valid {g : Checked (α → β)} {x : Checked α} {b : β} :
    g <*> x = .valid b ↔ ∃ f a, g = .valid f ∧ x = .valid a ∧ f a = b := by
  cases g <;> cases x <;> simp [Seq.seq, both, map]

theorem andThen_eq_valid {x : Checked α} {next : α → Checked β} {b : β} :
    x.andThen next = .valid b ↔ ∃ a, x = .valid a ∧ next a = .valid b := by
  cases x <;> simp [andThen]

theorem within_eq_valid {x : Checked α} {place : Check.Place} {a : α} :
    x.within place = .valid a ↔ x = .valid a := by
  cases x <;> simp [within]

end Checked

namespace Check

theorem le_of_natAtLeast {bound n : Nat} {v : Value} (h : natAtLeast bound v = .valid n) :
    bound ≤ n := by
  obtain ⟨i, -, hi⟩ := Checked.andThen_eq_valid.mp h
  split at hi
  · simp [Checked.issue] at hi
  · cases hi
    omega

/-- An optional value is the one that stands for a missing one, or it has passed its check. -/
theorem eq_or_of_optional {α : Type} {fs : Fields} {name : String} {fallback a : α}
    {check : Value → Checked α} (h : optional fs name fallback check = .valid a) :
    a = fallback ∨ ∃ v, check v = .valid a := by
  rw [optional, Checked.within_eq_valid] at h
  rcases hget : Fields.get? fs name with _ | v <;> rw [hget] at h
  · left
    cases h
    rfl
  · exact Or.inr ⟨v, h⟩

end Check

namespace LoadConfig

variable {fs : Fields} {c : LoadConfig}

theorem batchSize_pos_of_checkFields (h : checkFields fs = .valid c) : 0 < c.batchSize := by
  simp only [checkFields, Checked.seq_eq_valid, Checked.map_eq_valid] at h
  obtain ⟨_, _, ⟨_, _, ⟨_, _, ⟨_, _, ⟨_, _, ⟨_, _, ⟨_, _, ⟨_, _, ⟨_, size, ⟨_, _, ⟨_, _, rfl⟩, _,
    rfl⟩, hsize, rfl⟩, _, rfl⟩, _, rfl⟩, _, rfl⟩, _, rfl⟩, _, rfl⟩, _, rfl⟩, _, rfl⟩, _, rfl⟩ := h
  rcases Check.eq_or_of_optional hsize with rfl | ⟨v, hv⟩
  · exact (by decide : 0 < defaultBatchSize)
  · exact Check.le_of_natAtLeast hv

/-- What is built from loosely typed values has passed the checks and is accepted as it is. -/
theorem valid_of_ofFields (h : ofFields fs = .ok c) :
    checkFields fs = .valid c ∧ c.accept = .ok c := by
  unfold ofFields at h
  split at h
  · cases h
  · split at h
    · cases h
    · rcases hcheck : checkFields fs with d | is | f <;> simp only [hcheck] at h
      · rcases haccept : d.accept with problem | d' <;> rw [haccept] at h
        · change Except.error (Fault.config problem) = .ok c at h
          cases h
        · have hsame : d = d' := (accept_eq_ok_iff.mp haccept).1
          have hbuilt : d' = c := Except.ok.inj h
          rw [← hbuilt, ← hsame]
          exact ⟨rfl, haccept.trans (congrArg Except.ok hsame.symm)⟩
      · cases h
      · cases h

/-- An upsert changes every match only if it is a modifier update. -/
theorem not_multi_of_ofFields (h : ofFields fs = .ok c) (hupsert : c.upsert = true)
    (hmodifier : c.modifierUpdate = false) : c.multi = false := by
  obtain ⟨-, hfits, -⟩ := accept_eq_ok_iff.mp (valid_of_ofFields h).2
  simpa [hupsert, hmodifier] using hfits

theorem batchSize_pos (h : ofFields fs = .ok c) : 0 < c.batchSize :=
  batchSize_pos_of_checkFields (valid_of_ofFields h).1

end LoadConfig

end RowIngest
