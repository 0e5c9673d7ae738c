import RowIngest.Proofs.History
import RowIngest.Run.Loader
/-!
What is done when the first row is there. The row is inspected first, and nothing is asked of
the store for a row that does not pass. Only then is the collection dropped, if that is wanted,
and made sure of.
-/
namespace RowIngest

open RowIngest.Action

variable {σ : Type}

/-- Whether a row has every mapped field. -/
def LoadConfig.inspectFields (c : LoadConfig) : Value → Except Fault Unit
  | .obj row =>
    if c.missingFrom row = [] then .ok () else .error (.missingFields (c.missingFrom row))
  | v => .error (.lacks v "keys")

/-- All the checks that the first row has to pass: those of the mapping, whatever the row, and
then that of its fields. -/
def Loader.inspect (p : Loader σ) (row : Value) : Except Fault Unit :=
  match p.config.checkMapping p.surroundings.acceptsArrays with
  | .error problem => .error (.config problem)
  | .ok _ => p.config.inspectFields row

/-- No row passes a mapping that does not pass its own check. -/
theorem Loader.checked_of_inspect {p : Loader σ} {row : Value} (h : p.inspect row = .ok ()) :
    p.config.checkMapping p.surroundings.acceptsArrays = .ok () := by
  rcases hmapping : p.config.checkMapping p.surroundings.acceptsArrays with problem | ⟨⟩
  · simp [inspect, hmapping] at h
  · rfl

/-- The collection is dropped if that is wanted. -/
def LoadConfig.dropping (c : LoadConfig) : List Event :=
  if c.truncate then [.commanded .drop (.ok ())] else []

/-- The preparation of a load for its first row. -/
inductive Prepares (p : Loader σ) (row : Value) (l : Load σ) : Except Fault Unit → Load σ → Prop
  | refused {f : Fault} {l' : Load σ} (hrow : p.inspect row = .error f)
      (hpass : { l with shape := some p.config.shape }.Passes p.surroundings [] l') :
      Prepares p row l (.error f) l'
  | undropped {f : Fault} {l' : Load σ} (hrow : p.inspect row = .ok ())
      (htruncate : p.config.truncate = true)
      (hpass : { l with shape := some p.config.shape }.Passes p.surroundings
        [.commanded .drop (.error f)] l') : Prepares p row l (.error f) l'
  | unensured {f : Fault} {l' : Load σ} (hrow : p.inspect row = .ok ())
      (hpass : { l with
        shape := some p.config.shape
        truncated := p.config.truncate || l.truncated }.Passes p.surroundings
        (p.config.dropping ++ [Event.commanded .ensureCollection (.error f)]) l') :
      Prepares p row l (.error f) l'
  | prepared {l' : Load σ} (hrow : p.inspect row = .ok ())
      (hpass : { l with
        shape := some p.config.shape
        truncated := p.config.truncate || l.truncated
        phase := .active }.Passes p.surroundings
        (p.config.dropping ++ [Event.commanded .ensureCollection (.ok ())]) l') :
      Prepares p row l (.ok ()) l'

namespace Loader

variable {s : Surroundings σ} {p : Loader σ} {c : LoadConfig} {row : Value} {l l' : Load σ}
  {r : Except Fault Unit}

theorem resolveShape_passes (h : exec (resolveShape c) l = (r, l')) :
    r = .ok () ∧ { l with shape := some c.shape }.Passes s [] l' := by
  by_cases hshape : c.shape = .inconsistent
  · simp only [resolveShape, hshape, if_true, exec_bind, exec_log, exec_modify,
      Prod.mk.injEq] at h
    obtain ⟨rfl, rfl⟩ := h
    rw [hshape]
    exact ⟨rfl, .intro _ _ (.refl s _) (by simp [Load.record, Load.acts, Event.isAct])⟩
  · simp only [resolveShape, hshape, if_false, exec_modify, Prod.mk.injEq] at h
    obtain ⟨rfl, rfl⟩ := h
    exact ⟨rfl, .refl s _⟩

/-- The check of a row changes nothing; at most it says which fields are not mapped. -/
theorem checkRow_cases (c : LoadConfig) (row : Value) (l : Load σ) :
    exec (checkRow c row) l = (c.inspectFields row, l) ∨
      ∃ said, exec (checkRow c row) l = (c.inspectFields row, l.record (.logged said)) := by
  cases row with
  | obj row =>
    by_cases hmissing : c.missingFrom row = []
    · have hpassed : c.inspectFields (.obj row) = .ok () := by
        simp [LoadConfig.inspectFields, hmissing]
      rw [hpassed]
      by_cases hunused : c.unusedIn row = []
      · left
        simp [checkRow, hmissing, hunused]
      · right
        exact ⟨_, by simp [checkRow, hmissing, hunused]; rfl⟩
    · left
      simp [checkRow, hmissing, LoadConfig.inspectFields]
  | _ =>
    left
    rfl

theorem checkRow_passes (h : exec (checkRow c row) l = (r, l')) :
    r = c.inspectFields row ∧ l.Passes s [] l' := by
  rcases checkRow_cases c row l with hexec | ⟨said, hexec⟩ <;>
    obtain ⟨rfl, rfl⟩ := Prod.mk.inj (hexec.symm.trans h)
  · exact ⟨rfl, .refl s l⟩
  · exact ⟨rfl, Load.passes_remark s l rfl⟩

/-- The collection is dropped before it is made sure of, and it is not made sure of if it could
not be dropped. -/
theorem prepareCollection_passes (h : exec (prepareCollection p) l = (r, l')) :
    (p.config.truncate = true ∧ ∃ f, r = .error f ∧
        l.Passes p.surroundings [.commanded .drop (.error f)] l') ∨
      { l with truncated := p.config.truncate || l.truncated }.Passes p.surroundings
        (p.config.dropping ++ [Event.commanded .ensureCollection r]) l' := by
  cases htruncate : p.config.truncate with
  | false =>
    simp only [prepareCollection, htruncate, Bool.false_eq_true, if_false] at h
    right
    simpa [LoadConfig.dropping, htruncate] using (command_passes h).2
  | true =>
    rcases hdrop : exec (Action.command p.surroundings .drop) (l.record (.logged ⟨.info, .rows,
      "Truncating collection", [("collection", .str p.config.collection)]⟩)) with ⟨r₁, l₁⟩
    have hsaid := Load.passes_remark p.surroundings l (e := .logged ⟨.info, .rows,
      "Truncating collection", [("collection", .str p.config.collection)]⟩) rfl
    have hpass := hsaid.trans (command_passes hdrop).2
    simp only [prepareCollection, htruncate, if_true, exec_bind, exec_log, hdrop] at h
    rcases r₁ with f | u
    · obtain ⟨rfl, rfl⟩ := Prod.mk.inj h
      exact Or.inl ⟨rfl, f, rfl, hpass⟩
    · right
      have hdropping : p.config.dropping = [Event.commanded .drop (.ok u)] := by
        simp [LoadConfig.dropping, htruncate]
      rw [hdropping]
      have hdropped := hpass.map (f := fun l => { l with truncated := true }) fun _ _ _ => rfl
      exact hdropped.trans (command_passes h).2

theorem prepare_prepares (h : exec (prepare p row) l = (r, l')) : Prepares p row l r l' := by
  rcases hshape : exec (resolveShape p.config) l with ⟨r₁, l₁⟩
  obtain ⟨rfl, hresolved⟩ := resolveShape_passes (s := p.surroundings) hshape
  simp only [prepare, exec_bind, hshape] at h
  rcases hmapping : p.config.checkMapping p.surroundings.acceptsArrays with problem | ⟨⟩
  · simp only [hmapping, exec_bind, exec_throw, Prod.mk.injEq] at h
    obtain ⟨rfl, rfl⟩ := h
    exact .refused (by simp [inspect, hmapping]) hresolved
  have hinspect : p.inspect row = p.config.inspectFields row := by simp [inspect, hmapping]
  rcases hcheck : exec (checkRow p.config row) l₁ with ⟨r₂, l₂⟩
  obtain ⟨hr₂, hchecked⟩ := checkRow_passes (s := p.surroundings) hcheck
  have hpass := hresolved.trans hchecked
  rw [hr₂.symm] at hinspect
  simp only [hmapping, exec_bind, hcheck] at h
  rcases r₂ with f | ⟨⟩
  · obtain ⟨rfl, rfl⟩ := Prod.mk.inj h
    exact .refused hinspect hpass
  rcases hcollection : exec (prepareCollection p) l₂ with ⟨r₃, l₃⟩
  simp only [hcollection] at h
  rcases prepareCollection_passes hcollection with ⟨htruncate, f, rfl, hdropped⟩ | hensured
  · obtain ⟨rfl, rfl⟩ := Prod.mk.inj h
    exact .undropped hinspect htruncate (hpass.trans hdropped)
  have htruncated := hpass.map (f := fun l =>
    { l with truncated := p.config.truncate || l.truncated }) fun _ _ _ => rfl
  have hmade := htruncated.trans hensured
  rcases r₃ with f | u
  · obtain ⟨rfl, rfl⟩ := Prod.mk.inj h
    exact .unensured hinspect hmade
  · simp only [enterPhase, exec_modify, exec_log, Prod.mk.injEq] at h
    obtain ⟨rfl, rfl⟩ := h
    have hactive := hmade.map (f := fun l => { l with phase := .active }) fun _ _ _ => rfl
    exact .prepared hinspect (by simpa using hactive.trans (Load.passes_remark _ _ rfl))

end Loader

end RowIngest
