import RowIngest.Proofs.Handling
/-!
How a load ends. What waits is written, then the indexes are changed, one request after the
other until one fails, and then the store is closed. A store that is closed already is not
closed again.
-/
namespace RowIngest

open RowIngest.Action

variable {σ : Type} {s : Surroundings σ} {p : Loader σ} {l l' : Load σ}

/-- The request that a change of an index makes, with its result. -/
def IndexChange.request (spec : IndexChange) (r : Except Fault String) : Event :=
  if spec.drop then .commanded (.dropIndex spec.keys) (r.map fun _ => ())
  else .indexed ⟨spec.keys, spec.unique, spec.sparse, true⟩ r

theorem IndexChange.isIndexing_request (spec : IndexChange) (r : Except Fault String) :
    (spec.request r).isIndexing = true := by
  cases hdrop : spec.drop <;> simp [request, hdrop, Event.isIndexing]

namespace Indexing

/-- The requests for changes of indexes, in order up to the first one that fails. Nothing is
dropped from a collection that was dropped itself. -/
inductive Requests (truncated : Bool) :
    List IndexChange → List Event → Except Fault Unit → Prop
  | done : Requests truncated [] [] (.ok ())
  | spared {spec : IndexChange} {specs : List IndexChange} {es : List Event}
      {r : Except Fault Unit} (hspec : (spec.drop && truncated) = true)
      (hrest : Requests truncated specs es r) : Requests truncated (spec :: specs) es r
  | answered {spec : IndexChange} {specs : List IndexChange} {es : List Event}
      {r : Except Fault Unit} {name : String} (hspec : (spec.drop && truncated) = false)
      (hrest : Requests truncated specs es r) :
      Requests truncated (spec :: specs) (spec.request (.ok name) :: es) r
  | failed {spec : IndexChange} {specs : List IndexChange} {f : Fault}
      (hspec : (spec.drop && truncated) = false) :
      Requests truncated (spec :: specs) [spec.request (.error f)] (.error f)

/-- Changes of indexes are all refused or else requested. -/
inductive Applies (truncated : Bool) (specs : List IndexChange) :
    List Event → Except Fault Unit → Prop
  | refused {spec : IndexChange} (hspec : spec ∈ specs) (hcover : isCoverable spec = false) :
      Applies truncated specs [] (.error (.config (.sparseKeys spec.keys)))
  | requested {es : List Event} {r : Except Fault Unit}
      (hrequests : Requests truncated specs es r) : Applies truncated specs es r

variable {truncated : Bool} {made : List String} {r : Except Fault (List String)}

/-- Requests for indexes are no writes. -/
theorem Applies.isIndexing {specs : List IndexChange} {es : List Event} {r : Except Fault Unit}
    (h : Applies truncated specs es r) : ∀ e ∈ es, e.isIndexing = true := by
  cases h with
  | refused _ _ => simp
  | requested hrequests =>
    induction hrequests with
    | done => simp
    | spared _ _ ih => exact ih
    | @answered spec _ _ _ name _ _ ih =>
      intro e he
      rcases List.mem_cons.mp he with rfl | he
      · exact spec.isIndexing_request _
      · exact ih e he
    | @failed spec _ _ _ =>
      intro e he
      rw [List.mem_singleton.mp he]
      exact spec.isIndexing_request _

theorem applyOne_passes {spec : IndexChange}
    (h : exec (applyOne s truncated made spec) l = (r, l')) :
    ((spec.drop && truncated) = true ∧ r = .ok made ∧ l.Passes s [] l') ∨
      (spec.drop && truncated) = false ∧ ∃ result,
        r.map (fun _ => ()) = result.map (fun _ => ()) ∧ l.Passes s [spec.request result] l' := by
  cases hdrop : spec.drop with
  | true =>
    cases truncated with
    | true =>
      simp [applyOne, hdrop] at h
      obtain ⟨rfl, rfl⟩ := h
      exact Or.inl ⟨rfl, rfl, Load.passes_remark s l rfl⟩
    | false =>
      have hsaid := Load.passes_remark s l (e := .logged ⟨.info, .indexes, "Dropping index",
        [("keys", spec.keys.value)]⟩) rfl
      rcases hcommand : exec (Action.command s (.dropIndex spec.keys)) (l.record
        (.logged ⟨.info, .indexes, "Dropping index", [("keys", spec.keys.value)]⟩)) with ⟨r₁, l₁⟩
      have hpass := hsaid.trans (command_passes hcommand).2
      simp only [applyOne, hdrop, Bool.false_eq_true, if_true, if_false, exec_bind, exec_log,
        hcommand] at h
      refine Or.inr ⟨rfl, ?_⟩
      rcases r₁ with f | u <;> obtain ⟨rfl, rfl⟩ := Prod.mk.inj h
      · exact ⟨.error f, rfl, by simpa [IndexChange.request, hdrop, Except.map] using hpass⟩
      · exact ⟨.ok "", rfl, by simpa [IndexChange.request, hdrop, Except.map] using hpass⟩
  | false =>
    have hsaid := Load.passes_remark s l (e := .logged ⟨.info, .indexes, "Creating index",
      [("keys", spec.keys.value), ("unique", .bool spec.unique),
        ("sparse", .bool spec.sparse)]⟩) rfl
    rcases hcreate : exec (Action.createIndex s ⟨spec.keys, spec.unique, spec.sparse, true⟩)
      (l.record (.logged ⟨.info, .indexes, "Creating index", [("keys", spec.keys.value),
        ("unique", .bool spec.unique), ("sparse", .bool spec.sparse)]⟩)) with ⟨r₁, l₁⟩
    have hpass := hsaid.trans (createIndex_passes hcreate).2
    simp only [applyOne, hdrop, Bool.false_eq_true, if_false, exec_bind, exec_log,
      hcreate] at h
    refine Or.inr ⟨rfl, r₁, ?_⟩
    rcases r₁ with f | name <;> obtain ⟨rfl, rfl⟩ := Prod.mk.inj h
    · exact ⟨rfl, by simpa [IndexChange.request, hdrop] using hpass⟩
    · exact ⟨rfl, by simpa [IndexChange.request, hdrop] using hpass⟩

theorem foldlM_requests {specs : List IndexChange}
    (h : exec (specs.foldlM (applyOne s truncated) made) l = (r, l')) :
    ∃ es, Requests truncated specs es (r.map fun _ => ()) ∧ l.Passes s es l' := by
  induction specs generalizing made l with
  | nil =>
    obtain ⟨rfl, rfl⟩ := Prod.mk.inj h
    exact ⟨[], .done, .refl s l⟩
  | cons spec specs ih =>
    rcases hone : exec (applyOne s truncated made spec) l with ⟨r₁, l₁⟩
    rw [List.foldlM_cons, exec_bind, hone] at h
    rcases applyOne_passes hone with ⟨hspec, rfl, hpass⟩ | ⟨hspec, result, hresult, hpass⟩
    · obtain ⟨es, hrequests, hrest⟩ := ih h
      exact ⟨es, .spared hspec hrequests, hpass.trans hrest⟩
    · rcases r₁ with f | names <;> rcases result with g | name <;>
        simp only [Except.map, reduceCtorEq, Except.error.injEq] at hresult
      · subst hresult
        obtain ⟨rfl, rfl⟩ := Prod.mk.inj h
        exact ⟨_, .failed hspec, hpass⟩
      · obtain ⟨es, hrequests, hrest⟩ := ih h
        exact ⟨_, .answered hspec hrequests, hpass.trans hrest⟩

theorem apply_applies {specs : List IndexChange}
    (h : exec (apply s truncated specs) l = (r, l')) :
    ∃ es, Applies truncated specs es (r.map fun _ => ()) ∧ l.Passes s es l' := by
  rcases hfind : specs.find? (!isCoverable ·) with _ | spec <;> simp only [apply, hfind] at h
  · obtain ⟨es, hrequests, hpass⟩ := foldlM_requests h
    exact ⟨es, .requested hrequests, hpass⟩
  · obtain ⟨rfl, rfl⟩ := Prod.mk.inj h
    have hcover : isCoverable spec = false := by simpa using List.find?_some hfind
    exact ⟨[], .refused (List.mem_of_find?_eq_some hfind) hcover, .refl s l⟩

end Indexing

/-- The store is closed unless that was done before. -/
inductive Closes (p : Loader σ) (l : Load σ) : Except Fault Unit → Load σ → Prop
  | already (hphase : l.phase = .terminated) : Closes p l (.ok ()) l
  | closed {r : Except Fault Unit} {l' : Load σ} (hphase : l.phase ≠ .terminated)
      (hpass : { l with phase := .terminated }.Passes p.surroundings [.commanded .close r] l') :
      Closes p l r l'

/-- Documents that wait are written, if there are any. -/
inductive Drains (p : Loader σ) (l : Load σ) : Except Fault Unit → Load σ → Prop
  | empty (hbuffer : l.buffer = []) : Drains p l (.ok ()) l
  | flushed {r : Except Fault Unit} {l' : Load σ} (hbuffer : l.buffer ≠ [])
      (hissues : Issues p.surroundings p.config.policy { l with buffer := [] }
        (.insertMany l.buffer) r l') : Drains p l r l'

theorem Drains.frame {β : Type} {f : Load σ → β} {r : Except Fault Unit} (h : Drains p l r l')
    (hf : Load.Inert f) : f l' = f l := by
  cases h with
  | empty _ => rfl
  | flushed _ hissues => rw [hissues.frame hf.passing fun l => hf.crediting l _, hf.buffering]

/-- What the end of the rows comes to. -/
inductive Finishes (p : Loader σ) (l : Load σ) : Except Fault Unit → Load σ → Prop
  | undrained {f : Fault} {l' : Load σ}
      (hdrains : Drains p { l with phase := .draining } (.error f) l') :
      Finishes p l (.error f) l'
  | unindexed {l₁ l' : Load σ} {es : List Event} {f : Fault}
      (hdrains : Drains p { l with phase := .draining } (.ok ()) l₁)
      (happlies : Indexing.Applies l₁.truncated p.config.indexes es (.error f))
      (hpass : l₁.Passes p.surroundings es l') : Finishes p l (.error f) l'
  | closed {l₁ l' : Load σ} {es : List Event} {r : Except Fault Unit}
      (hdrains : Drains p { l with phase := .draining } (.ok ()) l₁)
      (happlies : Indexing.Applies l₁.truncated p.config.indexes es (.ok ()))
      (hpass : { l₁ with phase := .terminated }.Passes p.surroundings
        (es ++ [Event.commanded .close r]) l') : Finishes p l r l'

namespace Loader

variable {r : Except Fault Unit}

theorem closeStore_closes (h : exec (closeStore p) l = (r, l')) : Closes p l r l' := by
  by_cases hphase : l.phase = .terminated
  · simp only [closeStore, exec_bind, exec_get, hphase, ne_eq, not_true_eq_false, if_false,
      exec_pure, Prod.mk.injEq] at h
    obtain ⟨rfl, rfl⟩ := h
    exact .already hphase
  · simp only [closeStore, enterPhase, exec_bind, exec_get, exec_modify, ne_eq, hphase,
      not_false_eq_true, if_true] at h
    exact .closed hphase (command_passes h).2

/-- The end of a load once all requests for writes and indexes have been made. -/
def conclude (p : Loader σ) : Action σ Unit := do
  closeStore p
  Action.log .info .rows "Pipeline finished" (← get).stats.toFields

/-- The end of a load once nothing waits to be written. -/
def wrapUp (p : Loader σ) : Action σ Unit := do
  if !p.config.indexes.isEmpty then
    Action.log .info .rows "Applying indexes" [("count", .int p.config.indexes.length)]
    let _ ← Indexing.apply p.surroundings (← get).truncated p.config.indexes
  conclude p

theorem conclude_closes (hphase : l.phase ≠ .terminated)
    (h : exec (conclude p) l = (r, l')) :
    { l with phase := .terminated }.Passes p.surroundings [.commanded .close r] l' := by
  rcases hclose : exec (closeStore p) l with ⟨r₁, l₁⟩
  rw [conclude, exec_bind, hclose] at h
  have hpass : { l with phase := .terminated }.Passes p.surroundings
      [.commanded .close r₁] l₁ := by
    cases closeStore_closes hclose with
    | already hterminated => exact absurd hterminated hphase
    | closed _ hpass => exact hpass
  rcases r₁ with f | u
  · obtain ⟨rfl, rfl⟩ := Prod.mk.inj h
    exact hpass
  · simp only [exec_bind, exec_get, exec_log, Prod.mk.injEq] at h
    obtain ⟨rfl, rfl⟩ := h
    exact hpass.trans (Load.passes_remark _ _ rfl)

theorem wrapUp_applies (hphase : l.phase ≠ .terminated) (h : exec (wrapUp p) l = (r, l')) :
    (∃ es f, r = .error f ∧ Indexing.Applies l.truncated p.config.indexes es (.error f) ∧
        l.Passes p.surroundings es l') ∨
      ∃ es, Indexing.Applies l.truncated p.config.indexes es (.ok ()) ∧
        { l with phase := .terminated }.Passes p.surroundings
          (es ++ [Event.commanded .close r]) l' := by
  by_cases hindexes : p.config.indexes = []
  · simp only [wrapUp, hindexes, List.isEmpty_nil, Bool.not_true, Bool.false_eq_true,
      if_false] at h
    refine Or.inr ⟨[], ?_, conclude_closes hphase h⟩
    rw [hindexes]
    exact .requested .done
  · have hsaid := Load.passes_remark p.surroundings l (e := .logged ⟨.info, .rows,
      "Applying indexes", [("count", .int p.config.indexes.length)]⟩) rfl
    rcases happly : exec (Indexing.apply p.surroundings l.truncated p.config.indexes)
      (l.record (.logged ⟨.info, .rows, "Applying indexes",
        [("count", .int p.config.indexes.length)]⟩)) with ⟨r₁, l₁⟩
    obtain ⟨es, happlies, hpass⟩ := Indexing.apply_applies happly
    replace hpass := hsaid.trans hpass
    have hsome : (!p.config.indexes.isEmpty) = true := by simpa using hindexes
    have htruncated : ∀ e, (l.record e).truncated = l.truncated := fun _ => rfl
    simp only [wrapUp, hsome, if_true, exec_bind, exec_log, exec_get, htruncated, happly] at h
    rcases r₁ with f | names
    · obtain ⟨rfl, rfl⟩ := Prod.mk.inj h
      exact Or.inl ⟨es, f, rfl, happlies, hpass⟩
    · have hphase₁ : l₁.phase ≠ .terminated := by
        obtain ⟨x, a, -, -⟩ := hpass
        exact hphase
      have hterminated := hpass.map (f := fun l => { l with phase := .terminated }) fun _ _ _ => rfl
      exact Or.inr ⟨es, happlies, hterminated.trans (conclude_closes hphase₁ h)⟩

theorem finish_finishes (h : exec (finish p) l = (r, l')) : Finishes p l r l' := by
  have hfinish : finish p = (do
      enterPhase .draining
      if !(← get).buffer.isEmpty then
        let _ ← Batch.flush p.surroundings p.config.policy
      wrapUp p) := rfl
  simp only [hfinish, enterPhase, exec_bind, exec_modify, exec_get] at h
  -- Once nothing waits, in whatever way, the rest is the same.
  have hrest : ∀ {l₁ : Load σ}, Drains p { l with phase := .draining } (.ok ()) l₁ →
      exec (wrapUp p) l₁ = (r, l') → Finishes p l r l' := by
    intro l₁ hdrains h
    have hphase : l₁.phase ≠ .terminated := by simp [hdrains.frame Load.inert_phase]
    rcases wrapUp_applies hphase h with ⟨es, f, rfl, happlies, hpass⟩ | ⟨es, happlies, hpass⟩
    · exact .unindexed hdrains happlies hpass
    · exact .closed hdrains happlies hpass
  by_cases hbuffer : l.buffer = []
  · simp only [hbuffer, List.isEmpty_nil, Bool.not_true, Bool.false_eq_true, if_false] at h
    exact hrest (.empty hbuffer) (by simpa [hbuffer] using h)
  · have hsome : (!l.buffer.isEmpty) = true := by simpa using hbuffer
    rcases hflush : exec (Batch.flush p.surroundings p.config.policy)
      { l with phase := .draining } with ⟨r₁, l₁⟩
    have hissues := Batch.flush_issues (l := { l with phase := .draining })
      (attempts_pos p.config) hbuffer hflush
    simp only [hsome, if_true, exec_bind, hflush] at h
    rcases r₁ with f | outcome
    · obtain ⟨rfl, rfl⟩ := Prod.mk.inj h
      exact .undrained (.flushed hbuffer hissues)
    · exact hrest (.flushed hbuffer hissues) h

end Loader

end RowIngest
