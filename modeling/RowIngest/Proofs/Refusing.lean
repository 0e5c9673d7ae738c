import RowIngest.Proofs.Conversation
import RowIngest.Proofs.Counting
import RowIngest.Proofs.Faulting
/-!
When a configuration is refused. All that can be wrong with it shows when the first row is
inspected, except for the indexes, which are asked for after the last row. A later fault is one of
a row, of the clock or of the store. Main statement: if all indexes can be made, a run that ends
with a fault of the configuration has asked the store for nothing but to be closed.
-/
namespace RowIngest

open RowIngest.Action Rehearsal

variable {σ : Type} {s : Surroundings σ} {p : Loader σ} {rows : List Value} {l l' l₁ : Load σ}
  {f g : Fault} {es : List Event}

/-- The fault that a request of the store ended with, if it failed. -/
def Event.fault? : Event → Option Fault
  | .wrote _ (.error f) | .indexed _ (.error f) | .commanded _ (.error f) => some f
  | _ => none

theorem Event.isCall_of_fault? {e : Event} (h : e.fault? = some f) : e.isCall = true := by
  cases e <;> simp_all [fault?, isCall]

/-- The configuration is not to blame for a fault: it is of another kind, or one of these acts was
a request that ended with it. -/
def Excuses (es : List Event) (f : Fault) : Prop :=
  f.isConfiguration = false ∨ ∃ e ∈ es, e.fault? = some f

theorem Excuses.of_mem {e : Event} (he : e ∈ es) (hfault : e.fault? = some f) : Excuses es f :=
  Or.inr ⟨e, he, hfault⟩

theorem Excuses.mono {es' : List Event} (h : Excuses es f) (hsub : es ⊆ es') : Excuses es' f :=
  h.imp_right fun ⟨e, he, hfault⟩ => ⟨e, hsub he, hfault⟩

/-- A fault of the configuration is excused by a request that ended with it. -/
theorem Excuses.call (h : Excuses l.acts f) (hf : f.isConfiguration = true) :
    ∃ e ∈ l.calls, e.fault? = some f := by
  rcases h with hother | ⟨e, he, hfault⟩
  · rw [hf] at hother
    cases hother
  · rw [Load.calls_eq]
    exact ⟨e, List.mem_filter.mpr ⟨he, Event.isCall_of_fault? hfault⟩, hfault⟩

/-- Among the acts of a passage was a request that ended with the fault. -/
theorem Load.Passes.excuses {e : Event} (h : l.Passes s es l') (he : e ∈ es)
    (hfault : e.fault? = some f) : Excuses l'.acts f := by
  rw [h.acts_eq]
  exact .of_mem (List.mem_append_right _ he) hfault

theorem Retry.Series.excuses {policy : Policy} {w : Write} {made : Nat}
    (h : Series policy w made es (.error f)) : Excuses es f := by
  generalize hr : (.error f : Except Fault (Option Outcome)) = r at h
  induction h with
  | accepted _ => cases hr
  | broken _ =>
    cases hr
    exact .of_mem List.mem_cons_self rfl
  | again _ _ ih => exact (ih hr).mono fun e he => by simp [he]
  | _ =>
    cases hr
    exact Or.inl rfl

theorem Issues.excuses {policy : Retry.Policy} {w : Write}
    (h : Issues s policy l w (.error f) l') : Excuses l'.acts f := by
  cases h with
  | failed hseries hpass =>
    rw [hpass.acts_eq]
    exact hseries.excuses.mono (List.subset_append_right _ _)

/-- Once the mapping has passed its check, the configuration is not to blame for what becomes of a
row. -/
theorem Handles.excuses {fs : Fields} {row : Value} (h : Handles p row l (.error f) l')
    (hconfig : LoadConfig.ofFields fs = .ok p.config)
    (hmapping : p.config.checkMapping p.surroundings.acceptsArrays = .ok ()) :
    Excuses l'.acts f := by
  cases h with
  | refused hrow _ => exact Or.inl (LoadConfig.not_configuration_of_delivery hmapping hrow)
  | batched _ _ hissues => exact hissues.excuses
  | changed _ _ hissues => exact hissues.excuses
  | unfit hrow hw _ =>
    obtain ⟨w, hchosen⟩ := LoadConfig.exists_choose hconfig hrow
    rw [hw] at hchosen
    cases hchosen

theorem IndexChange.fault?_request (spec : IndexChange) (f : Fault) :
    (spec.request (.error f)).fault? = some f := by
  cases hdrop : spec.drop <;> simp [request, hdrop, Event.fault?, Except.map]

theorem Indexing.Requests.excuses {truncated : Bool} {specs : List IndexChange}
    (h : Requests truncated specs es (.error f)) : Excuses es f := by
  generalize hr : (.error f : Except Fault Unit) = r at h
  induction h with
  | done => cases hr
  | spared _ _ ih => exact ih hr
  | answered _ _ ih => exact (ih hr).mono (List.subset_cons_self _ _)
  | @failed spec _ _ _ =>
    cases hr
    exact .of_mem List.mem_cons_self (spec.fault?_request f)

/-- A fault that says that one of the indexes cannot be made. -/
def LoadConfig.Uncoverable (c : LoadConfig) (f : Fault) : Prop :=
  ∃ spec ∈ c.indexes, Indexing.isCoverable spec = false ∧ f = .config (.sparseKeys spec.keys)

theorem LoadConfig.not_uncoverable {c : LoadConfig}
    (hindexes : ∀ spec ∈ c.indexes, Indexing.isCoverable spec) : ¬ c.Uncoverable f := by
  rintro ⟨spec, hspec, hcover, -⟩
  rw [hindexes spec hspec] at hcover
  cases hcover

/-- A fault that a row is inspected with. -/
def Loader.Refuses (p : Loader σ) (f : Fault) : Prop := ∃ row, p.inspect row = .error f

/-- Indexes are refused by the store, or because one of them cannot be made. -/
theorem Indexing.Applies.blames {c : LoadConfig} {truncated : Bool}
    (h : Applies truncated c.indexes es (.error f)) : Excuses es f ∨ c.Uncoverable f := by
  cases h with
  | refused hspec hcover => exact Or.inr ⟨_, hspec, hcover, rfl⟩
  | requested hrequests => exact Or.inl hrequests.excuses

theorem Finishes.blames (h : Finishes p l (.error f) l') :
    Excuses l'.acts f ∨ p.config.Uncoverable f := by
  cases h with
  | undrained hdrains =>
    cases hdrains with
    | flushed _ hissues => exact Or.inl hissues.excuses
  | unindexed _ happlies hpass =>
    rw [hpass.acts_eq]
    exact happlies.blames.imp_left (·.mono (List.subset_append_right _ _))
  | closed _ _ hpass =>
    exact Or.inl (hpass.excuses (List.mem_append_right _ List.mem_cons_self) rfl)

/-- A collection that cannot be opened is refused by the store, unless the row was refused before
anything was asked of it. -/
theorem Opens.blames {row : Value} (h : Opens p row l (.error f) l') :
    Excuses l'.acts f ∨ p.Refuses f ∧ l'.acts = l.acts ∧ l.phase = .uninitialized ∧
      l'.phase = l.phase := by
  cases h with
  | prepares hphase hprepares =>
    cases hprepares with
    | refused hrow hpass =>
      have hacts : l'.acts = l.acts ++ [] := hpass.acts_eq
      exact Or.inr ⟨⟨row, hrow⟩, by simpa using hacts, hphase, hpass.phase_eq⟩
    | undropped _ _ hpass => exact Or.inl (hpass.excuses List.mem_cons_self rfl)
    | unensured _ hpass =>
      exact Or.inl (hpass.excuses (List.mem_append_right _ List.mem_cons_self) rfl)

/-- A load that has asked its store for nothing. -/
structure Untouched (l : Load σ) : Prop where
  calls : l.calls = []
  running : l.phase ≠ .terminated

theorem Between.checked_of_opens {row : Value} {l₂ : Load σ} (h : Between p rows l)
    (hpulls : Pulls p l (some row) l₁) (hopens : Opens p row l₁ (.ok ()) l₂) :
    p.config.checkMapping p.surroundings.acceptsArrays = .ok () := by
  cases h with
  | fresh hphase _ _ _ _ => exact hopens.checked (hpulls.spares.2.2.1.trans hphase)
  | active hengaged =>
    obtain ⟨first, hrow⟩ := hengaged.underway.passed
    exact Loader.checked_of_inspect hrow

section

variable {fs : Fields} (hconfig : LoadConfig.ofFields fs = .ok p.config)

include hconfig

/-- A step that fails is excused, or it is for an index that cannot be made, or it is the first one
and refuses its row. -/
theorem Steps.blames (h : Steps p l (.error f) l') (hbetween : Between p rows l) :
    Excuses l'.acts f ∨ p.config.Uncoverable f ∨ p.Refuses f ∧ Untouched l' := by
  cases h with
  | unstopped _ hpass => exact Or.inl (hpass.excuses List.mem_cons_self rfl)
  | unended _ hfinishes hafter =>
    rw [hafter.acts_eq, List.append_nil]
    exact hfinishes.blames.imp_right Or.inl
  | unopened hpulls hopens hafter =>
    rcases hopens.blames with hexcused | ⟨hrefused, hacts, hphase, hsame⟩
    · rw [hafter.acts_eq, List.append_nil]
      exact Or.inl hexcused
    · -- Only the first row is inspected, and nothing was asked of the store before it.
      cases hbetween with
      | active hengaged =>
        rw [hpulls.spares.2.2.1, hengaged.phase] at hphase
        cases hphase
      | fresh _ hnone _ _ _ =>
        refine Or.inr (Or.inr ⟨hrefused, ?_, ?_⟩)
        · rw [Load.calls_eq, hafter.acts_eq, hacts, hpulls.acts_eq, hnone]
          rfl
        · rw [hafter.phase_eq, hsame, hphase]
          simp
  | unhandled hpulls hopens hhandles hafter =>
    rw [hafter.acts_eq, List.append_nil]
    exact Or.inl (hhandles.excuses hconfig (hbetween.checked_of_opens hpulls hopens))

/-- A call that fails is excused, or it is for an index that cannot be made, or a row was refused
and all that was asked of the store is to be closed. -/
theorem Advances.blames (h : Advances p l (.error g) l') (hbetween : Between p rows l) :
    Excuses l'.acts g ∨ p.config.Uncoverable g ∨
      p.Refuses g ∧ l'.calls = [.commanded .close (.ok ())] := by
  cases h with
  | @failed f _ r l₁ _ _ hsteps hcloses hfault =>
    cases hcloses with
    | already hterminated =>
      obtain rfl : f = g := Except.error.inj hfault
      exact (hsteps.blames hconfig hbetween).imp_right (Or.imp_right fun ⟨_, huntouched⟩ =>
        absurd hterminated huntouched.running)
    | closed _ hpass =>
      cases r with
      | error f' =>
        -- A closing that fails takes the place of the fault that led to it.
        obtain rfl : f' = g := Except.error.inj hfault
        exact Or.inl (hpass.excuses List.mem_cons_self rfl)
      | ok _ =>
        obtain rfl : f = g := Except.error.inj hfault
        rw [hpass.acts_eq]
        refine (hsteps.blames hconfig hbetween).imp (·.mono (List.subset_append_left _ _))
          (Or.imp_right fun ⟨hrefused, huntouched⟩ => ⟨hrefused, ?_⟩)
        have hcalls : l'.calls = l₁.calls ++ [.commanded .close (.ok ())] := hpass.calls_eq
        rwa [huntouched.calls] at hcalls

theorem Advances.excuses (hindexes : ∀ spec ∈ p.config.indexes, Indexing.isCoverable spec)
    (h : Advances p l (.error g) l') (hbetween : Between p rows l) :
    Excuses l'.acts g ∨ l'.calls = [.commanded .close (.ok ())] := by
  rcases h.blames hconfig hbetween with hexcused | huncoverable | ⟨-, hcalls⟩
  · exact Or.inl hexcused
  · exact absurd huncoverable (LoadConfig.not_uncoverable hindexes)
  · exact Or.inr hcalls

end

namespace Rehearsal

/-- Settings of a load that asks for a sparse index of two fields in the end. -/
def sparseSettings : Fields :=
  batchSettings 1 ++
    [("indexes", .list [.obj [("sparse", .bool true),
      ("fields", .list [.obj [("path", .str "a")], .obj [("path", .str "b")]])]])]

/-- What the settings are read as. -/
def sparseConfig : LoadConfig :=
  { batchConfig 1 with indexes := [⟨[("a", 1), ("b", 1)], false, true, false⟩] }

def sparseLoader : Loader ScriptedStore where
  config := sparseConfig
  surroundings := ScriptedStore.surroundings false
  ownScope := false

end Rehearsal

namespace Loader

variable {fs : Fields}

/-- A run that ends with a fault of the configuration, which none of its requests ended with, has
left the store untouched: it was asked for nothing but to be closed. -/
theorem run_refused_untouched (hconfig : LoadConfig.ofFields fs = .ok p.config)
    (hindexes : ∀ spec ∈ p.config.indexes, Indexing.isCoverable spec = true) {x : σ}
    {rows : List Value} (hrun : (exec (run p) (Load.begin x rows)).1 = .error f)
    (hf : f.isConfiguration = true)
    (hstore : ∀ e ∈ (exec (run p) (Load.begin x rows)).2.calls, ∀ g, e.fault? = some g →
      g.isConfiguration = false) :
    (exec (run p) (Load.begin x rows)).2.calls = [.commanded .close (.ok ())] := by
  obtain ⟨n, htrue, -, hended⟩ := run_eq p (Load.begin x rows)
  rw [hended] at hrun hstore ⊢
  have hbetween := between_after p x rows htrue
  have hadvances := p.after_advances (Load.begin x rows) n
  have hanswer : p.answer (Load.begin x rows) n = .error f := by
    rcases hlast : p.answer (Load.begin x rows) n with g | more <;> rw [hlast] at hrun
    · obtain rfl : g = f := Except.error.inj hrun
      rfl
    · cases hrun
  rw [hanswer] at hadvances
  rcases hadvances.excuses hconfig hindexes hbetween with (hother | ⟨e, he, hfault⟩) | hcalls
  · rw [hf] at hother
    cases hother
  · have hcall : e ∈ (p.after (Load.begin x rows) (n + 1)).calls := by
      rw [Load.calls_eq]
      exact List.mem_filter.mpr ⟨he, Event.isCall_of_fault? hfault⟩
    have hother := hstore e hcall f hfault
    rw [hf] at hother
    cases hother
  · exact hcalls

/-- A row without the mapped field. -/
theorem run_refused_untouched_missing_field :
    LoadConfig.ofFields (batchSettings 1) = .ok (batchLoader 1).config ∧
    (∀ spec ∈ (batchLoader 1).config.indexes, Indexing.isCoverable spec = true) ∧
    (exec (run (batchLoader 1)) (Load.begin willingStore [.obj []])).1 =
      .error (.missingFields ["id"]) ∧
    (Fault.missingFields ["id"]).isConfiguration = true ∧
    (∀ e ∈ (exec (run (batchLoader 1)) (Load.begin willingStore [.obj []])).2.calls,
      ∀ g, e.fault? = some g → g.isConfiguration = false) ∧
    (exec (run (batchLoader 1)) (Load.begin willingStore [.obj []])).2.calls =
      [.commanded .close (.ok ())] := by
  have hconfig : LoadConfig.ofFields (batchSettings 1) = .ok (batchLoader 1).config := rfl
  have hindexes : ∀ spec ∈ (batchLoader 1).config.indexes, Indexing.isCoverable spec = true := by
    intro spec hspec
    cases hspec
  have hrun : (exec (run (batchLoader 1)) (Load.begin willingStore [.obj []])).1 =
      .error (.missingFields ["id"]) := by
    with_unfolding_all rfl
  have hstore : ∀ e ∈ (exec (run (batchLoader 1)) (Load.begin willingStore [.obj []])).2.calls,
      ∀ g, e.fault? = some g → g.isConfiguration = false := by
    have hfaults : (exec (run (batchLoader 1))
        (Load.begin willingStore [.obj []])).2.calls.filterMap (·.fault?) = [] := by
      with_unfolding_all rfl
    intro e he g hfault
    rw [List.filterMap_eq_nil_iff.mp hfaults e he] at hfault
    cases hfault
  exact ⟨hconfig, hindexes, hrun, rfl, hstore,
    run_refused_untouched hconfig hindexes hrun rfl hstore⟩

/-- An index that cannot be made is refused after all rows have been written. -/
theorem sparse_index_refused_late :
    LoadConfig.ofFields sparseSettings = .ok sparseLoader.config ∧
      (exec (run sparseLoader) (Load.begin willingStore [numberedRow 1])).1 =
        .error (.config (.sparseKeys [("a", 1), ("b", 1)])) ∧
      (Fault.config (.sparseKeys [("a", 1), ("b", 1)])).isConfiguration = true ∧
      (exec (run sparseLoader) (Load.begin willingStore [numberedRow 1])).2.calls.filterMap
        (·.fault?) = [] ∧
      (exec (run sparseLoader) (Load.begin willingStore [numberedRow 1])).2.attempts =
        [.insertMany [numberedRow 1]] := by
  refine ⟨rfl, ?_, rfl, ?_, ?_⟩
  · with_unfolding_all rfl
  · with_unfolding_all rfl
  · with_unfolding_all rfl

end Loader

end RowIngest
