import Mathlib.Data.Finset.Basic
import RowIngest.Proofs.Applying
/-!
Drops of indexes that are passed over. A store knows the indexes of its collection by their keys:
making an index adds its keys, and dropping one takes them away. Main statement: from a collection
without indexes it comes to the same whether drops are passed over or not, exactly if every index
that is made is still made after it was dropped for the last time.
-/
namespace RowIngest

open RowIngest.Action

variable {σ : Type} {s : Surroundings σ} {indexes : σ → Finset IndexKeys} {l l' : Load σ}
  {es : List Event} {x y : σ} {keys : IndexKeys}

/-- A store that knows its indexes by their keys, and refuses no request for them. To drop an index
that is not there changes nothing. -/
structure Surroundings.Catalogues (s : Surroundings σ) (indexes : σ → Finset IndexKeys) : Prop where
  makes : ∀ (q : IndexRequest) (x : σ), (∃ name, (s.createIndex q x).result = .ok name) ∧
    indexes (s.createIndex q x).state = insert q.keys (indexes x)
  drops : ∀ (keys : IndexKeys) (x : σ), (s.command (.dropIndex keys) x).result = .ok () ∧
    indexes (s.command (.dropIndex keys) x).state = (indexes x).erase keys

namespace IndexChange

/-- The indexes after a change. -/
def change (known : Finset IndexKeys) (spec : IndexChange) : Finset IndexKeys :=
  if spec.drop then known.erase spec.keys else insert spec.keys known

/-- The change is the making of the index with these keys. -/
def Makes (spec : IndexChange) (keys : IndexKeys) : Prop := spec.drop = false ∧ spec.keys = keys

/-- The change is the drop of the index with these keys. -/
def Drops (spec : IndexChange) (keys : IndexKeys) : Prop := spec.drop = true ∧ spec.keys = keys

instance (spec : IndexChange) (keys : IndexKeys) : Decidable (spec.Drops keys) :=
  inferInstanceAs (Decidable (_ ∧ _))

theorem mem_change {spec : IndexChange} {known : Finset IndexKeys} :
    keys ∈ spec.change known ↔ spec.Makes keys ∨ keys ∈ known ∧ ¬ spec.Drops keys := by
  cases hdrop : spec.drop
  · simp [change, Makes, Drops, hdrop, eq_comm]
  · simp [change, Makes, Drops, hdrop, eq_comm, and_comm]

end IndexChange

namespace Surroundings.Catalogues

variable {spec : IndexChange} {specs : List IndexChange} {e : Event}

theorem change_of_responds (h : s.Catalogues indexes) (hresponds : s.Responds x e y)
    (he : spec.MadeBy e) : indexes y = spec.change (indexes x) := by
  obtain ⟨name, rfl⟩ := he
  generalize he : spec.request (.ok name) = e at hresponds
  cases hdrop : spec.drop <;>
    simp only [IndexChange.request, IndexChange.change, hdrop, Bool.false_eq_true, if_true,
      if_false] at he ⊢
  · cases hresponds with
    | indexed q x =>
      obtain ⟨rfl, -⟩ := Event.indexed.inj he
      exact (h.makes _ x).2
    | commanded c x => cases he
  · cases hresponds with
    | indexed q x => cases he
    | commanded c x =>
      obtain ⟨rfl, -⟩ := Event.commanded.inj he
      exact (h.drops _ x).2

theorem not_refused (h : s.Catalogues indexes) (f : Fault) :
    ¬ s.Responds x (spec.request (.error f)) y := by
  intro hresponds
  generalize he : spec.request (.error f) = e at hresponds
  cases hdrop : spec.drop <;>
    simp only [IndexChange.request, hdrop, Bool.false_eq_true, if_true, if_false] at he
  · cases hresponds with
    | indexed q x =>
      obtain ⟨-, hfailed⟩ := Event.indexed.inj he
      obtain ⟨name, hname⟩ := (h.makes q x).1
      cases hfailed.trans hname
    | commanded c x => cases he
  · cases hresponds with
    | indexed q x => cases he
    | commanded c x =>
      obtain ⟨rfl, hfailed⟩ := Event.commanded.inj he
      cases hfailed.trans (h.drops _ x).1

theorem change_of_dialogue (h : s.Catalogues indexes) (hdialogue : s.Dialogue x es y)
    (hes : List.Forall₂ IndexChange.MadeBy specs es) :
    indexes y = specs.foldl IndexChange.change (indexes x) := by
  induction hdialogue generalizing specs with
  | silent x =>
    cases hes
    rfl
  | spoken hfirst hrest ih =>
    cases hes with
    | cons he hes => rw [ih hes, h.change_of_responds hfirst he, List.foldl_cons]

end Surroundings.Catalogues

theorem Surroundings.Dialogue.last {e : Event} (h : s.Dialogue x (es ++ [e]) y) :
    ∃ z, s.Responds z e y := by
  induction es generalizing x with
  | nil =>
    cases h with
    | spoken hfirst hrest =>
      cases hrest
      exact ⟨x, hfirst⟩
  | cons _ es ih =>
    cases h with
    | spoken _ hrest => exact ih hrest

namespace Indexing

variable {truncated : Bool} {specs : List IndexChange}

/-- Such a store makes all changes that are due. -/
theorem exec_apply_of_catalogues (h : s.Catalogues indexes)
    (hcover : ∀ spec ∈ specs, isCoverable spec = true) :
    (∃ names, (exec (apply s truncated specs) l).1 = .ok names) ∧
      indexes (exec (apply s truncated specs) l).2.surroundings =
        (due truncated specs).foldl IndexChange.change (indexes l.surroundings) := by
  rcases hexec : exec (apply s truncated specs) l with ⟨r, l'⟩
  rw [apply_eq_foldlM hcover] at hexec
  obtain ⟨es, hcomes, hasks⟩ := foldlM_comes hexec
  cases hcomes with
  | done hes => exact ⟨⟨_, rfl⟩, h.change_of_dialogue hasks.dialogue hes⟩
  | failed _ _ =>
    obtain ⟨z, hresponds⟩ := hasks.dialogue.last
    exact absurd hresponds (h.not_refused _)

/-- The index with these keys is made, and not dropped after that. -/
def Leaves (specs : List IndexChange) (keys : IndexKeys) : Prop :=
  ∃ before spec after, specs = before ++ spec :: after ∧ spec.Makes keys ∧
    ∀ later ∈ after, ¬ later.Drops keys

theorem leaves_cons {spec : IndexChange} : Leaves (spec :: specs) keys ↔
    Leaves specs keys ∨ spec.Makes keys ∧ ∀ later ∈ specs, ¬ later.Drops keys := by
  constructor
  · rintro ⟨before, made, after, hspecs, hmakes, hafter⟩
    rcases before with _ | ⟨first, before⟩
    · obtain ⟨rfl, rfl⟩ := List.cons.inj hspecs
      exact Or.inr ⟨hmakes, hafter⟩
    · obtain ⟨-, rfl⟩ := List.cons.inj hspecs
      exact Or.inl ⟨before, made, after, rfl, hmakes, hafter⟩
  · rintro (⟨before, made, after, rfl, hmakes, hafter⟩ | ⟨hmakes, hafter⟩)
    · exact ⟨spec :: before, made, after, rfl, hmakes, hafter⟩
    · exact ⟨[], spec, specs, rfl, hmakes, hafter⟩

theorem mem_foldl_change {known : Finset IndexKeys} :
    keys ∈ specs.foldl IndexChange.change known ↔
      Leaves specs keys ∨ keys ∈ known ∧ ∀ spec ∈ specs, ¬ spec.Drops keys := by
  induction specs generalizing known with
  | nil => simp [Leaves]
  | cons spec specs ih =>
    rw [List.foldl_cons, ih, IndexChange.mem_change, leaves_cons, List.forall_mem_cons]
    tauto

/-- Where nothing is dropped, every index that is made is left. -/
theorem leaves_of_no_drops (h : ∀ spec ∈ specs, spec.drop = false) :
    Leaves specs keys ↔ ∃ spec ∈ specs, spec.Makes keys := by
  constructor
  · rintro ⟨before, made, after, rfl, hmakes, -⟩
    exact ⟨made, by simp, hmakes⟩
  · rintro ⟨spec, hspec, hmakes⟩
    obtain ⟨before, after, rfl⟩ := List.append_of_mem hspec
    refine ⟨before, spec, after, rfl, hmakes, fun later hlater hdrops => ?_⟩
    have hkept := h later (by simp [hlater])
    rw [hdrops.1] at hkept
    cases hkept

theorem due_false (specs : List IndexChange) : due false specs = specs := by
  simp [due]

theorem leaves_due_true :
    Leaves (due true specs) keys ↔ ∃ spec ∈ specs, spec.Makes keys := by
  rw [leaves_of_no_drops fun spec hspec => by simpa using (List.mem_filter.mp hspec).2]
  constructor
  · rintro ⟨spec, hspec, hmakes⟩
    exact ⟨spec, List.mem_of_mem_filter hspec, hmakes⟩
  · rintro ⟨spec, hspec, hmakes⟩
    exact ⟨spec, List.mem_filter.mpr ⟨hspec, by simp [hmakes.1]⟩, hmakes⟩

/-- To pass over drops is to spare requests and nothing else, exactly if no index is dropped for
good after it was made. -/
theorem apply_spares_iff (h : s.Catalogues indexes)
    (hcover : ∀ spec ∈ specs, spec.sparse = true → spec.keys.length ≤ 1) {l₁ l₂ : Load σ}
    (hbare₁ : indexes l₁.surroundings = ∅) (hbare₂ : indexes l₂.surroundings = ∅) :
    indexes (exec (apply s true specs) l₁).2.surroundings =
        indexes (exec (apply s false specs) l₂).2.surroundings ↔
      ∀ spec ∈ specs, spec.drop = false → Leaves specs spec.keys := by
  have hcoverable : ∀ spec ∈ specs, isCoverable spec = true :=
    fun spec hspec => isCoverable_iff.mpr (hcover spec hspec)
  -- From no indexes, what is there in the end is what the changes that are due leave.
  have hleft : ∀ truncated (l : Load σ) keys, indexes l.surroundings = ∅ →
      (keys ∈ indexes (exec (apply s truncated specs) l).2.surroundings ↔
        Leaves (due truncated specs) keys) := by
    intro truncated l keys hbare
    rw [(exec_apply_of_catalogues h hcoverable).2, mem_foldl_change, hbare]
    simp
  simp only [Finset.ext_iff, hleft _ _ _ hbare₁, hleft _ _ _ hbare₂, leaves_due_true, due_false]
  constructor
  · intro hsame spec hspec hkept
    exact (hsame spec.keys).mp ⟨spec, hspec, hkept, rfl⟩
  · intro hlasting keys
    constructor
    · rintro ⟨spec, hspec, hkept, rfl⟩
      exact hlasting spec hspec hkept
    · rintro ⟨before, spec, after, rfl, hmakes, -⟩
      exact ⟨spec, by simp, hmakes⟩

/-- The indexes of a collection, with their keys as all that is known of them. -/
def catalogue : Surroundings (Finset IndexKeys) where
  acceptsArrays := false
  write _ known := ⟨.ok ⟨true, none, none⟩, known, []⟩
  createIndex q known := ⟨.ok q.keys.indexName, insert q.keys known, []⟩
  command c known :=
    match c with
    | .drop => ⟨.ok (), ∅, []⟩
    | .dropIndex keys => ⟨.ok (), known.erase keys, []⟩
    | .ensureCollection | .close => ⟨.ok (), known, []⟩
  cancelled known := (false, known)
  sleep _ known := known

theorem catalogue_catalogues : catalogue.Catalogues id where
  makes q _ := ⟨⟨q.keys.indexName, rfl⟩, rfl⟩
  drops _ _ := ⟨rfl, rfl⟩

def making (keys : IndexKeys) : IndexChange := ⟨keys, false, false, false⟩

def dropping (keys : IndexKeys) : IndexChange := ⟨keys, false, false, true⟩

def bare : Load (Finset IndexKeys) := .begin ∅ []

/-- An index is made, dropped and made again; another one is not there to be dropped. -/
def remaking : List IndexChange :=
  [making [("id", 1)], dropping [("id", 1)], making [("region", 1), ("time", -1)],
    making [("id", 1)], dropping [("name", 1)]]

theorem apply_spares_iff_remaking :
    catalogue.Catalogues id ∧ (∀ spec ∈ remaking, spec.sparse = true → spec.keys.length ≤ 1) ∧
    bare.surroundings = ∅ ∧ (∀ spec ∈ remaking, spec.drop = false → Leaves remaking spec.keys) ∧
    (exec (apply catalogue true remaking) bare).2.surroundings =
      (exec (apply catalogue false remaking) bare).2.surroundings := by
  have hcover : ∀ spec ∈ remaking, spec.sparse = true → spec.keys.length ≤ 1 := by decide
  have hid : Leaves remaking [("id", 1)] :=
    ⟨remaking.take 3, making [("id", 1)], [dropping [("name", 1)]], rfl, ⟨rfl, rfl⟩, by decide⟩
  have htime : Leaves remaking [("region", 1), ("time", -1)] :=
    ⟨remaking.take 2, making [("region", 1), ("time", -1)], remaking.drop 3, rfl, ⟨rfl, rfl⟩,
      by decide⟩
  have hlasting : ∀ spec ∈ remaking, spec.drop = false → Leaves remaking spec.keys :=
    List.forall_mem_cons.mpr ⟨fun _ => hid, List.forall_mem_cons.mpr ⟨nofun,
      List.forall_mem_cons.mpr ⟨fun _ => htime, List.forall_mem_cons.mpr ⟨fun _ => hid,
        List.forall_mem_singleton.mpr nofun⟩⟩⟩⟩
  exact ⟨catalogue_catalogues, hcover, rfl, hlasting,
    (apply_spares_iff catalogue_catalogues hcover rfl rfl).mpr hlasting⟩

/-- An index is made and dropped again. -/
def retracting : List IndexChange := [making [("id", 1)], dropping [("id", 1)]]

/-- An index that is made and dropped for good stays if its drop is passed over. -/
theorem spared_drop_leaves_index :
    catalogue.Catalogues id ∧ (∀ spec ∈ retracting, spec.sparse = true → spec.keys.length ≤ 1) ∧
    bare.surroundings = ∅ ∧
    (exec (apply catalogue true retracting) bare).2.surroundings = {[("id", 1)]} ∧
    (exec (apply catalogue false retracting) bare).2.surroundings = ∅ := by
  refine ⟨catalogue_catalogues, by decide, rfl, ?_, ?_⟩
  · with_unfolding_all rfl
  · with_unfolding_all rfl

end Indexing

end RowIngest
