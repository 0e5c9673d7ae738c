import RowIngest.Mapping.Shape
/-!
Which mappings are accepted. Either one field supplies the whole document, and all others that
are inserted are match keys; or no field does, and no two paths of inserted fields overlap. Main
statement: a mapping passes its check exactly if it is unambiguous in this sense.
-/
namespace RowIngest.Mapping

variable {fields : List FieldMapping}

theorem pathsOverlap_iff {p q : Path} : pathsOverlap p q = true ↔ p <+: q ∨ q <+: p := by
  simp [pathsOverlap]

theorem pathsOverlap_self (p : Path) : pathsOverlap p p = true :=
  pathsOverlap_iff.mpr (.inl (List.prefix_refl p))

theorem pathsOverlap_comm (p q : Path) : pathsOverlap p q = pathsOverlap q p :=
  Bool.or_comm _ _

/-- Two paths with the same start overlap if what follows does. -/
theorem pathsOverlap_cons (s : Segment) (p q : Path) :
    pathsOverlap (s :: p) (s :: q) = pathsOverlap p q := by
  simp [pathsOverlap]

abbrev insertable (fields : List FieldMapping) : List FieldMapping := fields.filter (·.isInsertable)

/-- No two of these fields have places that overlap. -/
def Apart (fields : List FieldMapping) : Prop :=
  fields.Pairwise fun f g => pathsOverlap f.path g.path = false

/-- Every value has a place of its own. -/
structure Unambiguous (fields : List FieldMapping) : Prop where
  placed : ∀ f ∈ fields, f.isRoot = true → f.subDocument = true
  apart : (∀ f ∈ insertable fields, f.isRoot = false) ∧ Apart (insertable fields) ∨
    ∃ root, (insertable fields).filter (·.isRoot) = [root] ∧
      ∀ f ∈ insertable fields, f.isRoot = false → f.isMatchKey = true

theorem overlap?_eq_none_iff : overlap? fields = none ↔ Apart fields := by
  induction fields with
  | nil => simp [overlap?, Apart]
  | cons f rest ih =>
    rcases hfind : rest.find? (fun g => pathsOverlap f.path g.path) with _ | g
    · have hnone : ∀ g ∈ rest, pathsOverlap f.path g.path = false := by
        simpa using hfind
      simp only [overlap?, hfind, ih, Apart, List.pairwise_cons]
      exact ⟨fun h => ⟨hnone, h⟩, fun h => h.2⟩
    · have hmem := List.mem_of_find?_eq_some hfind
      have hoverlap : pathsOverlap f.path g.path = true := by simpa using List.find?_some hfind
      simp only [overlap?, hfind, Apart, List.pairwise_cons, reduceCtorEq, false_iff]
      rintro ⟨hapart, -⟩
      rw [hapart g hmem] at hoverlap
      cases hoverlap

section

variable (hplaced : fields.find? (fun f => f.isRoot && !f.subDocument) = none)

include hplaced

theorem validate_of_no_root (hroots : (insertable fields).filter (·.isRoot) = []) :
    validate fields = .ok () ↔ Apart (insertable fields) := by
  rw [← overlap?_eq_none_iff]
  rcases hoverlap : overlap? (insertable fields) with _ | ⟨f, g⟩ <;>
    simp [validate, hplaced, hroots, hoverlap]

theorem validate_of_root {root : FieldMapping}
    (hroots : (insertable fields).filter (·.isRoot) = [root]) :
    validate fields = .ok () ↔
      ∀ f ∈ insertable fields, f.isRoot = false → f.isMatchKey = true := by
  have hothers : (insertable fields).filter (fun f => !f.isRoot && !f.isMatchKey) = [] ↔
      ∀ f ∈ insertable fields, f.isRoot = false → f.isMatchKey = true := by
    simp only [List.filter_eq_nil_iff, Bool.and_eq_true, Bool.not_eq_true', not_and,
      Bool.not_eq_false]
  rw [← hothers]
  by_cases hnone : (insertable fields).filter (fun f => !f.isRoot && !f.isMatchKey) = [] <;>
    simp only [validate, hplaced, hroots, hnone, List.isEmpty_iff, if_true, if_false,
      reduceCtorEq]

theorem validate_of_roots {root second : FieldMapping} {others : List FieldMapping}
    (hroots : (insertable fields).filter (·.isRoot) = root :: second :: others) :
    validate fields ≠ .ok () := by
  simp [validate, hplaced, hroots]

end

theorem validate_eq_ok_iff : validate fields = .ok () ↔ Unambiguous fields := by
  rcases hplaced : fields.find? (fun f => f.isRoot && !f.subDocument) with _ | f
  · have hall : ∀ f ∈ fields, f.isRoot = true → f.subDocument = true := by simpa using hplaced
    have hrootless : (∀ f ∈ insertable fields, f.isRoot = false) ↔
        (insertable fields).filter (·.isRoot) = [] := by
      simp only [List.filter_eq_nil_iff, Bool.not_eq_true]
    -- The case is decided by how many inserted fields are the whole document.
    rcases hroots : (insertable fields).filter (·.isRoot) with _ | ⟨root, _ | ⟨second, others⟩⟩
    · rw [validate_of_no_root hplaced hroots]
      refine ⟨fun hapart => ⟨hall, Or.inl ⟨hrootless.mpr hroots, hapart⟩⟩, fun h => ?_⟩
      rcases h.apart with ⟨-, hapart⟩ | ⟨root, hroot, -⟩
      · exact hapart
      · simp [hroots] at hroot
    · rw [validate_of_root hplaced hroots]
      refine ⟨fun hmatch => ⟨hall, Or.inr ⟨root, hroots, hmatch⟩⟩, fun h => ?_⟩
      rcases h.apart with ⟨hnone, -⟩ | ⟨_, -, hmatch⟩
      · cases hroots.symm.trans (hrootless.mp hnone)
      · exact hmatch
    · refine ⟨fun h => absurd h (validate_of_roots hplaced hroots), fun h => ?_⟩
      rcases h.apart with ⟨hnone, -⟩ | ⟨_, hroot, -⟩
      · cases hroots.symm.trans (hrootless.mp hnone)
      · simp [hroots] at hroot
  · have hbad := List.find?_some hplaced
    simp only [validate, hplaced, reduceCtorEq, false_iff]
    intro h
    simp [h.placed f (List.mem_of_find?_eq_some hplaced) (by simp_all)] at hbad

/-- Fields that are inserted are apart from those behind them. -/
theorem Apart.of_later {before after : List FieldMapping} {f g : FieldMapping}
    (h : Apart (insertable (before ++ f :: after))) (hg : g ∈ after)
    (hf : f.isInsertable = true) (hinserted : g.isInsertable = true) :
    pathsOverlap f.path g.path = false := by
  have hafter : g ∈ insertable after := List.mem_filter.mpr ⟨hg, hinserted⟩
  simp only [Apart, insertable, List.filter_append, List.filter_cons, hf, if_true] at h
  exact List.rel_of_pairwise_cons (List.pairwise_append.mp h).2.1 hafter

/-- A field that is inserted, and is neither the whole document nor a match key, has a place that
no later inserted field gets near. -/
theorem Unambiguous.paths_apart {before after : List FieldMapping} {f g : FieldMapping}
    (h : Unambiguous (before ++ f :: after)) (hg : g ∈ after) (hf : f.isInsertable = true)
    (hroot : f.isRoot = false) (hmatch : f.isMatchKey = false) (hinserted : g.isInsertable = true) :
    pathsOverlap f.path g.path = false := by
  rcases h.apart with ⟨-, hapart⟩ | ⟨root, -, hothers⟩
  · exact hapart.of_later hg hf hinserted
  · have hkey := hothers f (List.mem_filter.mpr ⟨by simp, hf⟩) hroot
    rw [hmatch] at hkey
    cases hkey

/-- Where no field supplies the whole document, all inserted fields have places of their own. -/
theorem Unambiguous.apart_of_not_supplied (h : Unambiguous fields)
    (hsupplied : suppliesDocument fields = false) : Apart (insertable fields) := by
  rcases h.apart with ⟨-, hapart⟩ | ⟨root, hroot, -⟩
  · exact hapart
  · have hmem : root ∈ (insertable fields).filter (·.isRoot) := by simp [hroot]
    obtain ⟨hinserted, hisroot⟩ := List.mem_filter.mp hmem
    obtain ⟨hfield, hinsertable⟩ := List.mem_filter.mp hinserted
    have hsupplies : suppliesDocument fields = true := by
      simp only [suppliesDocument, List.any_eq_true, Bool.and_eq_true]
      exact ⟨root, hfield, ⟨hinsertable, hisroot⟩, h.placed root hfield hisroot⟩
    rw [hsupplied] at hsupplies
    cases hsupplies

theorem suppliesDocument_of_no_inserted_root (h : ∀ f ∈ insertable fields, f.isRoot = false) :
    suppliesDocument fields = false := by
  simp only [suppliesDocument, List.any_eq_false, Bool.and_eq_true, not_and, Bool.not_eq_true]
  intro f hf hboth
  rw [h f (List.mem_filter.mpr ⟨hf, hboth.1⟩)] at hboth
  cases hboth.2

section

variable (hroots : ∀ f ∈ fields, f.isRoot = false)

include hroots

theorem suppliesDocument_of_no_root : suppliesDocument fields = false :=
  suppliesDocument_of_no_inserted_root fun f hf => hroots f (List.mem_filter.mp hf).1

theorem Unambiguous.apart_of_no_root (h : Unambiguous fields) : Apart (insertable fields) :=
  h.apart_of_not_supplied (suppliesDocument_of_no_root hroots)

end

end RowIngest.Mapping
