import RowIngest.Proofs.Validity
/-!
Mappings that are rejected. The check names the first field without a place, or all fields that
would each be the whole document, or the fields beside one that is, or the first two fields whose
paths overlap. Main statement: a mapping passes exactly if all this is missing, where paths that do
not overlap are those of which none leads through another; whatever else it is rejected with is a
problem of the configuration, and holds of the mapping.
-/
namespace RowIngest.Mapping

variable {fields : List FieldMapping} {f g : FieldMapping} {problem : ConfigProblem}

/-- The inserted fields that are the whole document. -/
def documents (fields : List FieldMapping) : List FieldMapping :=
  (insertable fields).filter (·.isRoot)

/-- The inserted fields that cannot stand beside a whole document. -/
def bystanders (fields : List FieldMapping) : List FieldMapping :=
  (insertable fields).filter fun f => !f.isRoot && !f.isMatchKey

/-- Every field that is the whole document brings one. -/
def Placed (fields : List FieldMapping) : Prop :=
  ∀ f ∈ fields, f.isRoot = true → f.subDocument = true

/-- The first two fields, in the order of the list, whose paths overlap. -/
def FirstOverlap (fields : List FieldMapping) (f g : FieldMapping) : Prop :=
  ∃ before between after, fields = before ++ f :: (between ++ g :: after) ∧
    Apart before ∧
    (∀ e ∈ before, ∀ later ∈ f :: (between ++ g :: after), pathsOverlap e.path later.path = false) ∧
    (∀ e ∈ between, pathsOverlap f.path e.path = false) ∧ pathsOverlap f.path g.path = true

/-- What a mapping is rejected for. -/
inductive Rejects (fields : List FieldMapping) : ConfigProblem → Prop
  | unplaced {before after : List FieldMapping} {f : FieldMapping}
      (hfields : fields = before ++ f :: after) (hbefore : Placed before)
      (hroot : f.isRoot = true) (hplain : f.subDocument = false) :
      Rejects fields (.unplaced f.field)
  | severalDocuments (hplaced : Placed fields) (hroots : 1 < (documents fields).length) :
      Rejects fields (.severalDocuments ((documents fields).map (·.field)))
  | documentWithOthers {root : FieldMapping} (hplaced : Placed fields)
      (hroot : documents fields = [root]) (hothers : bystanders fields ≠ []) :
      Rejects fields (.documentWithOthers root.field ((bystanders fields).map (·.field)))
  | overlap {f g : FieldMapping} (hplaced : Placed fields) (hroots : documents fields = [])
      (hpair : FirstOverlap (insertable fields) f g) :
      Rejects fields (.overlap f.field g.field f.display g.display)

theorem FirstOverlap.cons {first : FieldMapping}
    (h : FirstOverlap fields f g)
    (hfirst : ∀ later ∈ fields, pathsOverlap first.path later.path = false) :
    FirstOverlap (first :: fields) f g := by
  obtain ⟨before, between, after, rfl, hapart, hbefore, hbetween, hpair⟩ := h
  refine ⟨first :: before, between, after, rfl, ?_, ?_, hbetween, hpair⟩
  · exact List.pairwise_cons.mpr ⟨fun e he => hfirst e (List.mem_append_left _ he), hapart⟩
  · exact List.forall_mem_cons.mpr
      ⟨fun later hlater => hfirst later (List.mem_append_right _ hlater), hbefore⟩

theorem firstOverlap_of_overlap? (h : overlap? fields = some (f, g)) :
    FirstOverlap fields f g := by
  induction fields with
  | nil => cases h
  | cons first rest ih =>
    rcases hfind : rest.find? (fun g => pathsOverlap first.path g.path) with _ | second
    · simp only [overlap?, hfind] at h
      exact (ih h).cons (by simpa using hfind)
    · simp only [overlap?, hfind, Option.some.injEq, Prod.mk.injEq] at h
      obtain ⟨rfl, rfl⟩ := h
      obtain ⟨hpair, between, after, rfl, hbetween⟩ := List.find?_eq_some_iff_append.mp hfind
      exact ⟨[], between, after, rfl, .nil, List.forall_mem_nil _, by simpa using hbetween, hpair⟩

/-- What the check reports holds of the mapping. -/
theorem rejects_of_validate (h : validate fields = .error problem) : Rejects fields problem := by
  rcases hfind : fields.find? (fun f => f.isRoot && !f.subDocument) with _ | f
  · have hplaced : Placed fields := by
      simpa [Placed] using hfind
    rcases hroots : (insertable fields).filter (·.isRoot) with _ | ⟨root, _ | ⟨second, others⟩⟩
    · rcases hoverlap : overlap? (insertable fields) with _ | ⟨f, g⟩ <;>
        simp only [validate, hfind, hroots, hoverlap, reduceCtorEq, Except.error.injEq] at h
      subst h
      exact .overlap hplaced hroots (firstOverlap_of_overlap? hoverlap)
    · simp only [validate, hfind, hroots] at h
      split at h
      · cases h
      · rename_i hothers
        obtain rfl := Except.error.inj h
        exact .documentWithOthers hplaced hroots (by simpa [bystanders] using hothers)
    · simp only [validate, hfind, hroots, Except.error.injEq] at h
      subst h
      have hdocuments : documents fields = root :: second :: others := hroots
      rw [← hdocuments]
      exact .severalDocuments hplaced (by simp [hdocuments])
  · simp only [validate, hfind, Except.error.injEq] at h
    subst h
    obtain ⟨hbad, before, after, rfl, hbefore⟩ := List.find?_eq_some_iff_append.mp hfind
    simp only [Bool.and_eq_true, Bool.not_eq_true'] at hbad
    have hplaced : Placed before := by
      intro g hg hroot
      simpa [hroot] using hbefore g hg
    exact .unplaced rfl hplaced hbad.1 hbad.2

/-- Of fields of which at most one has a property, no other one has it beside the first. -/
theorem pairwise_of_countP_le_one {p : FieldMapping → Bool} (h : fields.countP p ≤ 1) :
    fields.Pairwise fun f g => ¬ (p f = true ∧ p g = true) := by
  induction fields with
  | nil => exact .nil
  | cons f rest ih =>
    rw [List.countP_cons] at h
    refine List.pairwise_cons.mpr ⟨fun g hg => ?_, ih (by omega)⟩
    rintro ⟨hf, hpg⟩
    rw [if_pos hf] at h
    have hnone : rest.countP p = 0 := by omega
    exact List.countP_eq_zero.mp hnone g hg hpg

/-- What holds of a field and each one behind it, in either order, holds of any two fields at
different places. -/
theorem get_of_pairwise {R : FieldMapping → FieldMapping → Prop} (hsymm : ∀ f g, R f g → R g f)
    (h : fields.Pairwise R) {i j : Fin fields.length} (hij : i ≠ j) :
    R (fields.get i) (fields.get j) := by
  rcases Nat.lt_or_gt_of_ne (Fin.val_ne_of_ne hij) with hlt | hgt
  · exact List.pairwise_iff_getElem.mp h i j i.isLt j.isLt hlt
  · exact hsymm _ _ (List.pairwise_iff_getElem.mp h j i j.isLt i.isLt hgt)

theorem apart_iff_get : Apart fields ↔ ∀ i j : Fin fields.length, i ≠ j →
    ¬ (fields.get i).path <+: (fields.get j).path := by
  constructor
  · intro hapart i j hij hprefix
    have hoff := get_of_pairwise (fun f g h => (pathsOverlap_comm g.path f.path).trans h) hapart hij
    rw [pathsOverlap_iff.mpr (.inl hprefix)] at hoff
    cases hoff
  · intro h
    refine List.pairwise_iff_getElem.mpr fun i j hi hj hij => ?_
    have hne : (⟨i, hi⟩ : Fin fields.length) ≠ ⟨j, hj⟩ := Fin.ne_of_lt hij
    rw [← Bool.not_eq_true, pathsOverlap_iff, not_or]
    exact ⟨h _ _ hne, h _ _ hne.symm⟩

theorem documents_eq_nil_iff :
    documents fields = [] ↔ ∀ f ∈ insertable fields, f.isRoot = false := by
  simp only [documents, List.filter_eq_nil_iff, Bool.not_eq_true]

theorem countP_isRoot : (insertable fields).countP (·.isRoot) = (documents fields).length :=
  List.countP_eq_length_filter

/-- Beside the only document, the other fields are those at other places. -/
theorem lone_document_iff {root : FieldMapping} (hroots : documents fields = [root]) :
    (∀ f ∈ insertable fields, f.isRoot = false → f.isMatchKey = true) ↔
      ∀ i j : Fin (insertable fields).length, ((insertable fields).get i).isRoot = true → j ≠ i →
        ((insertable fields).get j).isMatchKey = true := by
  constructor
  · intro hothers i j hi hij
    have hcount : (insertable fields).countP (·.isRoot) ≤ 1 := by
      rw [countP_isRoot, hroots]
      exact Nat.le_refl 1
    have hlone := get_of_pairwise (fun f g h => mt And.symm h) (pairwise_of_countP_le_one hcount)
      hij.symm
    exact hothers _ (List.get_mem _ _) (Bool.eq_false_iff.mpr fun hj => hlone ⟨hi, hj⟩)
  · intro hothers f hf hplain
    have hmem : root ∈ documents fields := by simp [hroots]
    obtain ⟨hinserted, hisroot⟩ := List.mem_filter.mp hmem
    obtain ⟨i, rfl⟩ := List.get_of_mem hinserted
    obtain ⟨j, rfl⟩ := List.get_of_mem hf
    refine hothers i j hisroot fun hsame => ?_
    rw [hsame, hisroot] at hplain
    cases hplain

/-- A mapping is accepted exactly if every field that is the whole document brings one, at most one
inserted field is, all others are match keys beside it, and without it no path of an inserted field
is the same as that of another one or leads through it. Otherwise the configuration is at fault, and
the problem that is named is there. -/
theorem validate_judges (fields : List FieldMapping) :
    (validate fields = .ok () ↔
      (∀ f ∈ fields, f.isRoot = true → f.subDocument = true) ∧
      (insertable fields).countP (·.isRoot) ≤ 1 ∧
      (∀ i j : Fin (insertable fields).length, ((insertable fields).get i).isRoot = true → j ≠ i →
        ((insertable fields).get j).isMatchKey = true) ∧
      ((∀ f ∈ insertable fields, f.isRoot = false) →
        ∀ i j : Fin (insertable fields).length, i ≠ j →
          ¬ ((insertable fields).get i).path <+: ((insertable fields).get j).path)) ∧
    ∀ problem, validate fields = .error problem →
      Rejects fields problem ∧ (Fault.config problem).category? = some .configuration := by
  refine ⟨?_, fun problem h => ⟨rejects_of_validate h, rfl⟩⟩
  rw [validate_eq_ok_iff, countP_isRoot, ← documents_eq_nil_iff, ← apart_iff_get]
  constructor
  · intro h
    refine ⟨h.placed, ?_⟩
    rcases h.apart with ⟨hnone, hapart⟩ | ⟨root, hroots, hothers⟩
    · rw [documents_eq_nil_iff.mpr hnone]
      refine ⟨Nat.zero_le 1, fun i j hi _ => ?_, fun _ => hapart⟩
      rw [hnone _ (List.get_mem _ _)] at hi
      cases hi
    · have hdocuments : documents fields = [root] := hroots
      rw [hdocuments]
      exact ⟨Nat.le_refl 1, (lone_document_iff hdocuments).mp hothers, nofun⟩
  · rintro ⟨hplaced, hcount, hothers, hapart⟩
    refine ⟨hplaced, ?_⟩
    rcases hroots : documents fields with _ | ⟨root, _ | ⟨second, others⟩⟩
    · exact Or.inl ⟨documents_eq_nil_iff.mp hroots, hapart hroots⟩
    · exact Or.inr ⟨root, hroots, (lone_document_iff hroots).mpr hothers⟩
    · rw [hroots] at hcount
      exact absurd hcount (by simp)

end RowIngest.Mapping
