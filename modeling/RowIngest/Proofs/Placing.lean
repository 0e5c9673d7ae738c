import Mathlib.Data.List.Pairwise
import RowIngest.Mapping.Document
import RowIngest.Proofs.Giving
import RowIngest.Proofs.Validity
/-!
Where placed values are. A value that was placed at a path is found there again, and what is found
at a path stays there while values are placed at paths that do not overlap with it. Main statement:
a document that is assembled from fields whose paths do not overlap holds the value of each of
them.
-/
namespace RowIngest

namespace Document

/-- What a container has at a segment, if anything. -/
def child? : Value → Segment → Option Value
  | .obj fields, .key name => Fields.get? fields name
  | .list items, .index position => items[position]?
  | _, _ => none

/-- What a document has at a path. -/
def valueAt (document : Value) : Path → Option Value
  | [] => some document
  | s :: rest => (child? document s).bind (valueAt · rest)

variable {room : Room} {shown : String} {container container' inner v w : Value} {s t : Segment}
  {p q : Path}

theorem slot_eq (container : Value) (s : Segment) :
    slot container s = (child? container s).getD .null := by
  cases s <;> cases container <;> rfl

theorem getElem?_setAt_self {α : Type} (filling : α) (items : List α) (position : Nat) (v : α) :
    (setAt filling items position v)[position]? = some v := by
  unfold setAt
  split <;> rename_i h
  · exact List.getElem?_set_self h
  · have hfilled :
        (items ++ List.replicate (position - items.length) filling).length = position := by
      simp only [List.length_append, List.length_replicate]
      omega
    rw [List.getElem?_append_right (Nat.le_of_eq hfilled), hfilled, Nat.sub_self]
    rfl

theorem getElem?_setAt_of_ne {α : Type} {filling w : α} {items : List α} {position other : Nat}
    (v : α) (hne : other ≠ position) (hother : items[other]? = some w) :
    (setAt filling items position v)[other]? = some w := by
  have hlt : other < items.length := (List.getElem?_eq_some_iff.mp hother).1
  unfold setAt
  split
  · rw [List.getElem?_set_ne hne.symm, hother]
  · rw [List.append_assoc, List.getElem?_append_left hlt, hother]

/-- A value is put where it is wanted, and all else that is there stays. -/
theorem child?_of_put (h : put room shown container s v = .ok container') :
    child? container' s = some v ∧
      ∀ t ≠ s, ∀ w, child? container t = some w → child? container' t = some w := by
  cases s with
  | key name =>
    cases container with
    | obj fields =>
      obtain rfl := Except.ok.inj h
      refine ⟨Fields.get?_set_self fields name v, fun t hne w hw => ?_⟩
      cases t with
      | key other =>
        have hother : other ≠ name := fun heq => hne (congrArg Segment.key heq)
        exact (Fields.get?_set_of_ne fields v hother).trans hw
      | index position => cases hw
    | _ => cases h
  | index position =>
    cases container with
    | list items =>
      rcases hroom : checkRoom room items.length position with e | _ <;>
        simp only [put, hroom, Except.map, reduceCtorEq, Except.ok.injEq] at h
      subst h
      refine ⟨getElem?_setAt_self Value.null items position v, fun t hne w hw => ?_⟩
      cases t with
      | key name => cases hw
      | index other =>
        have hother : other ≠ position := fun heq => hne (congrArg Segment.index heq)
        exact getElem?_setAt_of_ne v hother hw
    | _ => cases h

/-- The container for the next segment is the one that is there, unless nothing is. -/
theorem child?_of_containerAt (h : containerAt room shown container s t = .ok inner)
    (hslot : slot container s ≠ .null) : child? container s = some inner := by
  have hinner : slot container s = inner := by
    unfold containerAt at h
    split at h
    · exact absurd ‹_› hslot
    · exact ‹slot container s = _›.trans (Except.ok.inj h)
    · exact ‹slot container s = _›.trans (Except.ok.inj h)
    · cases h
  rcases hchild : child? container s with _ | there
  · exact absurd (by simp [slot_eq, hchild]) hslot
  · rw [← hinner, slot_eq, hchild]
    rfl

theorem place_cons : place room shown v container s (t :: p) = .ok container' ↔
    ∃ inner inner', containerAt room shown container s t = .ok inner ∧
      place room shown v inner t p = .ok inner' ∧
      put room shown container s inner' = .ok container' := by
  simp only [place, bind_eq_ok, exists_and_left]

theorem valueAt_place (h : place room shown v container s p = .ok container') :
    valueAt container' (s :: p) = some v := by
  induction p generalizing container container' s with
  | nil => simp [valueAt, (child?_of_put h).1]
  | cons next rest ih =>
    obtain ⟨inner, inner', -, hinner, hput⟩ := place_cons.mp h
    rw [valueAt, (child?_of_put hput).1]
    exact ih hinner

theorem valueAt_of_put (h : put room shown container s v = .ok container') (hne : t ≠ s)
    (hq : valueAt container (t :: q) = some w) : valueAt container' (t :: q) = some w := by
  obtain ⟨inner, hchild, hinner⟩ := Option.bind_eq_some_iff.mp hq
  rw [valueAt, (child?_of_put h).2 t hne inner hchild]
  exact hinner

/-- What is found where nothing is placed is still found there. -/
theorem valueAt_of_place (h : place room shown v container s p = .ok container')
    (hapart : Mapping.pathsOverlap (s :: p) q = false) (hq : valueAt container q = some w) :
    valueAt container' q = some w := by
  induction p generalizing container container' s q with
  | nil =>
    rcases q with _ | ⟨t, q⟩
    · simp [Mapping.pathsOverlap] at hapart
    · refine valueAt_of_put h ?_ hq
      rintro rfl
      simp [Mapping.pathsOverlap] at hapart
  | cons next rest ih =>
    obtain ⟨inner, inner', hcontainer, hplace, hput⟩ := place_cons.mp h
    rcases q with _ | ⟨t, q⟩
    · simp [Mapping.pathsOverlap] at hapart
    · by_cases hsame : t = s
      · -- Both paths lead on through the same container, which was there already.
        subst hsame
        rw [Mapping.pathsOverlap_cons] at hapart
        obtain ⟨there, hchild, hthere⟩ := Option.bind_eq_some_iff.mp hq
        have hslot : slot container t ≠ .null := by
          rw [slot_eq, hchild]
          rintro rfl
          rcases q with _ | ⟨u, q⟩
          · simp [Mapping.pathsOverlap] at hapart
          · cases hthere
        obtain rfl : there = inner :=
          Option.some.inj (hchild.symm.trans (child?_of_containerAt hcontainer hslot))
        rw [valueAt, (child?_of_put hput).1]
        exact ih hplace hapart hthere
      · exact valueAt_of_put hput hsame hq

variable {document document' : Value} {f : FieldMapping} {fields : List FieldMapping} {row : Row}

/-- A field either places the value that the row gives or leaves the document as it is. -/
theorem addField_cases (h : addField room row document f = .ok document') :
    (∃ v, f.Gives row v ∧ placeField room document f v = .ok document') ∨
      document' = document ∧ ∀ v, ¬ f.Gives row v :=
  FieldMapping.gives_or_kept h

theorem placeField_eq_ok (h : placeField room document f v = .ok document') :
    ∃ s rest, f.path = s :: rest ∧ place room f.display v document s rest = .ok document' := by
  unfold placeField at h
  split at h
  · cases h
  · rename_i s rest hpath
    rcases hplace : place room f.display v document s rest with e | made
    · rw [hplace] at h
      cases h
    · rw [hplace] at h
      cases h
      exact ⟨s, rest, hpath, hplace⟩

theorem valueAt_of_addField (h : addField room row document f = .ok document')
    (hapart : Mapping.pathsOverlap f.path q = false) (hq : valueAt document q = some w) :
    valueAt document' q = some w := by
  rcases addField_cases h with ⟨v, -, hplaced⟩ | ⟨rfl, -⟩
  · obtain ⟨s, rest, hpath, hplace⟩ := placeField_eq_ok hplaced
    exact valueAt_of_place hplace (hpath ▸ hapart) hq
  · exact hq

theorem valueAt_addField (h : addField room row document f = .ok document') (hv : f.Gives row v) :
    valueAt document' f.path = some v := by
  rcases addField_cases h with ⟨w, hw, hplaced⟩ | ⟨-, hnone⟩
  · obtain ⟨s, rest, hpath, hplace⟩ := placeField_eq_ok hplaced
    rw [hpath, hv.unique hw]
    exact valueAt_place hplace
  · exact absurd hv (hnone v)

/-- Fields whose paths do not overlap all have their values in the end. -/
theorem valueAt_of_foldlM (h : fields.foldlM (addField room row) document = .ok document')
    (hapart : Mapping.Apart fields) (hf : f ∈ fields) (hv : f.Gives row v) :
    valueAt document' f.path = some v := by
  obtain ⟨before, after, rfl⟩ := List.append_of_mem hf
  obtain ⟨document₁, -, hrest⟩ := foldlM_append_ok.mp h
  obtain ⟨document₂, hone, hafter⟩ := foldlM_cons_ok.mp hrest
  have hothers : ∀ g ∈ after, Mapping.pathsOverlap g.path f.path = false := by
    intro g hg
    have hpair := List.rel_of_pairwise_cons (List.pairwise_append.mp hapart).2.1 hg
    rwa [Mapping.pathsOverlap_comm]
  exact foldlM_keeps (P := fun made => valueAt made f.path = some v)
    (fun g hg _ _ hadd hmade => valueAt_of_addField hadd (hothers g hg) hmade) hafter
    (valueAt_addField hone hv)

end Document

namespace DocumentPlan

variable {room : Room} {fields : List FieldMapping} {shape : Shape} {plan : DocumentPlan}
  {row : Row} {document v : Value} {f : FieldMapping}

theorem isNested_of_apart (h : Mapping.Apart fields) : isNested fields = false := by
  let R : FieldMapping → FieldMapping → Prop :=
    fun f g => Mapping.pathsOverlap f.path g.path = false ∨ f.path = g.path
  have hsymm : Std.Symm R :=
    ⟨fun f g hfg => hfg.imp (fun hapart => Mapping.pathsOverlap_comm _ _ ▸ hapart) Eq.symm⟩
  have hpairs := List.Pairwise.forall_of_forall (R := R) (fun f _ => Or.inr rfl)
    (h.imp fun hapart => Or.inl hapart)
  simp only [isNested, List.any_eq_false, List.any_eq_true, Bool.and_eq_true, decide_eq_true_eq,
    not_exists, not_and]
  intro f hf g hg hthrough hne
  rcases hpairs hf hg with hapart | hsame
  · simp [Mapping.pathsOverlap, hthrough] at hapart
  · exact hne hsame

/-- Fields whose places do not overlap are placed one after the other. -/
theorem map_of_apart (hplan : make room fields shape false = .ok plan)
    (hapart : Mapping.Apart (Mapping.insertable fields)) (row : Row) :
    plan.map row = (do
      let made ← (Mapping.insertable fields).foldlM (Document.addField room row) plan.root
      return if made.isTruthy then some made else none) := by
  have hkind : plan.room = room ∧ plan.fields = Mapping.insertable fields ∧
      plan.wholeDocument = false ∧ plan.nested = false := by
    cases shape <;>
      simp only [make, isNested_of_apart hapart, reduceCtorEq, Except.ok.injEq] at hplan
    all_goals (subst hplan; exact ⟨rfl, rfl, rfl, rfl⟩)
  obtain ⟨hroom, hfields, hwhole, hnested⟩ := hkind
  simp only [map, hwhole, Bool.false_eq_true, if_false, assemble, hnested, hroom, hfields]

theorem assemble_of_map {whole : Option Value} (hplan : make room fields shape false = .ok plan)
    (hapart : Mapping.Apart (Mapping.insertable fields)) (hmap : plan.map row = .ok whole) :
    ∃ made, (Mapping.insertable fields).foldlM (Document.addField room row) plan.root = .ok made ∧
      whole = if made.isTruthy then some made else none := by
  rw [map_of_apart hplan hapart] at hmap
  obtain ⟨made, hmade, hwhole⟩ := bind_eq_ok.mp hmap
  exact ⟨made, hmade, (Except.ok.inj hwhole).symm⟩

/-- A document that a row has is what its values were placed in. -/
theorem foldlM_of_map (hplan : make room fields shape false = .ok plan)
    (hapart : Mapping.Apart (Mapping.insertable fields))
    (hmap : plan.map row = .ok (some document)) :
    (Mapping.insertable fields).foldlM (Document.addField room row) plan.root = .ok document ∧
      document.isTruthy = true := by
  obtain ⟨made, hmade, hwhole⟩ := assemble_of_map hplan hapart hmap
  split at hwhole
  · rename_i htruthy
    rw [Option.some.inj hwhole]
    exact ⟨hmade, htruthy⟩
  · cases hwhole

/-- Where no field is the whole document, an assembled document has the value of every inserted
field at its place. -/
theorem valueAt_of_map (hplan : make room fields shape false = .ok plan)
    (hapart : Mapping.Apart (Mapping.insertable fields))
    (hmap : plan.map row = .ok (some document)) (hf : f ∈ Mapping.insertable fields)
    (hv : f.Gives row v) : Document.valueAt document f.path = some v :=
  Document.valueAt_of_foldlM (foldlM_of_map hplan hapart hmap).1 hapart hf hv

end DocumentPlan

end RowIngest
