import RowIngest.Proofs.Clashing
/-!
The order of a mapping. The fields of a mapping can be listed in any order: placements that are
the same but for their order build containers with the same values, and values clash in one order
exactly if they clash in another. Main statement: a mapping in another order is accepted as well,
and makes the same documents, but for the order of their keys.
-/
namespace RowIngest

/-- The same value up to the order of the keys of its objects. -/
inductive Value.Reordered : Value → Value → Prop
  | same (v : Value) : Reordered v v
  | list {items items' : List Value} (hlength : items.length = items'.length)
      (hitems : ∀ (position : Nat) v v', items[position]? = some v →
        items'[position]? = some v' → Reordered v v') : Reordered (.list items) (.list items')
  | obj {entries entries' : Fields} (hnames : (Fields.names entries).Perm (Fields.names entries'))
      (hnodup : (Fields.names entries).Nodup)
      (hentries : ∀ name v v', Fields.get? entries name = some v →
        Fields.get? entries' name = some v' → Reordered v v') :
      Reordered (.obj entries) (.obj entries')

namespace Document

variable {room : Room} {ps ps' : List Placement} {d d' v : Value} {s : Segment} {p : Path}

theorem under_perm (h : ps.Perm ps') (s : Segment) : (under s ps).Perm (under s ps') :=
  h.filterMap _

theorem under_eq_nil_of_perm (h : ps.Perm ps') (s : Segment) :
    under s ps = [] ↔ under s ps' = [] := by
  have hunder := under_perm h s
  constructor
  · intro hnil
    rw [hnil] at hunder
    exact hunder.symm.eq_nil
  · intro hnil
    rw [hnil] at hunder
    exact hunder.eq_nil

theorem firstKeys_perm (h : ps.Perm ps') : (firstKeys ps).Perm (firstKeys ps') := by
  rw [List.perm_ext_iff_of_nodup (nodup_firstKeys ps) (nodup_firstKeys ps')]
  intro name
  rw [mem_firstKeys, mem_firstKeys, Ne, Ne, under_eq_nil_of_perm h]

theorem extent_le_of_perm (h : ps.Perm ps') : extent ps ≤ extent ps' := by
  rcases hextent : extent ps with _ | n
  · exact Nat.zero_le _
  · have hlast : under (.index n) ps ≠ [] := (extent_spec ps).2 n hextent
    exact (extent_spec ps').1 n fun hnone => hlast ((under_eq_nil_of_perm h (.index n)).mpr hnone)

theorem extent_perm (h : ps.Perm ps') : extent ps = extent ps' :=
  Nat.le_antisymm (extent_le_of_perm h) (extent_le_of_perm h.symm)

/-- Containers that the same placements span are the same but for the order of keys, if what is in
them is. -/
theorem Spans.reordered (h : Spans ps d) (h' : Spans ps' d') (hperm : ps.Perm ps')
    (hs : Suits d s) (hs' : Suits d' s)
    (hinner : ∀ t w w', child? d t = some w → child? d' t = some w' → w.Reordered w') :
    d.Reordered d' := by
  cases s with
  | key name =>
    cases d with
    | obj entries =>
      cases d' with
      | obj entries' =>
        have hnames : Fields.names entries = firstKeys ps := h
        have hnames' : Fields.names entries' = firstKeys ps' := h'
        refine .obj ?_ ?_ fun other w w' hw hw' => hinner (.key other) w w' hw hw'
        · rw [hnames, hnames']
          exact firstKeys_perm hperm
        · rw [hnames]
          exact nodup_firstKeys ps
      | _ => cases hs'
    | _ => cases hs
  | index position =>
    cases d with
    | list items =>
      cases d' with
      | list items' =>
        have hlength : items.length = extent ps := h
        have hlength' : items'.length = extent ps' := h'
        refine .list ?_ fun n w w' hw hw' => hinner (.index n) w w' hw hw'
        rw [hlength, hlength', extent_perm hperm]
      | _ => cases hs'
    | _ => cases hs

/-- What the same placements build in two orders is the same but for the order of keys, by
induction on what the placements build in one of them. -/
theorem Built.reordered (h : Built ps d) (h' : Built ps' d') (hperm : ps.Perm ps')
    (hne : ps ≠ []) : d.Reordered d' := by
  induction h generalizing ps' d' with
  | @value v hv =>
    obtain rfl := List.perm_singleton.mp hperm.symm
    cases h' with
    | value _ => exact .same v
    | container _ hsuits _ _ =>
      obtain ⟨s, rest, hnil, -⟩ := hsuits [] v (List.mem_singleton_self _)
      cases hnil
  | @container ps d hspans hsuits hbuilt hfilled ih =>
    obtain ⟨⟨p, v⟩, hmem⟩ := List.exists_mem_of_ne_nil ps hne
    obtain ⟨s, rest, rfl, hs⟩ := hsuits p v hmem
    cases h' with
    | value _ => cases List.mem_singleton.mp (hperm.subset hmem)
    | container hspans' hsuits' hbuilt' hfilled' =>
      obtain ⟨_, _, hcons, hs'⟩ := hsuits' _ v (hperm.subset hmem)
      obtain ⟨rfl, -⟩ := List.cons.inj hcons
      refine hspans.reordered hspans' hperm hs hs' fun t w w' hw hw' => ?_
      have hboth := under_eq_nil_of_perm hperm t
      by_cases hnone : under t ps = []
      · rw [hfilled t w hw hnone, hfilled' t w' hw' (hboth.mp hnone)]
        exact .same .null
      · have hsome : under t ps' ≠ [] := fun hnil => hnone (hboth.mpr hnil)
        exact ih t w hw hnone (hbuilt' t w' hw' hsome) (under_perm hperm t) hnone

/-- Where nothing is placed a document is empty. -/
theorem Built.ne_nil (h : Built ps d) (htruthy : d.isTruthy = true) : ps ≠ [] := by
  rintro rfl
  cases h with
  | container hspans _ _ _ =>
    cases d with
    | obj entries =>
      obtain rfl : entries = [] := List.map_eq_nil_iff.mp hspans
      cases htruthy
    | list items =>
      obtain rfl : items = [] := List.length_eq_zero_iff.mp hspans
      cases htruthy
    | _ => cases hspans

/-- No position is so great that there is no room for an array that reaches to it. -/
def Near (room : Room) (ps : List Placement) : Prop :=
  ∀ q w, (q, w) ∈ ps → ∀ position, .index position ∈ q → position < room.positions

theorem Near.under (h : Near room ps) (s : Segment) : Near room (under s ps) := by
  intro q w hmem position hposition
  exact h _ w (mem_under.mp hmem) position (List.mem_cons_of_mem s hposition)

theorem Near.extent_le (h : Near room ps) : extent ps ≤ room.positions := by
  rcases hextent : extent ps with _ | n
  · exact Nat.zero_le _
  · obtain ⟨q, w, hmem⟩ := under_ne_nil_iff.mp ((extent_spec ps).2 n hextent)
    exact h _ w hmem n List.mem_cons_self

theorem lt_of_checkRoom {length position : Nat} (hlength : length ≤ room.positions)
    (h : checkRoom room length position = .ok ()) : position < room.positions := by
  unfold checkRoom at h
  split at h
  · omega
  · split at h
    · cases h
    · split at h
      · cases h
      · omega

namespace Built

variable {shown : String}

theorem near_of_put (h : Built ps d) (hpath : ∀ p v, (p, v) ∈ ps → p ≠ [])
    (hnear : Near room ps) {position : Nat}
    (hput : Document.put room shown d (.index position) v = .ok d') :
    position < room.positions := by
  cases d with
  | list items =>
    have hlength : items.length = extent ps := h.spans hpath
    rcases hroom : checkRoom room items.length position with e | _
    · simp [Document.put, hroom, Except.map] at hput
    · exact lt_of_checkRoom (hlength ▸ hnear.extent_le) hroom
  | _ => cases hput

/-- Where a value could be placed, all positions of its path are within reach. -/
theorem near_of_place (h : Built ps d) (hapart : ApartFrom ps (s :: p)) (hnear : Near room ps)
    (hplace : Document.place room shown v d s p = .ok d') :
    ∀ position, .index position ∈ s :: p → position < room.positions := by
  induction p generalizing ps d d' s with
  | nil =>
    intro position hposition
    obtain rfl := List.mem_singleton.mp hposition
    exact h.near_of_put hapart.ne_nil hnear hplace
  | cons t p ih =>
    obtain ⟨inner, inner', hentered, hinner, hput⟩ := place_cons.mp hplace
    obtain ⟨hbuilt, -⟩ := h.containerAt hapart.ne_nil hentered
    intro position hposition
    rcases List.mem_cons.mp hposition with rfl | hbehind
    · exact h.near_of_put hapart.ne_nil hnear hput
    · exact ih hbuilt hapart.under (hnear.under s) hinner position hbehind

end Built

/-- Fields that were all added have brought no position out of reach. -/
theorem Built.near_of_foldlM {fields before : List FieldMapping} {row : Row}
    (h : Built (placements before row) d) (hnear : Near room (placements before row))
    (hmade : fields.foldlM (Document.addField room row) d = .ok d')
    (hapart : Mapping.Apart (before ++ fields)) :
    Near room (placements (before ++ fields) row) := by
  induction fields generalizing before d with
  | nil => rwa [List.append_nil]
  | cons f rest ih =>
    obtain ⟨d₁, hone, hrest⟩ := foldlM_cons_ok.mp hmade
    have hfree : ApartFrom (placements before row) f.path := apartFrom_of_apart hapart
    have hbuilt : Built (placements (before ++ [f]) row) d₁ := by
      rw [placements, List.filterMap_append]
      exact h.addField hone hfree
    rw [List.append_cons] at hapart ⊢
    refine ih hbuilt (fun q w hmem => ?_) hrest hapart
    obtain ⟨g, hg, rfl, hw⟩ := mem_placements.mp hmem
    rcases List.mem_append.mp hg with hbefore | hlast
    · exact hnear g.path w (mem_placements.mpr ⟨g, hbefore, rfl, hw⟩)
    · obtain rfl := List.mem_singleton.mp hlast
      rcases addField_cases hone with ⟨v, -, hplaced⟩ | ⟨-, hnone⟩
      · obtain ⟨s, p, hpath, hplace⟩ := placeField_eq_ok hplaced
        rw [hpath] at hfree ⊢
        exact h.near_of_place hfree hnear hplace
      · exact absurd hw (hnone w)

theorem value_of_addField {row : Row} {f : FieldMapping} (h : addField room row d f = .ok d') :
    ∃ v, f.value row = .ok v := by
  obtain ⟨v, hv, -⟩ := bind_eq_ok.mp h
  exact ⟨v, hv⟩

end Document

namespace Mapping

open Document

variable {room : Room} {fields fields' : List FieldMapping} {row : Row}

/-- The values of a row can all be placed: they can be read, are within reach and do not clash. -/
structure Placeable (room : Room) (fields : List FieldMapping) (row : Row) : Prop where
  values : ∀ f ∈ fields, ∃ v, f.value row = .ok v
  near : ∀ f ∈ fields, ∀ v, f.Gives row v → ∀ position, .index position ∈ f.path →
    position < room.positions
  agree : ∀ g ∈ fields, ∀ f ∈ fields, ∀ t, ¬ FieldsClashBy row g f t

theorem Placeable.perm (h : Placeable room fields row) (hperm : fields.Perm fields') :
    Placeable room fields' row where
  values f hf := h.values f (hperm.mem_iff.mpr hf)
  near f hf := h.near f (hperm.mem_iff.mpr hf)
  agree g hg f hf := h.agree g (hperm.mem_iff.mpr hg) f (hperm.mem_iff.mpr hf)

theorem insertable_perm (h : fields.Perm fields') : (insertable fields).Perm (insertable fields') :=
  h.filter _

theorem Apart.perm (h : Apart fields) (hperm : fields.Perm fields') : Apart fields' :=
  List.Pairwise.perm h hperm fun {f g} hfg => (pathsOverlap_comm g.path f.path).trans hfg

theorem Unambiguous.perm (h : Unambiguous fields) (hperm : fields.Perm fields') :
    Unambiguous fields' where
  placed f hf := h.placed f (hperm.mem_iff.mpr hf)
  apart := by
    have hinserted := insertable_perm hperm
    rcases h.apart with ⟨hnone, hapart⟩ | ⟨root, hroot, hothers⟩
    · exact Or.inl ⟨fun f hf => hnone f (hinserted.mem_iff.mpr hf), hapart.perm hinserted⟩
    · refine Or.inr ⟨root, ?_, fun f hf => hothers f (hinserted.mem_iff.mpr hf)⟩
      have hroots := hinserted.filter (·.isRoot)
      rw [hroot] at hroots
      exact List.perm_singleton.mp hroots.symm

theorem Unambiguous.no_root_of_not_supplied (h : Unambiguous fields)
    (hsupplied : suppliesDocument fields = false) :
    ∀ f ∈ insertable fields, f.isRoot = false := by
  intro f hf
  obtain ⟨hfield, hinserted⟩ := List.mem_filter.mp hf
  rw [Bool.eq_false_iff]
  intro hroot
  have hwhole : f.subDocument = true := h.placed f hfield hroot
  rw [suppliesDocument, List.any_eq_false] at hsupplied
  exact hsupplied f hfield (by simp [hinserted, hroot, hwhole])

/-- A mapping is accepted in any order. -/
theorem validate_perm (hperm : fields.Perm fields') :
    validate fields = .ok () ↔ validate fields' = .ok () := by
  rw [validate_eq_ok_iff, validate_eq_ok_iff]
  exact ⟨fun h => h.perm hperm, fun h => h.perm hperm.symm⟩

theorem suppliesDocument_perm (hperm : fields.Perm fields') :
    suppliesDocument fields = suppliesDocument fields' :=
  hperm.any_eq

theorem composing_perm (hperm : fields.Perm fields') :
    (composing fields).Perm (composing fields') := by
  have hinserted := insertable_perm hperm
  unfold composing
  rw [suppliesDocument_perm hperm]
  split
  · exact hinserted.filter _
  · exact hinserted

theorem ofFields_perm (hperm : fields.Perm fields') :
    Shape.ofFields fields = Shape.ofFields fields' := by
  have hfirsts := hperm.filterMap fun f => f.path.head?
  unfold Shape.ofFields Shape.votes
  simp only [hfirsts.countP_eq]

end Mapping

namespace DocumentPlan

open Document Mapping

variable {room : Room} {fields fields' : List FieldMapping} {plan plan' : DocumentPlan} {row : Row}
  {made made' : Value}

/-- No document, or documents that are the same but for the order of their keys; failures may
differ. -/
inductive Alike : Except Fault (Option Value) → Except Fault (Option Value) → Prop
  | failed (e e' : Fault) : Alike (.error e) (.error e')
  | none : Alike (.ok none) (.ok none)
  | some {d d' : Value} (h : d.Reordered d') : Alike (.ok (some d)) (.ok (some d'))

theorem Alike.refl (result : Except Fault (Option Value)) : Alike result result := by
  rcases result with e | _ | d
  · exact .failed e e
  · exact .none
  · exact .some (.same d)

section

variable (hvalid : Mapping.validate fields = .ok ())
  (hplan : make room fields (Shape.ofFields fields) (suppliesDocument fields) = .ok plan)
  (hroots : ∀ f ∈ insertable fields, f.isRoot = false)

include hvalid hplan hroots

/-- The fields of a mapping can be placed exactly if their values can, in whatever order. -/
theorem foldlM_succeeds_iff_placeable :
    (∃ made, (insertable fields).foldlM (addField room row) plan.root = .ok made) ↔
      Placeable room (insertable fields) row := by
  have hsupplied : suppliesDocument fields = false := suppliesDocument_of_no_inserted_root hroots
  have hapart : Apart (insertable fields) :=
    (validate_eq_ok_iff.mp hvalid).apart_of_not_supplied hsupplied
  constructor
  · rintro ⟨made, hmade⟩
    have hroot : Built (placements [] row) plan.root := built_root hplan
    have hnear : Near room (placements (insertable fields) row) :=
      hroot.near_of_foldlM nofun hmade hapart
    refine ⟨fun f hf => ?_, fun f hf v hv => ?_, fun g hg f hf t => ?_⟩
    · obtain ⟨before, after, hsplit⟩ := List.append_of_mem hf
      rw [hsplit] at hmade
      obtain ⟨_, -, hrest⟩ := foldlM_append_ok.mp hmade
      obtain ⟨_, hone, -⟩ := foldlM_cons_ok.mp hrest
      exact value_of_addField hone
    · exact hnear f.path v (mem_placements.mpr ⟨f, hf, rfl, hv⟩)
    · exact not_clash_of_foldlM hvalid hplan hroots (List.append_nil _).symm hmade hg hf
  · intro hplaceable
    rcases hmade : (insertable fields).foldlM (addField room row) plan.root with e | made
    · have hfails : plan.map row = .error e := (map_eq_error_iff hvalid hplan hroots).mpr hmade
      obtain ⟨before, f, after, g, t, hsplit, -, hg, hclash, -⟩ :=
        first_clash_of_error hvalid hplan hroots hplaceable.values hplaceable.near hfails
      have hgmem : g ∈ insertable fields := by simp [hsplit, hg]
      have hfmem : f ∈ insertable fields := by simp [hsplit]
      exact absurd hclash (hplaceable.agree g hgmem f hfmem t)
    · exact ⟨made, rfl⟩

end

/-- A document in which something is placed is built of all that was placed. -/
theorem built_of_map (hvalid : Mapping.validate fields = .ok ())
    (hplan : make room fields (Shape.ofFields fields) (suppliesDocument fields) = .ok plan)
    (hsupplied : suppliesDocument fields = false) {d : Value}
    (hmap : plan.map row = .ok (some d)) :
    Built (placements (insertable fields) row) d ∧ d.isTruthy = true := by
  have hapart := (validate_eq_ok_iff.mp hvalid).apart_of_not_supplied hsupplied
  rw [hsupplied] at hplan
  obtain ⟨hmade, htruthy⟩ := foldlM_of_map hplan hapart hmap
  exact ⟨built_of_foldlM (built_root hplan) hmade hapart, htruthy⟩

theorem exists_make (room : Room) (hshape : Shape.ofFields fields ≠ .inconsistent) :
    ∃ plan, make room fields (Shape.ofFields fields) (suppliesDocument fields) = .ok plan := by
  rcases hmade : Shape.ofFields fields with _ | _ | _
  · exact ⟨_, rfl⟩
  · exact ⟨_, rfl⟩
  · exact absurd hmade hshape

section

variable (hvalid : Mapping.validate fields = .ok ())
  (hplan : make room fields (Shape.ofFields fields) (suppliesDocument fields) = .ok plan)
  (hperm : fields.Perm fields')
  (hplan' : make room fields' (Shape.ofFields fields') (suppliesDocument fields') = .ok plan')

include hvalid hplan hperm hplan'

/-- Where one field is the whole document, it is found wherever it stands. -/
theorem map_eq_of_supplied (hsupplied : suppliesDocument fields = true) (row : Row) :
    plan.map row = plan'.map row := by
  obtain ⟨root, hroot⟩ := (validate_eq_ok_iff.mp hvalid).root_of_supplied hsupplied
  have hroots := (insertable_perm hperm).filter (·.isRoot)
  rw [hroot] at hroots
  have hroot' : (insertable fields').filter (·.isRoot) = [root] :=
    List.perm_singleton.mp hroots.symm
  rw [← suppliesDocument_perm hperm, hsupplied] at hplan'
  rw [hsupplied] at hplan
  rw [map_of_root hplan hroot, map_of_root hplan' hroot']

theorem map_none_of_perm (hnone : plan.map row = .ok none) : plan'.map row = .ok none := by
  have hvalid' := (validate_perm hperm).mp hvalid
  rw [map_eq_none_iff (validate_eq_ok_iff.mp hvalid) hplan] at hnone
  rw [map_eq_none_iff (validate_eq_ok_iff.mp hvalid') hplan']
  intro f hf
  exact hnone f ((composing_perm hperm).mem_iff.mpr hf)

variable (hsupplied : suppliesDocument fields = false)

include hsupplied

theorem map_error_of_perm {e : Fault} (herror : plan.map row = .error e) :
    ∃ e', plan'.map row = .error e' := by
  have hvalid' := (validate_perm hperm).mp hvalid
  have hsupplied' : suppliesDocument fields' = false :=
    (suppliesDocument_perm hperm).symm.trans hsupplied
  have hroots := (validate_eq_ok_iff.mp hvalid).no_root_of_not_supplied hsupplied
  have hroots' := (validate_eq_ok_iff.mp hvalid').no_root_of_not_supplied hsupplied'
  rcases hmade : (insertable fields').foldlM (addField room row) plan'.root with e' | made
  · exact ⟨e', (map_eq_error_iff hvalid' hplan' hroots').mpr hmade⟩
  · -- What could be placed in this order could be placed in the other one.
    have hplaceable := (foldlM_succeeds_iff_placeable hvalid' hplan' hroots').mp ⟨made, hmade⟩
    obtain ⟨other, hother⟩ := (foldlM_succeeds_iff_placeable hvalid hplan hroots).mpr
      (hplaceable.perm (insertable_perm hperm).symm)
    rw [map_eq_error_iff hvalid hplan hroots, hother] at herror
    cases herror

theorem map_some_of_perm {d d' : Value} (hmap : plan.map row = .ok (some d))
    (hmap' : plan'.map row = .ok (some d')) : d.Reordered d' := by
  have hvalid' := (validate_perm hperm).mp hvalid
  have hsupplied' : suppliesDocument fields' = false :=
    (suppliesDocument_perm hperm).symm.trans hsupplied
  obtain ⟨hbuilt, htruthy⟩ := built_of_map hvalid hplan hsupplied hmap
  obtain ⟨hbuilt', -⟩ := built_of_map hvalid' hplan' hsupplied' hmap'
  exact hbuilt.reordered hbuilt' ((insertable_perm hperm).filterMap _) (hbuilt.ne_nil htruthy)

end

theorem map_alike (hvalid : Mapping.validate fields = .ok ())
    (hplan : make room fields (Shape.ofFields fields) (suppliesDocument fields) = .ok plan)
    (hperm : fields.Perm fields')
    (hplan' : make room fields' (Shape.ofFields fields') (suppliesDocument fields') = .ok plan')
    (row : Row) : Alike (plan.map row) (plan'.map row) := by
  have hvalid' := (validate_perm hperm).mp hvalid
  cases hsupplied : suppliesDocument fields with
  | true =>
    rw [map_eq_of_supplied hvalid hplan hperm hplan' hsupplied]
    exact .refl _
  | false =>
    have hsupplied' : suppliesDocument fields' = false :=
      (suppliesDocument_perm hperm).symm.trans hsupplied
    rcases hmap : plan.map row with e | _ | d
    · obtain ⟨e', hmap'⟩ := map_error_of_perm hvalid hplan hperm hplan' hsupplied hmap
      rw [hmap']
      exact .failed e e'
    · rw [map_none_of_perm hvalid hplan hperm hplan' hmap]
      exact .none
    · rcases hmap' : plan'.map row with e' | _ | d'
      · obtain ⟨e, herror⟩ :=
          map_error_of_perm hvalid' hplan' hperm.symm hplan hsupplied' hmap'
        rw [hmap] at herror
        cases herror
      · have hnone := map_none_of_perm hvalid' hplan' hperm.symm hplan hmap'
        rw [hmap] at hnone
        cases hnone
      · exact .some (map_some_of_perm hvalid hplan hperm hplan' hsupplied hmap hmap')

/-- The fields of a mapping can be listed in any order: it is accepted or not, its documents have
the same shape, and every row has the same document but for the order of keys, or none, or fails. -/
theorem map_reorders (room : Room) (hperm : fields.Perm fields') :
    (Mapping.validate fields = .ok () ↔ Mapping.validate fields' = .ok ()) ∧
    Shape.ofFields fields = Shape.ofFields fields' ∧
    suppliesDocument fields = suppliesDocument fields' ∧
    (Mapping.validate fields = .ok () → Shape.ofFields fields ≠ .inconsistent →
      ∃ plan plan',
        make room fields (Shape.ofFields fields) (suppliesDocument fields) = .ok plan ∧
        make room fields' (Shape.ofFields fields') (suppliesDocument fields') = .ok plan' ∧
        ∀ row, Alike (plan.map row) (plan'.map row)) := by
  refine ⟨validate_perm hperm, ofFields_perm hperm, suppliesDocument_perm hperm, ?_⟩
  intro hvalid hshape
  obtain ⟨plan, hplan⟩ := exists_make room hshape
  obtain ⟨plan', hplan'⟩ := exists_make room (ofFields_perm hperm ▸ hshape)
  exact ⟨plan, plan', hplan, hplan', map_alike hvalid hplan hperm hplan'⟩

/-- Places in two containers, each of them with a list position or a key out of order. -/
def seatFields : List FieldMapping :=
  [⟨"guest", "seats[1]", [.key "seats", .index 1], false, false, false, false, .set⟩,
    ⟨"room", "house", [.key "house"], true, false, false, false, .set⟩,
    ⟨"host", "seats[0]", [.key "seats", .index 0], false, false, false, false, .set⟩,
    ⟨"floor", "house", [.key "house"], true, false, false, false, .set⟩]

def seatRow : Row :=
  [("host", .str "h"), ("guest", .str "g"), ("room", .str "r"), ("floor", .int 3)]

theorem map_reorders_seats :
    seatFields.Perm seatFields.reverse ∧ Mapping.validate seatFields = .ok () ∧
    Shape.ofFields seatFields = .object ∧
    ∃ plan plan' d d',
      make .ample seatFields .object false = .ok plan ∧
      make .ample seatFields.reverse .object false = .ok plan' ∧
      plan.map seatRow = .ok (some d) ∧ plan'.map seatRow = .ok (some d') ∧
      d = .obj [("seats", .list [.str "h", .str "g"]),
        ("house", .obj [("room", .str "r"), ("floor", .int 3)])] ∧
      d' = .obj [("house", .obj [("floor", .int 3), ("room", .str "r")]),
        ("seats", .list [.str "h", .str "g"])] ∧
      d.Reordered d' := by
  have hperm : seatFields.Perm seatFields.reverse := (List.reverse_perm seatFields).symm
  have hvalid : Mapping.validate seatFields = .ok () := rfl
  have hshape : Shape.ofFields seatFields ≠ .inconsistent := by decide
  obtain ⟨plan, plan', hplan, hplan', halike⟩ := (map_reorders .ample hperm).2.2.2 hvalid hshape
  obtain rfl := Except.ok.inj hplan
  obtain rfl := Except.ok.inj hplan'
  have hdocuments := halike seatRow
  refine ⟨hperm, hvalid, rfl, _, _, _, _, rfl, rfl, rfl, rfl, rfl, rfl, ?_⟩
  cases hdocuments with
  | some h => exact h

end DocumentPlan

end RowIngest
