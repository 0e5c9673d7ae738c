import Mathlib.Data.List.Sort
import Mathlib.Order.Bounds.Basic
import RowIngest.Proofs.Reordering
/-!
The order of keys. An object gets a new key, behind the others, when a field leads to that key for
the first time; the fields that lead there later find it and leave it where it is. Main statement:
in every object that is made for the values of a row, the keys are in the order of the first
inserted fields that lead to them, and rows with null for the same fields have the same keys in the
same order.
-/
namespace RowIngest

namespace Document

open Mapping

variable {room : Room} {fields before : List FieldMapping} {f : FieldMapping} {row row' : Row}
  {q p : Path} {s : Segment} {name other : String} {n m : Nat} {ps : List Placement}

/-- The field at this position of a mapping is inserted, and its value has its place at the end of
a path or further on. -/
def LeadsTo (fields : List FieldMapping) (row : Row) (q : Path) (n : Nat) : Prop :=
  ∃ f, fields[n]? = some f ∧ f.isInsertable = true ∧ (∃ v, f.Gives row v) ∧ q <+: f.path

/-- The first position of a mapping whose field leads to the end of a path. -/
def FirstTo (fields : List FieldMapping) (row : Row) (q : Path) (n : Nat) : Prop :=
  IsLeast {m | LeadsTo fields row q m} n

/-- Of two keys of the object at a path, a field leads to this one before any leads to the other. -/
def Earlier (fields : List FieldMapping) (row : Row) (q : Path) (name other : String) : Prop :=
  ∃ n m, FirstTo fields row (q ++ [.key name]) n ∧ FirstTo fields row (q ++ [.key other]) m ∧ n < m

theorem LeadsTo.lt_length (h : LeadsTo fields row q n) : n < fields.length := by
  obtain ⟨f, hf, -⟩ := h
  exact (List.getElem?_eq_some_iff.mp hf).1

theorem exists_leadsTo_iff :
    (∃ n, LeadsTo fields row q n) ↔ Reached (insertable fields) row q := by
  constructor
  · rintro ⟨n, f, hf, hinserted, hgives, hleads⟩
    exact ⟨f, List.mem_filter.mpr ⟨List.mem_of_getElem? hf, hinserted⟩, hgives, hleads⟩
  · rintro ⟨f, hf, hgives, hleads⟩
    obtain ⟨hmem, hinserted⟩ := List.mem_filter.mp hf
    obtain ⟨n, hn⟩ := List.getElem?_of_mem hmem
    exact ⟨n, f, hn, hinserted, hgives, hleads⟩

/-- A field more leads where it leads, from the last position. -/
theorem leadsTo_concat : LeadsTo (before ++ [f]) row q n ↔
    LeadsTo before row q n ∨ n = before.length ∧ LeadsTo [f] row q 0 := by
  constructor
  · rintro ⟨g, hg, hrest⟩
    rcases Nat.lt_or_ge n before.length with hlt | hge
    · rw [List.getElem?_append_left hlt] at hg
      exact Or.inl ⟨g, hg, hrest⟩
    · rw [List.getElem?_append_right hge, List.getElem?_singleton] at hg
      obtain ⟨hlast, hf⟩ := Option.ite_none_right_eq_some.mp hg
      obtain rfl := Option.some.inj hf
      exact Or.inr ⟨by omega, f, rfl, hrest⟩
  · rintro (⟨g, hg, hrest⟩ | ⟨rfl, g, hg, hrest⟩)
    · exact ⟨g, (List.getElem?_append_left (List.getElem?_eq_some_iff.mp hg).1).trans hg, hrest⟩
    · exact ⟨g, by simpa using hg, hrest⟩

theorem FirstTo.concat (h : FirstTo before row q n) (f : FieldMapping) :
    FirstTo (before ++ [f]) row q n := by
  refine ⟨leadsTo_concat.mpr (Or.inl h.1), fun m hm => ?_⟩
  rcases leadsTo_concat.mp hm with hbefore | ⟨rfl, -⟩
  · exact h.2 hbefore
  · exact Nat.le_of_lt h.1.lt_length

theorem firstTo_concat (hnone : ¬ ∃ n, LeadsTo before row q n)
    (hlast : ∃ n, LeadsTo (before ++ [f]) row q n) :
    FirstTo (before ++ [f]) row q before.length := by
  obtain ⟨n, hn⟩ := hlast
  rcases leadsTo_concat.mp hn with hbefore | ⟨rfl, -⟩
  · exact absurd ⟨n, hbefore⟩ hnone
  · refine ⟨hn, fun m hm => ?_⟩
    rcases leadsTo_concat.mp hm with hbefore | ⟨rfl, -⟩
    · exact absurd ⟨m, hbefore⟩ hnone
    · exact Nat.le_refl _

theorem exists_firstTo (h : ∃ n, LeadsTo fields row q n) : ∃ n, FirstTo fields row q n := by
  classical
  exact ⟨Nat.find h, Nat.find_spec h, fun m hm => Nat.find_min' h hm⟩

namespace Earlier

theorem concat (h : Earlier before row q name other) (f : FieldMapping) :
    Earlier (before ++ [f]) row q name other := by
  obtain ⟨n, m, hn, hm, hlt⟩ := h
  exact ⟨n, m, hn.concat f, hm.concat f, hlt⟩

theorem asymm (h : Earlier fields row q name other) : ¬ Earlier fields row q other name := by
  rintro ⟨n', m', hn', hm', hlt'⟩
  obtain ⟨n, m, hn, hm, hlt⟩ := h
  rw [hn'.unique hm, hm'.unique hn] at hlt'
  omega

end Earlier

instance : Std.Asymm (Earlier fields row q) := ⟨fun _ _ => Earlier.asymm⟩

/-- The keys of the object at a path, in the order in which fields first lead to them. -/
def keysAt (fields : List FieldMapping) (row : Row) (q : Path) : List String :=
  firstKeys (behind q (placements (insertable fields) row))

theorem mem_keysAt :
    name ∈ keysAt fields row q ↔ ∃ n, LeadsTo fields row (q ++ [.key name]) n := by
  rw [keysAt, mem_firstKeys, ← behind_concat, ← reached_iff, exists_leadsTo_iff]

theorem under_append (s : Segment) (ps ps' : List Placement) :
    under s (ps ++ ps') = under s ps ++ under s ps' :=
  List.filterMap_append

theorem behind_append (q : Path) (ps ps' : List Placement) :
    behind q (ps ++ ps') = behind q ps ++ behind q ps' := by
  induction q generalizing ps ps' with
  | nil => rfl
  | cons s q ih => rw [behind, under_append, ih]; rfl

theorem length_behind_le (q : Path) (ps : List Placement) : (behind q ps).length ≤ ps.length := by
  induction q generalizing ps with
  | nil => exact Nat.le_refl _
  | cons s q ih => exact (ih (under s ps)).trans (List.length_filterMap_le _ _)

theorem firstKeys_concat_cases (ps : List Placement) (p : Placement) :
    firstKeys (ps ++ [p]) = firstKeys ps ∨
      ∃ name, name ∉ firstKeys ps ∧ firstKeys (ps ++ [p]) = firstKeys ps ++ [name] := by
  obtain ⟨_ | ⟨name | position, rest⟩, v⟩ := p
  · left
    simp [firstKeys]
  · rw [firstKeys_concat]
    by_cases hname : name ∈ firstKeys ps
    · exact Or.inl (if_pos hname)
    · exact Or.inr ⟨name, hname, if_neg hname⟩
  · exact Or.inl (firstKeys_concat_index position ps rest v)

/-- A field more adds at most one key to an object, and that behind the others. -/
theorem keysAt_concat (before : List FieldMapping) (f : FieldMapping) (row : Row) (q : Path) :
    keysAt (before ++ [f]) row q = keysAt before row q ∨
      ∃ name, name ∉ keysAt before row q ∧
        keysAt (before ++ [f]) row q = keysAt before row q ++ [name] := by
  have hsplit : behind q (placements (insertable (before ++ [f])) row) =
      behind q (placements (insertable before) row) ++
        behind q (placements (insertable [f]) row) := by
    rw [insertable, List.filter_append, placements, List.filterMap_append, behind_append]
    rfl
  have hone : (behind q (placements (insertable [f]) row)).length ≤ 1 :=
    calc (behind q (placements (insertable [f]) row)).length
        ≤ (placements (insertable [f]) row).length := length_behind_le _ _
      _ ≤ (insertable [f]).length := List.length_filterMap_le _ _
      _ ≤ 1 := List.length_filter_le _ _
  rw [keysAt, keysAt, hsplit]
  rcases hlast : behind q (placements (insertable [f]) row) with _ | ⟨p, _ | ⟨p', rest⟩⟩
  · rw [List.append_nil]
    exact Or.inl rfl
  · exact firstKeys_concat_cases _ p
  · rw [hlast] at hone
    simp at hone

/-- The keys are in the order of the first fields that lead to them, by induction on the mapping:
where a field adds a key, it is the first that leads there. -/
theorem pairwise_keysAt (fields : List FieldMapping) (row : Row) (q : Path) :
    (keysAt fields row q).Pairwise (Earlier fields row q) := by
  induction fields using List.reverseRecOn with
  | nil =>
    have hnil : keysAt [] row q = [] := by
      rw [List.eq_nil_iff_forall_not_mem]
      intro name hname
      obtain ⟨n, hn⟩ := mem_keysAt.mp hname
      exact absurd hn.lt_length (Nat.not_lt_zero n)
    rw [hnil]
    exact .nil
  | append_singleton before f ih =>
    have hbefore := ih.imp fun h => Earlier.concat h f
    rcases keysAt_concat before f row q with hsame | ⟨name, hnew, hadded⟩
    · rwa [hsame]
    · have hname : name ∈ keysAt (before ++ [f]) row q := by simp [hadded]
      rw [mem_keysAt] at hnew hname
      rw [hadded, List.pairwise_append]
      refine ⟨hbefore, List.pairwise_singleton _ _, fun a ha b hb => ?_⟩
      obtain rfl := List.mem_singleton.mp hb
      obtain ⟨n, hn⟩ := exists_firstTo (mem_keysAt.mp ha)
      exact ⟨n, before.length, hn.concat f, firstTo_concat hnew hname, hn.1.lt_length⟩

/-- The keys of an object at a path are those that fields lead to, in the order of the first fields
that do. -/
structure KeysFollow (fields : List FieldMapping) (row : Row) (q : Path) (entries : Fields) :
    Prop where
  keys : ∀ name, name ∈ Fields.names entries ↔ ∃ n, LeadsTo fields row (q ++ [.key name]) n
  order : (Fields.names entries).Pairwise (Earlier fields row q)

theorem keysFollow_of_names {entries : Fields} (h : Fields.names entries = keysAt fields row q) :
    KeysFollow fields row q entries where
  keys name := by rw [h, mem_keysAt]
  order := h ▸ pairwise_keysAt fields row q

/-- Where fields lead decides on the keys and their order. -/
theorem KeysFollow.names_eq {entries entries' : Fields} (h : KeysFollow fields row q entries)
    (h' : KeysFollow fields row' q entries')
    (hleads : ∀ p n, LeadsTo fields row p n ↔ LeadsTo fields row' p n) :
    Fields.names entries' = Fields.names entries := by
  have hsame : LeadsTo fields row = LeadsTo fields row' :=
    funext fun p => funext fun n => propext (hleads p n)
  have horder : (Fields.names entries').Pairwise (Earlier fields row q) := by
    unfold Earlier FirstTo
    rw [hsame]
    exact h'.order
  refine horder.eq_of_mem_iff h.order fun name => ?_
  rw [h.keys, h'.keys, hsame]

/-- Placing fields in a root makes a container at this path: it is the root, or a value is placed
further on where the fields before it have left nothing. -/
def Makes (room : Room) (root : Value) (fields : List FieldMapping) (row : Row) (q : Path) :
    Prop :=
  q = [] ∨ ∃ before f after made, fields = before ++ f :: after ∧
    before.foldlM (addField room row) root = .ok made ∧ (∃ v, f.Gives row v) ∧ q <+: f.path ∧
    q ≠ f.path ∧ (valueAt made q).getD .null = .null

/-- Among the fields that lead to the end of a path there is a first one. -/
theorem Reached.first (h : Reached fields row q) :
    ∃ before f after, fields = before ++ f :: after ∧ (∃ v, f.Gives row v) ∧ q <+: f.path ∧
      ¬ Reached before row q := by
  classical
  rcases hfind : fields.find? (fun f => (∃ v, f.Gives row v) ∧ q <+: f.path) with _ | f
  · obtain ⟨f, hf, hleads⟩ := h
    have hnot := List.find?_eq_none.mp hfind f hf
    simp only [decide_eq_true_eq] at hnot
    exact absurd hleads hnot
  · obtain ⟨hleads, before, after, hsplit, hbefore⟩ := List.find?_eq_some_iff_append.mp hfind
    rw [decide_eq_true_eq] at hleads
    refine ⟨before, f, after, hsplit, hleads.1, hleads.2, ?_⟩
    rintro ⟨g, hg, hearlier⟩
    have hnot := hbefore g hg
    simp only [Bool.not_eq_true', decide_eq_false_iff_not] at hnot
    exact hnot hearlier

section

variable {root d c : Value} (hapart : Apart fields) (hroots : ∀ f ∈ fields, f.isRoot = false)

include hapart hroots

theorem not_covered_of_makes (h : Makes room root fields row q) : ¬ Covered fields row q := by
  rintro ⟨g, hg, -, hcovers⟩
  rcases h with rfl | ⟨before, f, after, -, rfl, -, -, hleads, hne, -⟩
  · have hroot : g.isRoot = true := by
      rw [FieldMapping.isRoot, List.prefix_nil.mp hcovers]
      rfl
    rw [hroots g hg] at hroot
    cases hroot
  · -- The path of the one field would lead through the place of the other.
    have hshort : g.path ≠ f.path := by
      intro hsame
      exact hne (hleads.eq_of_length_le (hsame ▸ hcovers.length_le))
    have hnested := DocumentPlan.isNested_of_apart hapart
    simp only [DocumentPlan.isNested, List.any_eq_false] at hnested
    have hnot := hnested g hg
    simp only [List.any_eq_true, not_exists, not_and] at hnot
    exact hnot f (by simp) (by simpa using ⟨hcovers.trans hleads, hshort⟩)

/-- A container of a document is made for the values further on exactly if it is no part of a
value. -/
theorem makes_iff_not_covered (hroot : Built [] root)
    (hmade : fields.foldlM (addField room row) root = .ok d) (hat : valueAt d q = some c)
    (hcontainer : c.isContainer = true) :
    Makes room root fields row q ↔ ¬ Covered fields row q := by
  refine ⟨not_covered_of_makes hapart hroots, fun huncovered => ?_⟩
  by_cases hq : q = []
  · exact Or.inl hq
  · right
    have hreached : Reached fields row q := by
      rw [reached_iff]
      cases (built_of_foldlM hroot hmade hapart).found hat with
      | inside hmem hleads _ => exact absurd hleads (not_prefix_of_not_covered huncovered _ _ hmem)
      | padding hnull _ _ _ =>
        subst hnull
        cases hcontainer
      | built _ hbehind => exact hbehind hq
    obtain ⟨before, f, after, rfl, hgives, hleads, hfirst⟩ := hreached.first
    obtain ⟨made, hbefore, -⟩ := foldlM_append_ok.mp hmade
    have hne : q ≠ f.path := by
      rintro rfl
      exact huncovered ⟨f, by simp, hgives, List.prefix_refl _⟩
    refine ⟨before, f, after, made, rfl, hbefore, hgives, hleads, hne, ?_⟩
    rcases hthere : valueAt made q with _ | w
    · rfl
    · have hapart' : Apart before := (List.pairwise_append.mp hapart).1
      cases (built_of_foldlM hroot hbefore hapart').found hthere with
      | inside hmem hcovers _ =>
        obtain ⟨g, hg, rfl, hv⟩ := mem_placements.mp hmem
        exact absurd ⟨g, List.mem_append_left _ hg, ⟨_, hv⟩, hcovers⟩ huncovered
      | padding hnull _ _ _ => exact hnull
      | built _ hbehind => exact absurd (reached_iff.mpr (hbehind hq)) hfirst

end

theorem valueAt_append (d : Value) (q p : Path) :
    valueAt d (q ++ p) = (valueAt d q).bind (valueAt · p) := by
  induction q generalizing d with
  | nil => rfl
  | cons s q ih =>
    rw [List.cons_append, valueAt, valueAt, Option.bind_assoc]
    exact Option.bind_congr fun inner _ => ih inner

theorem object_of_valueAt {d v : Value} (h : valueAt d (q ++ .key name :: p) = some v) :
    ∃ entries, valueAt d q = some (.obj entries) := by
  rw [valueAt_append] at h
  obtain ⟨c, hat, hbelow⟩ := Option.bind_eq_some_iff.mp h
  obtain ⟨inner, hchild, -⟩ := Option.bind_eq_some_iff.mp hbelow
  cases c with
  | obj entries => exact ⟨entries, hat⟩
  | _ => cases hchild

/-- An object that was made for values further on is on the path of one of them. -/
theorem Built.exists_key {d : Value} {entries : Fields} (h : Built ps d) (hsome : ps ≠ [])
    (hat : valueAt d q = some (.obj entries)) (huncovered : ∀ p v, (p, v) ∈ ps → ¬ p <+: q) :
    ∃ name p v, (q ++ .key name :: p, v) ∈ ps := by
  obtain ⟨hbuilt, hne, hpath⟩ := h.found_container hsome hat (by simp) huncovered
  obtain ⟨⟨_ | ⟨s, p⟩, v⟩, hmem⟩ := List.exists_mem_of_ne_nil _ hne
  · exact absurd rfl (hpath [] v hmem)
  · have hsuits : Suits (.obj entries) s := hbuilt.suits hpath hmem
    cases s with
    | key name => exact ⟨name, p, v, mem_behind.mp hmem⟩
    | index position => cases hsuits

/-- Rows that have null for the same inserted fields. -/
def SameNulls (fields : List FieldMapping) (row row' : Row) : Prop :=
  ∀ f ∈ insertable fields, f.value row = .ok .null ↔ f.value row' = .ok .null

theorem exists_gives_iff (h : ∃ v, f.value row = .ok v) :
    (∃ v, f.Gives row v) ↔ f.value row ≠ .ok .null := by
  obtain ⟨v, hv⟩ := h
  cases v <;> simp [FieldMapping.Gives, hv, Value.isNull]

section

variable (hnulls : SameNulls fields row row')
  (hvalues : ∀ f ∈ insertable fields, ∃ v, f.value row = .ok v)
  (hvalues' : ∀ f ∈ insertable fields, ∃ v, f.value row' = .ok v)

include hnulls hvalues hvalues'

/-- Where all values can be read, rows with the same nulls give values to the same fields. -/
theorem SameNulls.gives_iff (hf : f ∈ insertable fields) :
    (∃ v, f.Gives row v) ↔ ∃ v, f.Gives row' v := by
  rw [exists_gives_iff (hvalues f hf), exists_gives_iff (hvalues' f hf), Ne, Ne, hnulls f hf]

theorem SameNulls.covered_iff :
    Covered (insertable fields) row q ↔ Covered (insertable fields) row' q :=
  exists_congr fun _ => and_congr_right fun hf =>
    and_congr_left' (hnulls.gives_iff hvalues hvalues' hf)

theorem SameNulls.leadsTo_iff : LeadsTo fields row q n ↔ LeadsTo fields row' q n := by
  refine exists_congr fun f => and_congr_right fun hf => and_congr_right fun hinserted => ?_
  have hmem : f ∈ insertable fields :=
    List.mem_filter.mpr ⟨List.mem_of_getElem? hf, hinserted⟩
  exact and_congr_left' (hnulls.gives_iff hvalues hvalues' hmem)

end

end Document

namespace DocumentPlan

open Document Mapping

variable {room : Room} {fields : List FieldMapping} {plan : DocumentPlan} {row row' : Row}
  {d d' : Value} {q : Path} {entries : Fields}

section

variable (hvalid : Mapping.validate fields = .ok ())
  (hplan : make room fields (Shape.ofFields fields) (suppliesDocument fields) = .ok plan)
  (hroots : ∀ f ∈ insertable fields, f.isRoot = false)

include hvalid hplan hroots

theorem made_by_map (hmap : plan.map row = .ok (some d)) :
    (insertable fields).foldlM (addField room row) plan.root = .ok d := by
  have hsupplied := suppliesDocument_of_no_inserted_root hroots
  rw [hsupplied] at hplan
  exact (foldlM_of_map hplan ((validate_eq_ok_iff.mp hvalid).apart_of_not_supplied hsupplied)
    hmap).1

theorem values_of_map (hmap : plan.map row = .ok (some d)) :
    ∀ f ∈ insertable fields, ∃ v, f.value row = .ok v :=
  ((foldlM_succeeds_iff_placeable hvalid hplan hroots).mp
    ⟨d, made_by_map hvalid hplan hroots hmap⟩).values

theorem makes_iff (hmap : plan.map row = .ok (some d)) {c : Value} (hat : valueAt d q = some c)
    (hcontainer : c.isContainer = true) :
    Makes room plan.root (insertable fields) row q ↔ ¬ Covered (insertable fields) row q := by
  have hapart : Apart (insertable fields) := (validate_eq_ok_iff.mp hvalid).apart_of_not_supplied
    (suppliesDocument_of_no_inserted_root hroots)
  exact makes_iff_not_covered hapart hroots (built_root hplan)
    (made_by_map hvalid hplan hroots hmap) hat hcontainer

theorem keysFollow_of_map (hmap : plan.map row = .ok (some d))
    (hat : valueAt d q = some (.obj entries))
    (huncovered : ¬ Covered (insertable fields) row q) : KeysFollow fields row q entries := by
  obtain ⟨hbuilt, htruthy⟩ :=
    built_of_map hvalid hplan (suppliesDocument_of_no_inserted_root hroots) hmap
  exact keysFollow_of_names
    (hbuilt.names_eq (hbuilt.ne_nil htruthy) hat (not_prefix_of_not_covered huncovered))

/-- The objects that are made for the values of one row are made for those of another one that has
the same nulls. -/
theorem object_of_sameNulls (hmap : plan.map row = .ok (some d))
    (hmap' : plan.map row' = .ok (some d')) (hnulls : SameNulls fields row row')
    (hat : valueAt d q = some (.obj entries))
    (huncovered : ¬ Covered (insertable fields) row q) :
    ∃ entries', valueAt d' q = some (.obj entries') := by
  have hsupplied := suppliesDocument_of_no_inserted_root hroots
  obtain ⟨hbuilt, htruthy⟩ := built_of_map hvalid hplan hsupplied hmap
  obtain ⟨name, p, v, hmem⟩ :=
    hbuilt.exists_key (hbuilt.ne_nil htruthy) hat (not_prefix_of_not_covered huncovered)
  obtain ⟨f, hf, hpath, hv⟩ := mem_placements.mp hmem
  obtain ⟨v', hv'⟩ := (hnulls.gives_iff (values_of_map hvalid hplan hroots hmap)
    (values_of_map hvalid hplan hroots hmap') hf).mp ⟨v, hv⟩
  have hapart := (validate_eq_ok_iff.mp hvalid).apart_of_not_supplied hsupplied
  rw [hsupplied] at hplan
  have hthere := valueAt_of_map hplan hapart hmap' hf hv'
  rw [hpath] at hthere
  exact object_of_valueAt hthere

end

/-- In every object that is made for the values of a row, at any depth, the keys are those that
inserted fields with a value lead to, in the order of the first fields that do. Rows that have null
for the same inserted fields have the same objects made, with the same keys in the same order. -/
theorem map_orders_keys (hvalid : Mapping.validate fields = .ok ())
    (hplan : make room fields (Shape.ofFields fields) (suppliesDocument fields) = .ok plan)
    (hroots : ∀ f ∈ insertable fields, f.isRoot = false) (hmap : plan.map row = .ok (some d)) :
    (∀ q entries, valueAt d q = some (.obj entries) →
      Makes room plan.root (insertable fields) row q → KeysFollow fields row q entries) ∧
    ∀ row' d', SameNulls fields row row' → plan.map row' = .ok (some d') →
      ∀ q entries, valueAt d q = some (.obj entries) →
        Makes room plan.root (insertable fields) row q →
        Makes room plan.root (insertable fields) row' q ∧
          ∃ entries', valueAt d' q = some (.obj entries') ∧
            Fields.names entries' = Fields.names entries := by
  constructor
  · intro q entries hat hmakes
    exact keysFollow_of_map hvalid hplan hroots hmap hat
      ((makes_iff hvalid hplan hroots hmap hat rfl).mp hmakes)
  · intro row' d' hnulls hmap' q entries hat hmakes
    have hvalues := values_of_map hvalid hplan hroots hmap
    have hvalues' := values_of_map hvalid hplan hroots hmap'
    have huncovered := (makes_iff hvalid hplan hroots hmap hat rfl).mp hmakes
    have huncovered' : ¬ Covered (insertable fields) row' q :=
      fun h => huncovered ((hnulls.covered_iff hvalues hvalues').mpr h)
    obtain ⟨entries', hat'⟩ :=
      object_of_sameNulls hvalid hplan hroots hmap hmap' hnulls hat huncovered
    have hfollow := keysFollow_of_map hvalid hplan hroots hmap hat huncovered
    have hfollow' := keysFollow_of_map hvalid hplan hroots hmap' hat' huncovered'
    exact ⟨(makes_iff hvalid hplan hroots hmap' hat' rfl).mpr huncovered', entries', hat',
      hfollow.names_eq hfollow' fun _ _ => hnulls.leadsTo_iff hvalues hvalues'⟩

/-- A parcel with two items, the second of which is mapped first. Its street is null in the rows
below, and a second field for its city is for updates only. -/
def parcelFields : List FieldMapping :=
  [⟨"street", "address", [.key "address"], true, false, false, false, .set⟩,
    ⟨"city", "address", [.key "address"], true, false, true, false, .set⟩,
    ⟨"id", "", [], true, false, false, false, .set⟩,
    ⟨"note", "items[1]", [.key "items", .index 1], true, false, false, false, .set⟩,
    ⟨"city", "address", [.key "address"], true, false, false, false, .set⟩,
    ⟨"sku", "items[0]", [.key "items", .index 0], true, false, false, false, .set⟩,
    ⟨"count", "items[1]", [.key "items", .index 1], true, false, false, false, .set⟩]

def parcelPlan : DocumentPlan :=
  ⟨.ample, insertable parcelFields, .obj [], false, false⟩

def parcelRow : Row :=
  [("count", .int 2), ("sku", .str "tea"), ("city", .str "Oslo"), ("note", .str "gift"),
    ("id", .int 7)]

def parcelEntries : Fields :=
  [("id", .int 7), ("items", .list [.obj [("sku", .str "tea")],
      .obj [("note", .str "gift"), ("count", .int 2)]]),
    ("address", .obj [("city", .str "Oslo")])]

/-- Another row with null for the street alone, with other values and in another order. -/
def returnedRow : Row :=
  [("id", .str "r"), ("note", .bool false), ("street", .null), ("city", .obj [("b", .null)]),
    ("count", .int 0), ("sku", .list [])]

def returnedEntries : Fields :=
  [("id", .str "r"), ("items", .list [.obj [("sku", .list [])],
      .obj [("note", .bool false), ("count", .int 0)]]),
    ("address", .obj [("city", .obj [("b", .null)])])]

theorem map_orders_keys_parcel :
    Mapping.validate parcelFields = .ok () ∧
    make .ample parcelFields (Shape.ofFields parcelFields) (suppliesDocument parcelFields) =
      .ok parcelPlan ∧
    (∀ f ∈ insertable parcelFields, f.isRoot = false) ∧
    parcelPlan.map parcelRow = .ok (some (.obj parcelEntries)) ∧
    parcelPlan.map returnedRow = .ok (some (.obj returnedEntries)) ∧
    SameNulls parcelFields parcelRow returnedRow ∧
    KeysFollow parcelFields parcelRow [] parcelEntries ∧
    KeysFollow parcelFields parcelRow [.key "items", .index 1]
      [("note", .str "gift"), ("count", .int 2)] ∧
    Makes .ample parcelPlan.root (insertable parcelFields) returnedRow
      [.key "items", .index 1] := by
  have hvalid : Mapping.validate parcelFields = .ok () := rfl
  have hplan : make .ample parcelFields (Shape.ofFields parcelFields)
      (suppliesDocument parcelFields) = .ok parcelPlan := rfl
  have hroots : ∀ f ∈ insertable parcelFields, f.isRoot = false := by
    simp [parcelFields, FieldMapping.isRoot, FieldMapping.path]
  have hmap : parcelPlan.map parcelRow = .ok (some (.obj parcelEntries)) := rfl
  have hmap' : parcelPlan.map returnedRow = .ok (some (.obj returnedEntries)) := rfl
  have hnulls : SameNulls parcelFields parcelRow returnedRow := by
    simp [SameNulls, parcelFields, FieldMapping.isInsertable, FieldMapping.value, Row.value,
      Fields.get?, parcelRow, returnedRow]
  obtain ⟨hkeys, hsame⟩ := map_orders_keys hvalid hplan hroots hmap
  -- The items are made for the note, before anything is placed there.
  have hmakes : Makes .ample parcelPlan.root (insertable parcelFields) parcelRow
      [.key "items", .index 1] :=
    Or.inr ⟨[parcelFields[0], parcelFields[2]], parcelFields[3],
      [parcelFields[4], parcelFields[5], parcelFields[6]], .obj [("id", .int 7)], rfl, rfl,
      ⟨.str "gift", rfl, rfl⟩, ⟨[.key "note"], rfl⟩, by decide, rfl⟩
  exact ⟨hvalid, hplan, hroots, hmap, hmap', hnulls, hkeys [] _ rfl (Or.inl rfl),
    hkeys _ _ rfl hmakes, (hsame _ _ hnulls hmap' _ _ rfl hmakes).1⟩

end DocumentPlan

end RowIngest
