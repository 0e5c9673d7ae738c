import RowIngest.Proofs.Building
import RowIngest.Proofs.Yielding
/-!
What is in a document. Whatever is found at a path lies inside a value that was placed, or a value
was placed there or further on, or it is null in an array that reaches further. Main statement: a
document holds the values that the row gives to the inserted fields, and nothing else.
-/
namespace RowIngest

namespace Document

variable {ps : List Placement} {p q : Path} {s : Segment} {d v w : Value}

theorem behind_ne_nil_iff : behind q ps ≠ [] ↔ ∃ p v, (q ++ p, v) ∈ ps := by
  constructor
  · intro hne
    obtain ⟨⟨p, v⟩, hmem⟩ := List.exists_mem_of_ne_nil _ hne
    exact ⟨p, v, mem_behind.mp hmem⟩
  · rintro ⟨p, v, hmem⟩ hnil
    have hbehind : (p, v) ∈ behind q ps := mem_behind.mpr hmem
    rw [hnil] at hbehind
    cases hbehind

theorem behind_concat (q : Path) (s : Segment) (ps : List Placement) :
    behind (q ++ [s]) ps = under s (behind q ps) := by
  induction q generalizing ps with
  | nil => rfl
  | cons t q ih => exact ih (under t ps)

/-- Why something is found at a path of a document that these placements build: it belongs to a
value that was placed before the end of the path, or to an array that is filled up there, or it is
what the placements behind the path build. -/
inductive Found (ps : List Placement) (q : Path) (w : Value) : Prop
  | inside {p : Path} {v : Value} (hmem : (p, v) ∈ ps) (hleads : p <+: q) (hshort : p ≠ q)
  | padding {r : Path} {i j : Nat} (hnull : w = .null) (hq : q = r ++ [.index i]) (hlt : i < j)
      (hlater : behind (r ++ [.index j]) ps ≠ [])
  | built (hbuilt : Built (behind q ps) w) (hsome : q ≠ [] → behind q ps ≠ [])

namespace Found

theorem cons (h : Found (under s ps) q w) (hne : under s ps ≠ []) : Found ps (s :: q) w := by
  cases h with
  | @inside p v hmem hleads hshort =>
    exact .inside (mem_under.mp hmem) (List.cons_prefix_cons.mpr ⟨rfl, hleads⟩)
      fun hsame => hshort (List.cons.inj hsame).2
  | @padding r i j hnull hq hlt hlater =>
    exact .padding (r := s :: r) hnull (congrArg (s :: ·) hq) hlt hlater
  | built hbuilt hsome =>
    refine .built hbuilt fun _ => ?_
    cases q with
    | nil => exact hne
    | cons t q => exact hsome (by simp)

end Found

namespace Built

/-- Whatever is found in a document is there for one of these reasons. -/
theorem found (h : Built ps d) (hat : valueAt d q = some w) : Found ps q w := by
  induction q generalizing ps d with
  | nil =>
    obtain rfl := Option.some.inj hat
    exact .built h fun hne => absurd rfl hne
  | cons s q ih =>
    obtain ⟨inner, hchild, hinner⟩ := Option.bind_eq_some_iff.mp hat
    cases h with
    | value _ => exact .inside (List.mem_singleton_self _) List.nil_prefix (by simp)
    | container hspans _ hbuilt hfilled =>
      by_cases hnone : under s ps = []
      · -- Nothing is placed there, so the array is filled up with null, and there the path ends.
        obtain rfl := hfilled s inner hchild hnone
        obtain ⟨i, j, rfl, hlt, hlater⟩ := hspans.filled hchild hnone
        cases q with
        | nil =>
          obtain rfl := Option.some.inj hinner
          exact .padding (r := []) rfl rfl hlt hlater
        | cons t q => cases hinner
      · exact (ih (hbuilt s inner hchild hnone) hinner).cons hnone

/-- What is found where no value was placed on the way, and is not null, was made to hold the
values placed further on. -/
theorem found_container (h : Built ps d) (hsome : ps ≠ []) (hat : valueAt d q = some w)
    (hnull : w ≠ .null) (huncovered : ∀ p v, (p, v) ∈ ps → ¬ p <+: q) :
    Built (behind q ps) w ∧ behind q ps ≠ [] ∧ ∀ p v, (p, v) ∈ behind q ps → p ≠ [] := by
  cases h.found hat with
  | inside hmem hleads _ => exact absurd hleads (huncovered _ _ hmem)
  | padding hw _ _ _ => exact absurd hw hnull
  | built hbuilt hbehind =>
    refine ⟨hbuilt, ?_, ?_⟩
    · by_cases hq : q = []
      · rwa [hq]
      · exact hbehind hq
    · rintro p v hmem rfl
      have hplaced : (q ++ [], v) ∈ ps := mem_behind.mp hmem
      rw [List.append_nil] at hplaced
      exact huncovered q v hplaced (List.prefix_refl q)

/-- An object that was made to hold values has the keys that their paths go on by. -/
theorem names_eq {entries : Fields} (h : Built ps d) (hsome : ps ≠ [])
    (hat : valueAt d q = some (.obj entries)) (huncovered : ∀ p v, (p, v) ∈ ps → ¬ p <+: q) :
    Fields.names entries = firstKeys (behind q ps) := by
  obtain ⟨hbuilt, -, hpath⟩ := h.found_container hsome hat (by simp) huncovered
  exact hbuilt.spans hpath

theorem not_truthy_of_nil (h : Built [] d) : d.isTruthy = false := by
  have hspans : Spans [] d := h.spans nofun
  cases d with
  | obj entries =>
    have hnames : Fields.names entries = [] := hspans
    cases entries with
    | nil => rfl
    | cons entry rest => cases hnames
  | list items =>
    cases items with
    | nil => rfl
    | cons item rest => cases hspans
  | _ => cases hspans

end Built

variable {fields : List FieldMapping} {row : Row}

/-- A value of one of these fields has its place at the end of this path or further on. -/
def Reached (fields : List FieldMapping) (row : Row) (q : Path) : Prop :=
  ∃ f ∈ fields, (∃ v, f.Gives row v) ∧ q <+: f.path

/-- A value of one of these fields has its place at the end of this path or before. -/
def Covered (fields : List FieldMapping) (row : Row) (q : Path) : Prop :=
  ∃ f ∈ fields, (∃ v, f.Gives row v) ∧ f.path <+: q

/-- A document holds the values that a row gives to these fields, and nothing else. -/
structure Holds (fields : List FieldMapping) (row : Row) (d : Value) : Prop where
  values : ∀ f ∈ fields, ∀ v, f.Gives row v → valueAt d f.path = some v
  /-- All that is found lies inside one of the values, or leads to one, or is a null before a
  position of an array that leads to one. -/
  only : ∀ q w, valueAt d q = some w →
    (∃ f ∈ fields, (∃ v, f.Gives row v) ∧ f.path <+: q ∧ f.path ≠ q) ∨ Reached fields row q ∨
      w = .null ∧ ∃ r i j, q = r ++ [.index i] ∧ i < j ∧ Reached fields row (r ++ [.index j])
  /-- An array that does not belong to one of the values ends with the last position that leads
  to one. -/
  arrays : ∀ q items, valueAt d q = some (.list items) → ¬ Covered fields row q →
    ∃ last, items.length = last + 1 ∧ Reached fields row (q ++ [.index last]) ∧
      ∀ i, Reached fields row (q ++ [.index i]) → i ≤ last
  /-- An object that does not belong to one of the values has no name twice. -/
  objects : ∀ q entries, valueAt d q = some (.obj entries) → ¬ Covered fields row q →
    (Fields.names entries).Nodup

theorem reached_iff : Reached fields row q ↔ behind q (placements fields row) ≠ [] := by
  rw [behind_ne_nil_iff]
  constructor
  · rintro ⟨f, hf, ⟨v, hv⟩, p, hp⟩
    exact ⟨p, v, mem_placements.mpr ⟨f, hf, hp.symm, hv⟩⟩
  · rintro ⟨p, v, hmem⟩
    obtain ⟨f, hf, hpath, hv⟩ := mem_placements.mp hmem
    exact ⟨f, hf, ⟨v, hv⟩, p, hpath.symm⟩

theorem not_prefix_of_not_covered (h : ¬ Covered fields row q) :
    ∀ p v, (p, v) ∈ placements fields row → ¬ p <+: q := by
  intro p v hmem hleads
  obtain ⟨f, hf, rfl, hv⟩ := mem_placements.mp hmem
  exact h ⟨f, hf, ⟨v, hv⟩, hleads⟩

/-- What the values of these fields build holds them and nothing else. -/
theorem Built.holds (h : Built (placements fields row) d) (hsome : placements fields row ≠ [])
    (hvalues : ∀ f ∈ fields, ∀ v, f.Gives row v → valueAt d f.path = some v) :
    Holds fields row d where
  values := hvalues
  only q w hat := by
    cases h.found hat with
    | inside hmem hleads hshort =>
      obtain ⟨f, hf, rfl, hv⟩ := mem_placements.mp hmem
      exact Or.inl ⟨f, hf, ⟨_, hv⟩, hleads, hshort⟩
    | padding hnull hq hlt hlater =>
      exact Or.inr (Or.inr ⟨hnull, _, _, _, hq, hlt, reached_iff.mpr hlater⟩)
    | built _ hbehind =>
      refine Or.inr (Or.inl (reached_iff.mpr ?_))
      by_cases hq : q = []
      · rwa [hq]
      · exact hbehind hq
  arrays q items hat huncovered := by
    obtain ⟨hbuilt, hne, hpath⟩ :=
      h.found_container hsome hat (by simp) (not_prefix_of_not_covered huncovered)
    have hlength : items.length = extent (behind q (placements fields row)) := hbuilt.spans hpath
    obtain ⟨hbound, hreached⟩ := extent_spec (behind q (placements fields row))
    have hbelow : ∀ i, Reached fields row (q ++ [.index i]) → i < items.length := by
      intro i hi
      rw [reached_iff, behind_concat] at hi
      rw [hlength]
      exact hbound i hi
    -- Some value is placed further on, by a position of this array.
    obtain ⟨⟨_ | ⟨s, rest⟩, v⟩, hmem⟩ := List.exists_mem_of_ne_nil _ hne
    · exact absurd rfl (hpath _ _ hmem)
    · have hs : Suits (.list items) s := hbuilt.suits hpath hmem
      cases s with
      | key name => cases hs
      | index position =>
        have hposition : position < extent (behind q (placements fields row)) :=
          hbound position (under_ne_nil_iff.mpr ⟨rest, v, hmem⟩)
        obtain ⟨last, hlast⟩ : ∃ last, items.length = last + 1 := ⟨items.length - 1, by omega⟩
        refine ⟨last, hlast, ?_, fun i hi => ?_⟩
        · rw [reached_iff, behind_concat]
          exact hreached last (hlength.symm.trans hlast)
        · have hi := hbelow i hi
          omega
  objects q entries hat huncovered := by
    rw [h.names_eq hsome hat (not_prefix_of_not_covered huncovered)]
    exact nodup_firstKeys _

end Document

namespace DocumentPlan

open Document Mapping

variable {room : Room} {fields : List FieldMapping} {plan : DocumentPlan} {row : Row}
  {whole : Option Value}

/-- Where no inserted field is the whole document, a row has no document exactly if it has null for
all inserted fields, and otherwise its document holds the values of these fields and nothing
else. -/
theorem map_holds (hvalid : Mapping.validate fields = .ok ())
    (hplan : make room fields (Shape.ofFields fields) (suppliesDocument fields) = .ok plan)
    (hroots : ∀ f ∈ insertable fields, f.isRoot = false) (hmap : plan.map row = .ok whole) :
    (whole = none ↔ ∀ f ∈ insertable fields, f.value row = .ok .null) ∧
      ∀ d, whole = some d → Holds (insertable fields) row d := by
  have hunambiguous : Unambiguous fields := validate_eq_ok_iff.mp hvalid
  have hsupplied : suppliesDocument fields = false := suppliesDocument_of_no_inserted_root hroots
  have hapart : Apart (insertable fields) := hunambiguous.apart_of_not_supplied hsupplied
  constructor
  · have hcomposing : composing fields = insertable fields := by
      rw [composing, hsupplied, if_neg Bool.false_ne_true]
    rw [← hcomposing, ← map_eq_none_iff hunambiguous hplan, hmap, Except.ok.injEq]
  · rintro d rfl
    rw [hsupplied] at hplan
    obtain ⟨made, hmade, hwhole⟩ := assemble_of_map hplan hapart hmap
    by_cases htruthy : made.isTruthy = true
    · rw [if_pos htruthy, Option.some.injEq] at hwhole
      subst hwhole
      have hbuilt : Built (placements (insertable fields) row) d :=
        built_of_foldlM (built_root hplan) hmade hapart
      have hsome : placements (insertable fields) row ≠ [] := by
        intro hnil
        rw [hnil] at hbuilt
        rw [hbuilt.not_truthy_of_nil] at htruthy
        cases htruthy
      refine hbuilt.holds hsome fun f hf v hv => ?_
      exact valueAt_of_map hplan hapart hmap hf hv
    · rw [if_neg htruthy] at hwhole
      cases hwhole

/-- The last of three orders and a note for the first, with a part that is taken as it is and a
field that the row below has no value for. -/
def orderFields : List FieldMapping :=
  [⟨"id", "orders[2]", [.key "orders", .index 2], true, false, false, false, .set⟩,
    ⟨"note", "orders[0].notes[1]", [.key "orders", .index 0, .key "notes", .index 1], false, false,
      false, false, .set⟩,
    ⟨"buyer", "", [], true, false, false, true, .set⟩,
    ⟨"paid", "", [], true, false, false, false, .set⟩]

def orderPlan : DocumentPlan := ⟨.ample, orderFields, .obj [], false, false⟩

def orderRow : Row :=
  [("buyer", .obj [("name", .str "Ada"), ("phones", .list [.null])]), ("note", .str "gift"),
    ("id", .int 7)]

def orderDocument : Value :=
  .obj [("orders", .list [.obj [("notes", .list [.null, .str "gift"])], .null,
      .obj [("id", .int 7)]]),
    ("buyer", .obj [("name", .str "Ada"), ("phones", .list [.null])])]

theorem map_holds_orders :
    Mapping.validate orderFields = .ok () ∧
    make .ample orderFields (Shape.ofFields orderFields) (suppliesDocument orderFields) =
      .ok orderPlan ∧
    (∀ f ∈ insertable orderFields, f.isRoot = false) ∧
    orderPlan.map orderRow = .ok (some orderDocument) ∧
    Holds (insertable orderFields) orderRow orderDocument := by
  have hvalid : Mapping.validate orderFields = .ok () := rfl
  have hplan : make .ample orderFields (Shape.ofFields orderFields) (suppliesDocument orderFields) =
      .ok orderPlan := rfl
  have hroots : ∀ f ∈ insertable orderFields, f.isRoot = false := by
    simp [orderFields, FieldMapping.isRoot, FieldMapping.path]
  have hmap : orderPlan.map orderRow = .ok (some orderDocument) := rfl
  exact ⟨hvalid, hplan, hroots, hmap, (map_holds hvalid hplan hroots hmap).2 _ rfl⟩

end DocumentPlan

end RowIngest
