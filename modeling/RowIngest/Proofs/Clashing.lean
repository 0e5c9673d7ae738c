import RowIngest.Proofs.Holding
/-!
Why a document cannot be assembled. A value is placed unless its path goes on by a key where the
path of an earlier value goes on by a position, or the other way round. Main statements: placing
a value fails only because of such a clash; and for an accepted mapping, unless there is no room for
an array, a row has no document if and only if there is one, and the first field that
clashes with one before it is named.
-/
namespace RowIngest

namespace Path

/-- After a common start, the second path goes on by this segment and the first by one of the
other kind. -/
def ClashesBy (p q : Path) (t : Segment) : Prop :=
  ∃ common s p' q', common ≠ [] ∧ p = common ++ s :: p' ∧ q = common ++ t :: q' ∧
    s.isIndex ≠ t.isIndex

def Clash (p q : Path) : Prop := ∃ t, ClashesBy p q t

theorem not_clash_self (p : Path) : ¬ Clash p p := by
  rintro ⟨t, common, s, p', q', -, hp, hq, hkind⟩
  have hsame : s :: p' = t :: q' := List.append_cancel_left (hp.symm.trans hq)
  obtain ⟨rfl, -⟩ := List.cons.inj hsame
  exact hkind rfl

theorem ClashesBy.cons {p q : Path} {s t : Segment} (h : ClashesBy p q t) :
    ClashesBy (s :: p) (s :: q) t := by
  obtain ⟨common, u, p', q', -, rfl, rfl, hkind⟩ := h
  exact ⟨s :: common, u, p', q', by simp, rfl, rfl, hkind⟩

end Path

namespace Document

variable {ps : List Placement} {p q path rest : Path} {s t : Segment} {d d' inner v w c : Value}
  {room : Room} {shown : String} {e : Obstacle}

theorem Suits.of_isIndex_eq (h : Suits d s) (hkind : s.isIndex = t.isIndex) : Suits d t := by
  cases d <;> cases s <;> cases t <;> simp_all [Suits, Segment.isIndex]

theorem checkRoom_of_lt {length position : Nat} (h : position < room.positions) :
    checkRoom room length position = .ok () := by
  have hlimits : room.positions < countLimit := room.countable
  have hcount : ¬ countLimit ≤ position + 1 - length := by omega
  have hroom : ¬ room.positions ≤ position := by omega
  unfold checkRoom
  rw [if_neg hcount, if_neg hroom, ite_self]

theorem put_succeeds (h : Suits d s) (hroom : ∀ position, s = .index position →
    position < room.positions) (shown : String) (v : Value) :
    ∃ d', put room shown d s v = .ok d' := by
  cases s with
  | key name =>
    cases d with
    | obj entries => exact ⟨_, rfl⟩
    | _ => cases h
  | index position =>
    cases d with
    | list items =>
      refine ⟨.list (setAt .null items position v), ?_⟩
      rw [put, checkRoom_of_lt (hroom position rfl)]
      rfl
    | _ => cases h

namespace Built

/-- Two placements of one document do not clash. -/
theorem not_clash (h : Built ps d) (hp : (p, v) ∈ ps) (hq : (q, w) ∈ ps) : ¬ p.Clash q := by
  rintro ⟨t, common, s, p', q', -, rfl, rfl, hkind⟩
  exact hkind (h.same_kind hp hq)

/-- A container can be entered unless the placements there have made one of the other kind. -/
theorem containerAt_error (h : Built ps d) (hsuits : Suits d s)
    (hapart : ApartFrom ps (s :: t :: rest))
    (hroom : ∀ position, s = .index position → position < room.positions)
    (herror : Document.containerAt room shown d s t = .error e) :
    e = wrongContainer shown t ∧ ∃ q w, (q, w) ∈ ps ∧ q.ClashesBy (s :: t :: rest) t := by
  rcases h.slot_cases hapart.ne_nil s with ⟨-, hslot⟩ | ⟨hne, -, hbuilt⟩
  · obtain ⟨made, hput⟩ := put_succeeds hsuits hroom shown (Document.emptyFor t)
    rw [containerAt_of_null hslot, hput] at herror
    cases herror
  · by_cases hthere : Suits (slot d s) t
    · rw [containerAt_of_suits hthere] at herror
      cases herror
    · rw [containerAt_of_not_suits hbuilt.ne_null hthere] at herror
      refine ⟨(Except.error.inj herror).symm, ?_⟩
      have hunder := hapart.under.ne_nil
      obtain ⟨⟨_ | ⟨u, q⟩, w⟩, hmem⟩ := List.exists_mem_of_ne_nil _ hne
      · exact absurd rfl (hunder _ _ hmem)
      · have hu : Suits (slot d s) u := hbuilt.suits hunder hmem
        refine ⟨s :: u :: q, w, mem_under.mp hmem, [s], u, q, rest, by simp, rfl, rfl, ?_⟩
        exact fun hkind => hthere (hu.of_isIndex_eq hkind)

/-- A value that cannot be placed clashes with one that was placed before. -/
theorem place_error (h : Built ps d) (hsuits : Suits d s)
    (hapart : ApartFrom ps (s :: p))
    (hroom : ∀ position, .index position ∈ s :: p → position < room.positions)
    (herror : Document.place room shown v d s p = .error e) :
    ∃ t q w, e = wrongContainer shown t ∧ (q, w) ∈ ps ∧ q.ClashesBy (s :: p) t := by
  induction p generalizing ps d s with
  | nil =>
    obtain ⟨made, hput⟩ := put_succeeds hsuits (fun position hs => hroom position (hs ▸ by simp))
      shown v
    rw [Document.place, hput] at herror
    cases herror
  | cons t p ih =>
    have hhead : ∀ position, s = .index position → position < room.positions :=
      fun position hs => hroom position (hs ▸ by simp)
    rcases bind_eq_error.mp herror with hentered | ⟨inner, hentered, hrest⟩
    · obtain ⟨rfl, q, w, hmem, hclash⟩ :=
        h.containerAt_error hsuits hapart hhead hentered
      exact ⟨t, q, w, rfl, hmem, hclash⟩
    · obtain ⟨hbuilt, hinner⟩ := h.containerAt hapart.ne_nil hentered
      rcases bind_eq_error.mp hrest with hplaced | ⟨inner', -, hput⟩
      · obtain ⟨u, q, w, rfl, hmem, hclash⟩ := ih hbuilt hinner hapart.under
          (fun position hmem => hroom position (List.mem_cons_of_mem s hmem)) hplaced
        exact ⟨u, s :: q, w, rfl, mem_under.mp hmem, hclash.cons⟩
      · obtain ⟨made, hmade⟩ := put_succeeds hsuits hhead shown inner'
        rw [hmade] at hput
        cases hput

end Built

/-- Placing a value along a path comes to this container, with this part of the path left. -/
inductive Visits (room : Room) (shown : String) : Value → Path → Value → Path → Prop
  | first {d : Value} {path : Path} : Visits room shown d path d path
  | next {d inner c : Value} {s t : Segment} {p rest : Path}
      (hentered : containerAt room shown d s t = .ok inner)
      (hvisits : Visits room shown inner (t :: p) c rest) :
      Visits room shown d (s :: t :: p) c rest

/-- Every container that is visited is of the kind that the next segment leads into. -/
theorem Visits.suits (h : Visits room shown d path c rest) (hbuilt : Built ps d)
    (hapart : ApartFrom ps path) (hhead : ∃ s p, path = s :: p ∧ Suits d s) :
    ∃ s p, rest = s :: p ∧ Suits c s := by
  induction h generalizing ps with
  | first => exact hhead
  | @next d inner c s t p rest hentered hvisits ih =>
    obtain ⟨hinner, hsuits⟩ := hbuilt.containerAt hapart.ne_nil hentered
    exact ih hinner hapart.under ⟨t, p, rfl, hsuits⟩

variable {fields before after : List FieldMapping} {row : Row} {f g : FieldMapping} {root : Value}
  {fault : Fault}

/-- The row has values for both fields, and the path of the second goes on by this segment where
the path of the first goes on by one of the other kind. -/
def FieldsClashBy (row : Row) (g f : FieldMapping) (t : Segment) : Prop :=
  (∃ v, g.Gives row v) ∧ (∃ v, f.Gives row v) ∧ g.path.ClashesBy f.path t

/-- The fault of a field whose path wants a container of this kind where there is another one. -/
def crossing (f : FieldMapping) (t : Segment) : Fault :=
  .field f.field (if t.isIndex then .notArray f.display else .notObject f.display)

theorem fault_wrongContainer (f : FieldMapping) (t : Segment) :
    (wrongContainer f.display t).fault f.field = crossing f t := by
  cases t <;> rfl

/-- What a value meets on the way to its place: containers of the right kind only, and nothing
that a row has given to an earlier field. -/
structure Crosses (room : Room) (before : List FieldMapping) (row : Row) (made : Value)
    (f : FieldMapping) : Prop where
  suited : ∀ c rest, Visits room f.display made f.path c rest → ∃ s p, rest = s :: p ∧ Suits c s
  met : ∀ q w, valueAt made q = some w → q <+: f.path →
    w = .null ∨ q ≠ f.path ∧ w.isContainer = true ∧ ¬ Covered before row q

theorem Spans.isContainer (h : Spans ps d) : d.isContainer = true := by
  cases d with
  | obj entries => rfl
  | list items => rfl
  | _ => cases h

theorem Built.crosses (h : Built (placements before row) d)
    (hapart : ApartFrom (placements before row) f.path)
    (hhead : ∃ s p, f.path = s :: p ∧ Suits d s) : Crosses room before row d f where
  suited c rest hvisits := hvisits.suits h hapart hhead
  met q w hat hprefix := by
    have huncovered : ¬ Covered before row q := by
      rintro ⟨g, hg, ⟨v, hv⟩, hcovers⟩
      have hover := hapart g.path v (mem_placements.mpr ⟨g, hg, rfl, hv⟩)
      rw [Bool.eq_false_iff, Ne, Mapping.pathsOverlap_iff] at hover
      exact hover (Or.inl (hcovers.trans hprefix))
    cases h.found hat with
    | inside hmem hshort _ =>
      exact absurd hshort (not_prefix_of_not_covered huncovered _ _ hmem)
    | padding hnull _ _ _ => exact Or.inl hnull
    | built hbuilt hbehind =>
      have hpath : ∀ p v, (p, v) ∈ behind q (placements before row) → p ≠ [] := by
        rintro p v hmem rfl
        have hplaced := mem_behind.mp hmem
        rw [List.append_nil] at hplaced
        exact not_prefix_of_not_covered huncovered q v hplaced (List.prefix_refl q)
      refine Or.inr ⟨?_, (hbuilt.spans hpath).isContainer, huncovered⟩
      rintro rfl
      -- Nothing leads through the place of the field.
      obtain ⟨s, p, hs, -⟩ := hhead
      obtain ⟨rest, v, hmem⟩ := behind_ne_nil_iff.mp (hbehind (by simp [hs]))
      have hover := hapart _ _ hmem
      rw [Bool.eq_false_iff, Ne, Mapping.pathsOverlap_iff] at hover
      exact hover (Or.inr (List.prefix_append _ _))

theorem placeField_of_path (hpath : f.path = s :: p) (d v : Value) :
    placeField room d f v = (place room f.display v d s p).mapError (Obstacle.fault f.field) := by
  unfold placeField
  rw [hpath]

/-- A field that cannot be added has a value that clashes with an earlier one. -/
theorem Built.addField_error (h : Built (placements before row) d)
    (hapart : ApartFrom (placements before row) f.path)
    (hhead : ∃ s p, f.path = s :: p ∧ Suits d s) (hvalue : ∃ v, f.value row = .ok v)
    (hroom : ∀ v, f.Gives row v → ∀ position, .index position ∈ f.path → position < room.positions)
    (herror : Document.addField room row d f = .error fault) :
    ∃ g ∈ before, ∃ t, FieldsClashBy row g f t ∧ fault = crossing f t := by
  obtain ⟨v, hv⟩ := hvalue
  rcases bind_eq_error.mp herror with hfails | ⟨given, hgiven, hplaced⟩
  · rw [hv] at hfails
    cases hfails
  · obtain rfl : v = given := Except.ok.inj (hv.symm.trans hgiven)
    rcases hnull : v.isNull with _ | _
    · have hgives : f.Gives row v := ⟨hv, hnull⟩
      obtain ⟨s, p, hpath, hsuits⟩ := hhead
      rw [hnull, if_neg Bool.false_ne_true, placeField_of_path hpath] at hplaced
      rcases hplace : Document.place room f.display v d s p with e | made
      · rw [hplace] at hplaced
        obtain ⟨t, q, w, rfl, hmem, hclash⟩ :=
          h.place_error hsuits (hpath ▸ hapart) (hpath ▸ hroom v hgives) hplace
        obtain ⟨g, hg, rfl, hw⟩ := mem_placements.mp hmem
        refine ⟨g, hg, t, ⟨⟨w, hw⟩, ⟨v, hgives⟩, hpath ▸ hclash⟩, ?_⟩
        exact (Except.error.inj hplaced).symm.trans (fault_wrongContainer f t)
      · rw [hplace] at hplaced
        cases hplaced
    · rw [hnull, if_pos rfl] at hplaced
      cases hplaced

end Document

namespace DocumentPlan

open Document Mapping

variable {room : Room} {fields before after : List FieldMapping} {plan : DocumentPlan} {row : Row}
  {made : Value} {f : FieldMapping}

section

variable (hvalid : Mapping.validate fields = .ok ())
  (hplan : make room fields (Shape.ofFields fields) (suppliesDocument fields) = .ok plan)
  (hroots : ∀ f ∈ insertable fields, f.isRoot = false)

include hvalid hplan hroots

/-- What the fields before one have built when its turn comes. -/
theorem built_before (hsplit : insertable fields = before ++ f :: after)
    (hmade : before.foldlM (addField room row) plan.root = .ok made) :
    Built (placements before row) made ∧ ApartFrom (placements before row) f.path ∧
      ∃ s p, f.path = s :: p ∧ Suits made s := by
  have hsupplied : suppliesDocument fields = false := suppliesDocument_of_no_inserted_root hroots
  have hapart : Apart (before ++ f :: after) :=
    hsplit ▸ (validate_eq_ok_iff.mp hvalid).apart_of_not_supplied hsupplied
  have hf : f ∈ insertable fields := by
    rw [hsplit]
    simp
  refine ⟨built_of_foldlM (built_root hplan) hmade (List.pairwise_append.mp hapart).1,
    apartFrom_of_apart hapart, ?_⟩
  have hnonroot : f.isRoot = false := hroots f hf
  rcases hpath : f.path with _ | ⟨s, p⟩
  · rw [FieldMapping.isRoot, hpath] at hnonroot
    cases hnonroot
  · refine ⟨s, p, rfl, ?_⟩
    have hroot : Suits plan.root s := suits_root hplan (List.mem_filter.mp hf).1 hpath
    exact foldlM_keeps (P := (Suits · s))
      (fun g _ _ _ hadd hsuits => (suits_of_addField hadd).mpr hsuits) hmade hroot

theorem map_eq_error_iff {e : Fault} : plan.map row = .error e ↔
    (insertable fields).foldlM (addField room row) plan.root = .error e := by
  have hsupplied : suppliesDocument fields = false := suppliesDocument_of_no_inserted_root hroots
  have hapart : Apart (insertable fields) :=
    (validate_eq_ok_iff.mp hvalid).apart_of_not_supplied hsupplied
  rw [hsupplied] at hplan
  rw [map_of_apart hplan hapart, bind_eq_error]
  constructor
  · rintro (hfails | ⟨made, -, hnone⟩)
    · exact hfails
    · cases hnone
  · exact Or.inl

/-- Fields that are all added do not clash. -/
theorem not_clash_of_foldlM {g : FieldMapping} {t : Segment}
    (hsplit : insertable fields = before ++ after)
    (hmade : before.foldlM (addField room row) plan.root = .ok made) (hg : g ∈ before)
    (hf : f ∈ before) : ¬ FieldsClashBy row g f t := by
  rintro ⟨⟨v, hv⟩, ⟨w, hw⟩, hclash⟩
  have hsupplied : suppliesDocument fields = false := suppliesDocument_of_no_inserted_root hroots
  have hapart : Apart (before ++ after) :=
    hsplit ▸ (validate_eq_ok_iff.mp hvalid).apart_of_not_supplied hsupplied
  have hbuilt : Built (placements before row) made :=
    built_of_foldlM (built_root hplan) hmade (List.pairwise_append.mp hapart).1
  exact hbuilt.not_clash (mem_placements.mpr ⟨g, hg, rfl, hv⟩) (mem_placements.mpr ⟨f, hf, rfl, hw⟩)
    ⟨t, hclash⟩

variable (hvalues : ∀ f ∈ insertable fields, ∃ v, f.value row = .ok v)
  (hroom : ∀ f ∈ insertable fields, ∀ v, f.Gives row v →
    ∀ position, .index position ∈ f.path → position < room.positions)

include hvalues hroom

/-- If a document cannot be assembled, then because of the first field that clashes with one
before it. -/
theorem first_clash_of_error {e : Fault} (herror : plan.map row = .error e) :
    ∃ before f after g t, insertable fields = before ++ f :: after ∧
      (∀ g₁ ∈ before, ∀ g₂ ∈ before, ∀ t, ¬ FieldsClashBy row g₁ g₂ t) ∧
      g ∈ before ∧ FieldsClashBy row g f t ∧ e = crossing f t := by
  obtain ⟨before, f, after, made, hsplit, hmade, hfails⟩ :=
    foldlM_stops ((map_eq_error_iff hvalid hplan hroots).mp herror)
  obtain ⟨hbuilt, hapart, hhead⟩ := built_before hvalid hplan hroots hsplit hmade
  have hf : f ∈ insertable fields := by
    rw [hsplit]
    simp
  obtain ⟨g, hg, t, hclash, he⟩ :=
    hbuilt.addField_error hapart hhead (hvalues f hf) (hroom f hf) hfails
  have hfree : ∀ g₁ ∈ before, ∀ g₂ ∈ before, ∀ t, ¬ FieldsClashBy row g₁ g₂ t := by
    intro g₁ h₁ g₂ h₂ t
    exact not_clash_of_foldlM hvalid hplan hroots hsplit hmade h₁ h₂
  exact ⟨before, f, after, g, t, hsplit, hfree, hg, hclash, he⟩

/-- A document cannot be assembled exactly if two of the values clash, and then the first field that
clashes with one before it is named. Whichever field's turn it is, the way to its place leads only
through containers of the right kind that were made for the values before it. -/
theorem map_fails_iff_clash :
    ((∃ e, plan.map row = .error e) ↔
      ∃ g ∈ insertable fields, ∃ f ∈ insertable fields, ∃ t, FieldsClashBy row g f t) ∧
    (∀ e, plan.map row = .error e → ∃ before f after g t,
      insertable fields = before ++ f :: after ∧
      (∀ g₁ ∈ before, ∀ g₂ ∈ before, ∀ t, ¬ FieldsClashBy row g₁ g₂ t) ∧
      g ∈ before ∧ FieldsClashBy row g f t ∧ e = crossing f t) ∧
    ∀ before f after made, insertable fields = before ++ f :: after →
      before.foldlM (addField room row) plan.root = .ok made →
        Crosses room before row made f := by
  have hfirst := fun e (herror : plan.map row = .error e) =>
    first_clash_of_error hvalid hplan hroots hvalues hroom herror
  refine ⟨⟨?_, ?_⟩, hfirst, ?_⟩
  · rintro ⟨e, herror⟩
    obtain ⟨before, f, after, g, t, hsplit, -, hg, hclash, -⟩ := hfirst e herror
    rw [hsplit]
    exact ⟨g, by simp [hg], f, by simp, t, hclash⟩
  · rintro ⟨g, hg, f, hf, t, hclash⟩
    rcases hmap : plan.map row with e | whole
    · exact ⟨e, rfl⟩
    · rcases hmade : (insertable fields).foldlM (addField room row) plan.root with e | made
      · rw [(map_eq_error_iff hvalid hplan hroots).mpr hmade] at hmap
        cases hmap
      · exact absurd hclash (not_clash_of_foldlM hvalid hplan hroots
          (List.append_nil _).symm hmade hg hf)
  · intro before f after made hsplit hmade
    obtain ⟨hbuilt, hapart, hhead⟩ := built_before hvalid hplan hroots hsplit hmade
    exact hbuilt.crosses hapart hhead

end

/-- A list of items with a name beside them, which a list has no place for. -/
def namedListFields : List FieldMapping :=
  [⟨"first", "items[0]", [.key "items", .index 0], false, false, false, false, .set⟩,
    ⟨"total", "", [], true, false, false, false, .set⟩,
    ⟨"name", "items", [.key "items"], true, false, false, false, .set⟩,
    ⟨"code", "items", [.key "items"], true, false, false, false, .set⟩]

def namedListPlan : DocumentPlan := ⟨.ample, namedListFields, .obj [], false, false⟩

def namedListRow : Row :=
  [("first", .int 1), ("total", .int 2), ("name", .str "n"), ("code", .str "c")]

theorem map_fails_iff_clash_named_list :
    Mapping.validate namedListFields = .ok () ∧
    make .ample namedListFields (Shape.ofFields namedListFields)
      (suppliesDocument namedListFields) = .ok namedListPlan ∧
    (∀ f ∈ insertable namedListFields, f.isRoot = false) ∧
    (∀ f ∈ insertable namedListFields, ∃ v, f.value namedListRow = .ok v) ∧
    (∀ f ∈ insertable namedListFields, ∀ v, f.Gives namedListRow v →
      ∀ position, .index position ∈ f.path → position < Room.ample.positions) ∧
    namedListPlan.map namedListRow = .error (.field "name" (.notObject "items.name")) ∧
    (∃ g ∈ insertable namedListFields, ∃ f ∈ insertable namedListFields, ∃ t,
      FieldsClashBy namedListRow g f t) := by
  have hvalid : Mapping.validate namedListFields = .ok () := rfl
  have hplan : make .ample namedListFields (Shape.ofFields namedListFields)
      (suppliesDocument namedListFields) = .ok namedListPlan := rfl
  have hroots : ∀ f ∈ insertable namedListFields, f.isRoot = false := by
    simp [namedListFields, FieldMapping.isRoot, FieldMapping.path]
  have hvalues : ∀ f ∈ insertable namedListFields, ∃ v, f.value namedListRow = .ok v := by
    simp [namedListFields, FieldMapping.value]
  have hroom : ∀ f ∈ insertable namedListFields, ∀ v, f.Gives namedListRow v →
      ∀ position, .index position ∈ f.path → position < Room.ample.positions := by
    simp [namedListFields, FieldMapping.path, Room.ample, countLimit]
  have hfails : namedListPlan.map namedListRow =
      .error (.field "name" (.notObject "items.name")) := rfl
  exact ⟨hvalid, hplan, hroots, hvalues, hroom, hfails,
    (map_fails_iff_clash hvalid hplan hroots hvalues hroom).1.mp ⟨_, hfails⟩⟩

/-- A position that no list has room for. -/
def distant : FieldMapping :=
  ⟨"id", "a[99999999999999999999]", [.key "a", .index 99999999999999999999], false, false, false,
    false, .set⟩

/-- No two values clash, and yet there is no document. -/
theorem distant_fails_without_clash :
    FieldMapping.check .handed (.obj [("incoming_field_name", .str "id"),
      ("target_path", .str "a[99999999999999999999]"), ("use_incoming_field_name", .bool false)]) =
        .valid distant ∧
    Mapping.validate [distant] = .ok () ∧
    (∀ f ∈ insertable [distant], f.isRoot = false) ∧
    (∀ f ∈ insertable [distant], ∃ v, f.value [("id", .int 1)] = .ok v) ∧
    (∃ plan,
      make .ample [distant] (Shape.ofFields [distant]) (suppliesDocument [distant]) = .ok plan ∧
      plan.map [("id", .int 1)] = .error
        (.ofForeign .overflow "cannot fit 'int' into an index-sized integer")) ∧
    ¬ ∃ g ∈ insertable [distant], ∃ f ∈ insertable [distant], ∃ t,
      FieldsClashBy [("id", .int 1)] g f t := by
  refine ⟨by with_unfolding_all rfl, rfl, ?_, ?_, ⟨_, rfl, rfl⟩, ?_⟩
  · simp [distant, FieldMapping.isRoot, FieldMapping.path]
  · simp [distant, FieldMapping.value]
  · rintro ⟨g, hg, f, hf, t, -, -, hclash⟩
    have hg : g = distant := List.mem_singleton.mp (List.mem_filter.mp hg).1
    have hf : f = distant := List.mem_singleton.mp (List.mem_filter.mp hf).1
    rw [hg, hf] at hclash
    exact Path.not_clash_self _ ⟨t, hclash⟩

end DocumentPlan

end RowIngest
