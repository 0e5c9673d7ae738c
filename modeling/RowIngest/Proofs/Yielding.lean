import RowIngest.Proofs.Delivery
import RowIngest.Proofs.Placing
import RowIngest.Proofs.Querying
import RowIngest.Proofs.Updating
/-!
What a row yields. Queries, documents and updates all leave out the fields whose value is null, and
there is none if that leaves nothing. Main statements: a row stands for nothing exactly if it has
nothing to be found by or all the fields that would be written are null; and what is written for
any other row is a container that is not empty, unless the row itself brings an empty one as the
whole document.
-/
namespace RowIngest

/-- An object or an array with something in it. -/
def Value.isRecord (v : Value) : Bool := v.isContainer && v.isTruthy

theorem Value.isTruthy_of_isRecord {v : Value} (h : v.isRecord = true) : v.isTruthy = true :=
  (Bool.and_eq_true_iff.mp h).2

theorem Fields.merge_ne_nil {α : Type} {fs gs : List (String × α)} (h : gs ≠ []) :
    Fields.merge fs gs ≠ [] := by
  cases gs with
  | nil => exact absurd rfl h
  | cons entry rest =>
    have hfirst : Fields.set fs entry.1 entry.2 ≠ [] := Fields.set_ne_nil fs entry.1 entry.2
    have hmerged : Fields.merge (Fields.set fs entry.1 entry.2) rest ≠ [] :=
      Fields.merge_keeps (P := (· ≠ [])) (fun name v _ made _ => Fields.set_ne_nil made name v)
        hfirst
    exact hmerged

namespace Query

variable {fields : List FieldMapping} {row : Row} {query query' : Fields} {f : FieldMapping}

/-- A match key adds no condition: its value is null, or it is mapped to the root and brings an
object with nothing in it. -/
def AddsNone (row : Row) (f : FieldMapping) : Prop :=
  f.value row = .ok .null ∨ f.isRoot = true ∧ f.value row = .ok (.obj [])

theorem addCondition_fills (h : addCondition row query f = .ok query') :
    query' ≠ [] ∨ query' = query ∧ AddsNone row f := by
  rcases FieldMapping.gives_or_null h with ⟨v, hv, hused⟩ | ⟨hsame, hnull⟩
  · cases hroot : f.isRoot with
    | false =>
      simp only [hroot, Bool.false_eq_true, if_false] at hused
      obtain rfl := Except.ok.inj hused
      exact Or.inl (Fields.set_ne_nil query _ _)
    | true =>
      simp only [hroot, if_true] at hused
      cases v with
      | obj brought =>
        obtain rfl := Except.ok.inj hused
        by_cases hempty : brought = []
        · subst hempty
          exact Or.inr ⟨rfl, Or.inr ⟨hroot, hv.1⟩⟩
        · exact Or.inl (Fields.merge_ne_nil hempty)
      | _ => cases hused
  · exact Or.inr ⟨hsame, Or.inl hnull⟩

theorem addCondition_of_addsNone (h : AddsNone row f) (query : Fields) :
    addCondition row query f = .ok query := by
  rcases h with hnull | ⟨hroot, hempty⟩
  · exact FieldMapping.kept_of_null hnull _
  · simp [addCondition, hroot, hempty, Value.isNull, bind, Except.bind, pure, Except.pure,
      Fields.merge]

/-- A row has no query exactly if none of its match keys adds a condition. -/
theorem ofRow_eq_none_iff :
    ofRow fields row = .ok none ↔ ∀ f ∈ matched fields, AddsNone row f := by
  have hunfilled : (∃ query, (matched fields).foldlM (addCondition row) [] = .ok query ∧
      ¬ query ≠ []) ↔ ∀ f ∈ matched fields, AddsNone row f :=
    foldlM_unfilled_iff (P := (· ≠ [])) (fun _ _ _ _ => addCondition_fills)
      (fun _ _ => addCondition_of_addsNone) (not_not_intro rfl)
  rw [← hunfilled, ofRow, bind_eq_ok]
  refine exists_congr fun query => and_congr_right fun _ => ?_
  cases query <;> simp [pure, Except.pure]

end Query

namespace Update

variable {fields : List FieldMapping} {row : Row} {u u' : Update} {f : FieldMapping}

theorem addChange_fills (h : addChange row u f = .ok u') :
    u' ≠ [] ∨ u' = u ∧ f.value row = .ok .null := by
  refine (FieldMapping.gives_or_null h).imp_left fun ⟨v, _, hput⟩ => ?_
  obtain rfl := Except.ok.inj hput
  exact Fields.set_ne_nil u _ _

/-- A row has no update exactly if all the fields that it would change are null. -/
theorem ofRow_eq_none_iff :
    ofRow fields row = .ok none ↔ ∀ f ∈ changed fields, f.value row = .ok .null := by
  have hunfilled : (∃ u, (changed fields).foldlM (addChange row) [] = .ok u ∧ ¬ u ≠ []) ↔
      ∀ f ∈ changed fields, f.value row = .ok .null :=
    foldlM_unfilled_iff (P := (· ≠ [])) (fun _ _ _ _ => addChange_fills)
      (fun _ _ hnull _ => FieldMapping.kept_of_null hnull _) (not_not_intro rfl)
  rw [← hunfilled, ofRow, bind_eq_ok]
  refine exists_congr fun u => and_congr_right fun _ => ?_
  cases u <;> simp [pure, Except.pure]

theorem isRecord_of_ofRow {d : Value} (h : ofRow fields row = .ok (some d)) :
    d.isRecord = true := by
  obtain ⟨u, -, hupdate⟩ := bind_eq_ok.mp h
  cases u with
  | nil => cases hupdate
  | cons entry rest =>
    obtain rfl := Option.some.inj (Except.ok.inj hupdate)
    rfl

end Update

namespace Document

variable {room : Room} {document document' : Value} {f : FieldMapping} {fields : List FieldMapping}
  {row : Row}

/-- A container in which something is found is not empty. -/
theorem isRecord_of_child? {container inner : Value} {s : Segment}
    (h : child? container s = some inner) : container.isRecord = true := by
  cases container with
  | obj fields =>
    cases fields with
    | nil => cases s <;> cases h
    | cons _ _ => rfl
  | list items =>
    cases items with
    | nil => cases s <;> cases h
    | cons _ _ => rfl
  | _ => cases s <;> cases h

theorem addField_fills (h : addField room row document f = .ok document') :
    document'.isRecord = true ∨ document' = document ∧ f.value row = .ok .null := by
  refine (FieldMapping.gives_or_null h).imp_left fun ⟨v, _, hplaced⟩ => ?_
  obtain ⟨s, rest, -, hplace⟩ := placeField_eq_ok hplaced
  obtain ⟨inner, hchild, -⟩ := Option.bind_eq_some_iff.mp (valueAt_place hplace)
  exact isRecord_of_child? hchild

end Document

namespace Mapping

variable {fields : List FieldMapping}

/-- The inserted fields whose values make up a document: the one that supplies the whole of it, if
there is one, or else all of them. -/
def composing (fields : List FieldMapping) : List FieldMapping :=
  if suppliesDocument fields then (insertable fields).filter (·.isRoot) else insertable fields

/-- A field that supplies the whole document is the only one that does. -/
theorem Unambiguous.root_of_supplied (h : Unambiguous fields)
    (hsupplied : suppliesDocument fields = true) :
    ∃ root, (insertable fields).filter (·.isRoot) = [root] := by
  rcases h.apart with ⟨hnone, -⟩ | ⟨root, hroot, -⟩
  · simp only [suppliesDocument, List.any_eq_true, Bool.and_eq_true] at hsupplied
    obtain ⟨f, hf, ⟨hinserted, hroot⟩, -⟩ := hsupplied
    rw [hnone f (List.mem_filter.mpr ⟨hf, hinserted⟩)] at hroot
    cases hroot
  · exact ⟨root, hroot⟩

/-- There is something to compose a document of as soon as any field is inserted. -/
theorem Unambiguous.isEmpty_composing (h : Unambiguous fields) :
    (composing fields).isEmpty = (insertable fields).isEmpty := by
  cases hsupplied : suppliesDocument fields with
  | false => simp [composing, hsupplied]
  | true =>
    obtain ⟨root, hroot⟩ := h.root_of_supplied hsupplied
    have hsome : insertable fields ≠ [] := by
      intro hnone
      simp [hnone] at hroot
    simp [composing, hsupplied, hroot, List.isEmpty_eq_false_iff.mpr hsome]

end Mapping

namespace DocumentPlan

open Mapping

variable {room : Room} {fields : List FieldMapping} {shape : Shape} {plan : DocumentPlan}
  {row : Row} {d : Value} {root : FieldMapping}

theorem root_not_truthy {whole : Bool} (hplan : make room fields shape whole = .ok plan) :
    plan.root.isTruthy = false := by
  cases shape <;> cases hplan <;> rfl

theorem fields_of_make {whole : Bool} (hplan : make room fields shape whole = .ok plan) :
    plan.fields = insertable fields := by
  cases shape <;> cases hplan <;> rfl

theorem map_of_root (hplan : make room fields shape true = .ok plan)
    (hroot : (insertable fields).filter (·.isRoot) = [root]) (row : Row) :
    plan.map row = (do
      let v ← root.value row
      if v.isNull then return none
      else if v.isContainer then return some v
      else throw (.field root.field .documentNotContainer)) := by
  have hfind : plan.fields.find? (·.isRoot) = some root := by
    rw [← List.head?_filter, fields_of_make hplan, hroot]
    rfl
  have hwhole : plan.wholeDocument = true := by
    cases shape <;> cases hplan <;> rfl
  simp only [map, hwhole, if_true, wholeValue, hfind]

/-- A row has no document exactly if all the fields that would compose it are null. -/
theorem map_eq_none_iff (hvalid : Unambiguous fields)
    (hplan : make room fields shape (suppliesDocument fields) = .ok plan) :
    plan.map row = .ok none ↔ ∀ f ∈ composing fields, f.value row = .ok .null := by
  cases hsupplied : suppliesDocument fields with
  | true =>
    rw [hsupplied] at hplan
    obtain ⟨root, hroot⟩ := hvalid.root_of_supplied hsupplied
    simp only [map_of_root hplan hroot, composing, hsupplied, if_true, hroot, List.mem_singleton,
      forall_eq]
    refine ⟨fun h => ?_, fun hnull => FieldMapping.kept_of_null hnull _⟩
    rcases FieldMapping.gives_or_null h with ⟨v, -, hused⟩ | ⟨-, hnull⟩
    · split at hused <;> cases hused
    · exact hnull
  | false =>
    rw [hsupplied] at hplan
    have hunfilled : (∃ made, (insertable fields).foldlM (Document.addField room row) plan.root =
        .ok made ∧ ¬ made.isTruthy = true) ↔ ∀ f ∈ insertable fields, f.value row = .ok .null :=
      foldlM_unfilled_iff (P := (·.isTruthy = true)) (Q := fun f => f.value row = .ok .null)
        (fun f _ made made' (hone : Document.addField room row made f = .ok made') =>
          (Document.addField_fills hone).imp_left Value.isTruthy_of_isRecord)
        (fun f _ hnull _ => FieldMapping.kept_of_null hnull _)
        (Bool.eq_false_iff.mp (root_not_truthy hplan))
    rw [map_of_apart hplan (hvalid.apart_of_not_supplied hsupplied), composing, hsupplied,
      if_neg Bool.false_ne_true, ← hunfilled, bind_eq_ok]
    refine exists_congr fun made => and_congr_right fun _ => ?_
    cases made.isTruthy <;> simp [pure, Except.pure]

/-- A document is a container that is not empty, unless one that is empty is brought as the whole
document. -/
theorem isRecord_of_map (hvalid : Unambiguous fields)
    (hplan : make room fields shape (suppliesDocument fields) = .ok plan)
    (hmap : plan.map row = .ok (some d))
    (hbrought : ∀ f ∈ composing fields, f.isRoot = true →
      ¬ f.Gives row (.obj []) ∧ ¬ f.Gives row (.list [])) : d.isRecord = true := by
  cases hsupplied : suppliesDocument fields with
  | true =>
    rw [hsupplied] at hplan
    obtain ⟨root, hroot⟩ := hvalid.root_of_supplied hsupplied
    have hmem : root ∈ (insertable fields).filter (·.isRoot) := by simp [hroot]
    obtain ⟨hobj, hlist⟩ := hbrought root (by simpa [composing, hsupplied] using hmem)
      (List.mem_filter.mp hmem).2
    rw [map_of_root hplan hroot] at hmap
    rcases FieldMapping.gives_or_null hmap with ⟨v, hv, hused⟩ | ⟨hnone, -⟩
    · split at hused
      · rename_i hcontainer
        obtain rfl := Option.some.inj (Except.ok.inj hused)
        cases v with
        | obj entries =>
          cases entries with
          | nil => exact absurd hv hobj
          | cons _ _ => rfl
        | list items =>
          cases items with
          | nil => exact absurd hv hlist
          | cons _ _ => rfl
        | _ => cases hcontainer
      · cases hused
    · cases hnone
  | false =>
    rw [hsupplied] at hplan
    obtain ⟨made, hmade, hwhole⟩ :=
      assemble_of_map hplan (hvalid.apart_of_not_supplied hsupplied) hmap
    have hfilled : made.isRecord = true ∨ made = plan.root ∧
        ∀ f ∈ insertable fields, f.value row = .ok .null :=
      foldlM_fills (P := (·.isRecord = true)) (fun _ _ _ _ => Document.addField_fills) hmade
    rcases hfilled with hrecord | ⟨rfl, -⟩
    · rw [if_pos (Value.isTruthy_of_isRecord hrecord)] at hwhole
      rwa [Option.some.inj hwhole]
    · simp [root_not_truthy hplan] at hwhole

end DocumentPlan

theorem Row.read_congr {fs gs : List FieldMapping} (h : fs.isEmpty = gs.isEmpty) (row : Value) :
    Row.read fs row = Row.read gs row := by
  cases row <;> simp [Row.read, h]

namespace LoadConfig

variable {room : Room} {c : LoadConfig} {acceptsArrays : Bool} {row d : Value}

/-- The fields whose values are written for a row. -/
def written (c : LoadConfig) : List FieldMapping :=
  if c.writesDocuments then Mapping.composing c.fields else Update.changed c.fields

/-- What is written for a row: a document, or a modifier update. -/
def mapRecord (c : LoadConfig) (room : Room) (row : Value) : Except Fault (Option Value) :=
  if c.writesDocuments then c.mapDocument room row else c.mapUpdate row

/-- All fields that would be written for a row are null. -/
def Silent (c : LoadConfig) (row : Value) : Prop :=
  ∃ read, Row.read c.written row = .ok read ∧ ∀ f ∈ c.written, f.value read = .ok .null

/-- No match key of a row adds a condition to find a document by. -/
def Unsought (c : LoadConfig) (row : Value) : Prop :=
  ∃ read, Row.read (Query.matched c.fields) row = .ok read ∧
    ∀ f ∈ Query.matched c.fields, Query.AddsNone read f

/-- A row yields nothing to write: it has nothing to be found by where that is needed, or all
fields that would be written are null. -/
def YieldsNothing (c : LoadConfig) (row : Value) : Prop :=
  if c.upsert then c.Unsought row ∨ (∃ query, c.mapQuery row = .ok (some query)) ∧ c.Silent row
  else c.Silent row

/-- A row brings an empty object or array as the whole document. -/
def BringsEmpty (c : LoadConfig) (row : Value) : Prop :=
  ∃ read, Row.read c.written row = .ok read ∧
    ∃ f ∈ c.written, f.isRoot = true ∧ (f.Gives read (.obj []) ∨ f.Gives read (.list []))

theorem mapQuery_eq_none_iff : c.mapQuery row = .ok none ↔ c.Unsought row := by
  rw [mapQuery, bind_eq_ok]
  refine exists_congr fun read => and_congr_right fun _ => ?_
  rw [← Query.ofRow_eq_none_iff]
  rcases Query.ofRow c.fields read with f | (_ | conditions) <;>
    simp [bind, Except.bind, pure, Except.pure]

/-- A mapping that passes its check is unambiguous, and documents can be planned by it. -/
theorem plan_of_checked (h : c.checkMapping acceptsArrays = .ok ()) :
    Mapping.Unambiguous c.fields ∧ ∃ plan, c.documentPlan room = .ok plan := by
  unfold checkMapping at h
  split at h
  · cases h
  · rename_i hshape
    split at h
    · cases h
    · refine ⟨Mapping.validate_eq_ok_iff.mp h, ?_⟩
      unfold documentPlan
      cases hc : c.shape with
      | inconsistent => exact absurd hc hshape
      | _ => exact ⟨_, rfl⟩

/-- Where documents are written, a row is read by the fields that compose them. -/
theorem mapRecord_of_writesDocuments {plan : DocumentPlan} (hvalid : Mapping.Unambiguous c.fields)
    (hplan : c.documentPlan room = .ok plan) (hdocuments : c.writesDocuments = true) (row : Value) :
    c.mapRecord room row = (do plan.map (← Row.read c.written row)) := by
  have hread : Row.read plan.fields row = Row.read c.written row := by
    refine Row.read_congr ?_ row
    rw [written, if_pos hdocuments, hvalid.isEmpty_composing, DocumentPlan.fields_of_make hplan]
  rw [mapRecord, if_pos hdocuments, mapDocument, hplan, ← hread]
  rfl

theorem mapRecord_of_updates (hupdates : c.writesDocuments = false) (row : Value) :
    c.mapRecord room row = (do Update.ofRow c.fields (← Row.read c.written row)) := by
  simp [mapRecord, mapUpdate, written, hupdates]

/-- Nothing is written for a row exactly if all fields that would be written are null. -/
theorem mapRecord_eq_none_iff (h : c.checkMapping acceptsArrays = .ok ()) :
    c.mapRecord room row = .ok none ↔ c.Silent row := by
  obtain ⟨hvalid, plan, hplan⟩ := plan_of_checked h
  cases hdocuments : c.writesDocuments with
  | true =>
    rw [mapRecord_of_writesDocuments hvalid hplan hdocuments, bind_eq_ok]
    refine exists_congr fun read => and_congr_right fun _ => ?_
    rw [written, if_pos hdocuments]
    exact DocumentPlan.map_eq_none_iff hvalid hplan
  | false =>
    rw [mapRecord_of_updates hdocuments, bind_eq_ok]
    refine exists_congr fun read => and_congr_right fun _ => ?_
    rw [written, if_neg (by simp [hdocuments])]
    exact Update.ofRow_eq_none_iff

/-- What is written for a row is a container that is not empty. -/
theorem isRecord_of_mapRecord (h : c.checkMapping acceptsArrays = .ok ())
    (hrecord : c.mapRecord room row = .ok (some d)) (hbrought : ¬ c.BringsEmpty row) :
    d.isRecord = true := by
  obtain ⟨hvalid, plan, hplan⟩ := plan_of_checked h
  cases hdocuments : c.writesDocuments with
  | true =>
    rw [mapRecord_of_writesDocuments hvalid hplan hdocuments] at hrecord
    obtain ⟨read, hread, hmap⟩ := bind_eq_ok.mp hrecord
    refine DocumentPlan.isRecord_of_map hvalid hplan hmap fun f hf hroot => ?_
    have hwritten : f ∈ c.written := by rwa [written, if_pos hdocuments]
    exact ⟨fun hv => hbrought ⟨read, hread, f, hwritten, hroot, Or.inl hv⟩,
      fun hv => hbrought ⟨read, hread, f, hwritten, hroot, Or.inr hv⟩⟩
  | false =>
    rw [mapRecord_of_updates hdocuments] at hrecord
    obtain ⟨read, -, hupdate⟩ := bind_eq_ok.mp hrecord
    exact Update.isRecord_of_ofRow hupdate

theorem mapRecord_of_upsert (hupsert : c.upsert = true) (row : Value) :
    c.mapRecord room row = c.mapChange room row := by
  cases hmodifier : c.modifierUpdate <;>
    simp [mapRecord, mapChange, writesDocuments, hupsert, hmodifier]

theorem mapRecord_of_insert (hinsert : c.upsert = false) (row : Value) :
    c.mapRecord room row = c.mapDocument room row := by
  simp [mapRecord, writesDocuments, hinsert]

/-- A row is skipped exactly if it yields nothing to write. -/
theorem skips_iff (h : c.checkMapping acceptsArrays = .ok ()) :
    c.skips room row = true ↔ c.YieldsNothing row := by
  have hskips : c.skips room row = true ↔ c.delivery room row = .ok none := by
    rw [skips]
    split <;> simp_all
  rw [hskips, YieldsNothing]
  cases hupsert : c.upsert with
  | false =>
    rw [delivery_insert hupsert, if_neg Bool.false_ne_true, ← mapRecord_eq_none_iff h,
      mapRecord_of_insert hupsert]
    rcases c.mapDocument room row with f | (_ | d) <;> simp [Except.map]
  | true =>
    rw [delivery_upsert hupsert, if_pos rfl, ← mapRecord_eq_none_iff h, ← mapQuery_eq_none_iff,
      mapRecord_of_upsert hupsert]
    rcases c.mapQuery row with f | (_ | query) <;> rcases c.mapChange room row with g | (_ | d) <;>
      simp [Except.map]


end LoadConfig

end RowIngest
