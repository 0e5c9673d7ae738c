import RowIngest.Mapping.Query
import RowIngest.Proofs.Dotted
import RowIngest.Proofs.Placing
/-!
Whether a query finds the document that was built from the same row. A query addresses a place by
dotted text, of which a store follows one part after the other; a document is built along paths.
Main statement: every condition of a query is met by the document of the same row, provided that
no name with a dot in it is added to the path of a match key.
-/
namespace RowIngest

/-- The position that a part of dotted text stands for in an array. -/
def position? (part : List Char) : Option Nat :=
  if !part.isEmpty && part.all Char.isDigit then some (Nat.ofDigitChars 10 part 0) else none

/-- Follows parts of dotted text, as keys in objects and as positions in arrays. -/
def Value.follow? (v : Value) : List (List Char) → Option Value
  | [] => some v
  | part :: rest =>
    match v with
    | .obj fields => (Fields.get? fields (String.ofList part)).bind (follow? · rest)
    | .list items => ((position? part).bind (items[·]?)).bind (follow? · rest)
    | _ => none

/-- What a store finds in a document at dotted text. -/
def Value.resolve? (document : Value) (dotted : String) : Option Value :=
  document.follow? (Path.splitAt '.' dotted.toList)

theorem position?_toString (position : Nat) :
    position? (toString position).toList = some position := by
  rw [Nat.toString_eq_ofList_toDigits, String.toList_ofList]
  have hdigits : (Nat.toDigits 10 position).all Char.isDigit = true :=
    List.all_eq_true.mpr fun _ hc => Nat.isDigit_of_mem_toDigits (by decide) (by decide) hc
  simp [position?, hdigits, Nat.toDigits_ne_nil, Nat.ofDigitChars_ten_toDigits]

/-- What is at a path is found by following the texts of its segments. -/
theorem follow?_of_valueAt {document v : Value} {p : Path}
    (h : Document.valueAt document p = some v) :
    document.follow? (p.map fun s => s.dotted.toList) = some v := by
  induction p generalizing document with
  | nil => exact h
  | cons s rest ih =>
    obtain ⟨inner, hchild, hinner⟩ := Option.bind_eq_some_iff.mp h
    cases s with
    | key name =>
      cases document with
      | obj fields =>
        have hget : Fields.get? fields name = some inner := hchild
        simpa [Value.follow?, Segment.dotted, hget] using ih hinner
      | _ => cases hchild
    | index position =>
      cases document with
      | list items =>
        have hget : items[position]? = some inner := hchild
        have hposition : position? (Segment.index position).dotted.toList = some position :=
          position?_toString position
        simpa [Value.follow?, hposition, hget] using ih hinner
      | _ => cases hchild

theorem resolve?_of_valueAt {document v : Value} {p : Path} (hne : p ≠ []) (hplain : p.Plain)
    (h : Document.valueAt document p = some v) : document.resolve? p.dotted = some v := by
  rw [Value.resolve?, Path.splitAt_dotted hne hplain]
  exact follow?_of_valueAt h

namespace Query

variable {room : Room} {fields : List FieldMapping} {row : Row} {query query' : Fields}
  {f : FieldMapping}

/-- Every condition is the value of one of these fields, at its place. -/
def ComesFrom (query : Fields) (fields : List FieldMapping) (row : Row) : Prop :=
  ∀ path v, (path, v) ∈ query → ∃ f ∈ fields, f.Gives row v ∧ f.dotted = path

theorem comesFrom_addCondition (h : addCondition row query f = .ok query') (hf : f ∈ fields)
    (hroot : f.isRoot = false) (hquery : ComesFrom query fields row) :
    ComesFrom query' fields row := by
  rcases FieldMapping.gives_or_kept h with ⟨v, hv, hset⟩ | ⟨rfl, -⟩
  · simp only [hroot, Bool.false_eq_true, if_false] at hset
    obtain rfl := Except.ok.inj hset
    intro path w hentry
    rcases Fields.mem_of_mem_set hentry with heq | hold
    · obtain ⟨rfl, rfl⟩ := Prod.mk.inj heq
      exact ⟨f, hf, hv, rfl⟩
    · exact hquery path w hold
  · exact hquery

theorem comesFrom_of_ofRow (h : ofRow fields row = .ok (some query))
    (hroots : ∀ f ∈ fields, f.isRoot = false) : ComesFrom query (matched fields) row := by
  obtain ⟨made, hmade, hquery⟩ := bind_eq_ok.mp h
  have hcomes : ComesFrom made (matched fields) row :=
    foldlM_keeps (P := (ComesFrom · (matched fields) row))
      (fun f hf _ _ hone => comesFrom_addCondition hone hf (hroots f (List.mem_filter.mp hf).1))
      hmade (by simp [ComesFrom])
  have hsome := Except.ok.inj hquery
  split at hsome
  · cases hsome
  · exact Option.some.inj hsome ▸ hcomes

/-- Every condition of a query is met by the document that the same fields make of the same row. -/
theorem resolve?_of_mem {plan : DocumentPlan} {document : Value}
    (hread : ∀ f ∈ fields, ∃ source v, FieldMapping.check source v = .valid f)
    (hvalid : Mapping.validate fields = .ok ())
    (hplan : DocumentPlan.make room fields (Shape.ofFields fields) (suppliesDocument fields) =
      .ok plan)
    (hroots : ∀ f ∈ fields, f.isRoot = false)
    (hkeys : ∀ f ∈ fields, f.isMatchKey = true → f.modifierOnly = false)
    (hnames : ∀ f ∈ fields, f.isMatchKey = true → f.appendsField = true → '.' ∉ f.field.toList)
    (hquery : ofRow fields row = .ok (some query))
    (hdocument : plan.map row = .ok (some document)) :
    ∀ path v, (path, v) ∈ query → document.resolve? path = some v := by
  intro path v hentry
  obtain ⟨f, hmatched, hv, rfl⟩ := comesFrom_of_ofRow hquery hroots path v hentry
  obtain ⟨hf, hkey⟩ := List.mem_filter.mp hmatched
  obtain ⟨source, read, hcheck⟩ := hread f hf
  have hplain : f.path.Plain :=
    FieldMapping.plain_path (FieldMapping.plain_base_of_check hcheck) (hnames f hf hkey)
  have hne : f.path ≠ [] := by simpa [FieldMapping.isRoot] using hroots f hf
  have hinserted : f ∈ Mapping.insertable fields :=
    List.mem_filter.mpr ⟨hf, by simp [FieldMapping.isInsertable, hkeys f hf hkey]⟩
  have hapart := (Mapping.validate_eq_ok_iff.mp hvalid).apart_of_no_root hroots
  rw [Mapping.suppliesDocument_of_no_root hroots] at hplan
  exact resolve?_of_valueAt hne hplain
    (DocumentPlan.valueAt_of_map hplan hapart hdocument hinserted hv)

/-- A match key in the second item of a list, whose first item another field fills. -/
def itemFields : List FieldMapping :=
  [⟨"id", "items[1]", [.key "items", .index 1], true, true, false, false, .set⟩,
    ⟨"note", "items[0]", [.key "items", .index 0], true, false, false, false, .set⟩]

def itemPlan : DocumentPlan := ⟨.ample, itemFields, .obj [], false, false⟩

def itemRow : Row := [("id", .int 7), ("note", .str "new")]

theorem itemFields_read :
    ∀ f ∈ itemFields, ∃ source v, FieldMapping.check source v = .valid f := by
  intro f hf
  rcases List.mem_cons.mp hf with rfl | hf
  · exact ⟨.handed, .obj [("incoming_field_name", .str "id"), ("target_path", .str "items[1]"),
      ("match_key", .bool true)], by with_unfolding_all rfl⟩
  · obtain rfl := List.mem_singleton.mp hf
    exact ⟨.handed, .obj [("incoming_field_name", .str "note"), ("target_path", .str "items[0]")],
      by with_unfolding_all rfl⟩

theorem resolve?_of_mem_item :
    (∀ f ∈ itemFields, ∃ source v, FieldMapping.check source v = .valid f) ∧
    Mapping.validate itemFields = .ok () ∧
    DocumentPlan.make .ample itemFields (Shape.ofFields itemFields) (suppliesDocument itemFields) =
      .ok itemPlan ∧
    (∀ f ∈ itemFields, f.isRoot = false) ∧
    (∀ f ∈ itemFields, f.isMatchKey = true → f.modifierOnly = false) ∧
    (∀ f ∈ itemFields, f.isMatchKey = true → f.appendsField = true → '.' ∉ f.field.toList) ∧
    ofRow itemFields itemRow = .ok (some [("items.1.id", .int 7)]) ∧
    ∃ document, itemPlan.map itemRow = .ok (some document) ∧
      document.resolve? "items.1.id" = some (.int 7) := by
  have hvalid : Mapping.validate itemFields = .ok () := rfl
  have hplan : DocumentPlan.make .ample itemFields (Shape.ofFields itemFields)
      (suppliesDocument itemFields) = .ok itemPlan := rfl
  have hroots : ∀ f ∈ itemFields, f.isRoot = false := by simp [itemFields, FieldMapping.isRoot,
    FieldMapping.path]
  have hkeys : ∀ f ∈ itemFields, f.isMatchKey = true → f.modifierOnly = false := by
    simp [itemFields]
  have hnames : ∀ f ∈ itemFields, f.isMatchKey = true → f.appendsField = true →
      '.' ∉ f.field.toList := by
    simp [itemFields]
  have hquery : ofRow itemFields itemRow = .ok (some [("items.1.id", .int 7)]) := rfl
  have hdocument : itemPlan.map itemRow =
      .ok (some (.obj [("items", .list [.obj [("note", .str "new")], .obj [("id", .int 7)]])])) :=
    rfl
  exact ⟨itemFields_read, hvalid, hplan, hroots, hkeys, hnames, hquery, _, hdocument,
    resolve?_of_mem itemFields_read hvalid hplan hroots hkeys hnames hquery hdocument _ _
      List.mem_cons_self⟩

/-- A match key to whose path a name with a dot in it is added. -/
def dottedName : FieldMapping := ⟨"a.b", "", [], true, true, false, false, .set⟩

/-- The name is one key of the document, and two parts of the query. -/
theorem not_resolve?_dotted_name :
    FieldMapping.check .handed (.obj [("incoming_field_name", .str "a.b"),
      ("match_key", .bool true)]) = .valid dottedName ∧
    Mapping.validate [dottedName] = .ok () ∧
    dottedName.isRoot = false ∧ dottedName.modifierOnly = false ∧
    ofRow [dottedName] [("a.b", .int 1)] = .ok (some [("a.b", .int 1)]) ∧
    (∃ plan, DocumentPlan.make .ample [dottedName] (Shape.ofFields [dottedName])
        (suppliesDocument [dottedName]) = .ok plan ∧
      plan.map [("a.b", .int 1)] = .ok (some (.obj [("a.b", .int 1)]))) ∧
    (Value.obj [("a.b", .int 1)]).resolve? "a.b" = none :=
  ⟨by with_unfolding_all rfl, rfl, rfl, rfl, rfl, ⟨_, rfl, rfl⟩, by with_unfolding_all rfl⟩

end Query

end RowIngest
