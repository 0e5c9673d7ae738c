import RowIngest.Proofs.Configuration
import RowIngest.Proofs.Yielding
/-!
What a row is refused for. A field can have a value that cannot be read or placed, and a row can be
no object at all; neither is a fault of the configuration. Main statements: once a mapping has
passed its check the configuration is not to blame for any row that is refused, and every change
that a row stands for can be written.
-/
namespace RowIngest

variable {room : Room} {f : FieldMapping} {row : Row} {e : Fault}

namespace FieldMapping

variable {β : Type} {made : β}

theorem not_configuration_of_value (h : f.value row = .error e) : e.isConfiguration = false := by
  simp only [value] at h
  split at h
  · rcases hread : subDocumentValue (row.value f.field) with problem | v <;> rw [hread] at h
    · obtain rfl : Fault.field f.field problem = e := Except.error.inj h
      rfl
    · cases h
  · cases h

/-- A step that leaves null out fails where the value cannot be read, or where it cannot be used. -/
theorem not_configuration_of_given {use : Value → Except Fault β}
    (huse : ∀ v, use v = .error e → e.isConfiguration = false)
    (h : (do let v ← f.value row; if v.isNull then return made else use v) = .error e) :
    e.isConfiguration = false := by
  rcases bind_eq_error.mp h with hvalue | ⟨v, -, hused⟩
  · exact not_configuration_of_value hvalue
  · split at hused
    · cases hused
    · exact huse v hused

end FieldMapping

theorem Document.not_configuration_of_addField {document : Value}
    (h : addField room row document f = .error e) : e.isConfiguration = false := by
  refine FieldMapping.not_configuration_of_given (fun v hplaced => ?_) h
  unfold placeField at hplaced
  split at hplaced
  · cases hplaced
    rfl
  · rename_i s rest _
    rcases hplace : place room f.display v document s rest with obstacle | made <;>
      rw [hplace] at hplaced
    · obtain rfl : obstacle.fault f.field = e := Except.error.inj hplaced
      cases obstacle <;> rfl
    · cases hplaced

theorem Query.not_configuration_of_addCondition {query : Fields}
    (h : addCondition row query f = .error e) : e.isConfiguration = false := by
  refine FieldMapping.not_configuration_of_given (fun v hused => ?_) h
  split at hused
  · split at hused <;> cases hused
    rfl
  · cases hused

theorem Update.not_configuration_of_addChange {u : Update}
    (h : addChange row u f = .error e) : e.isConfiguration = false :=
  FieldMapping.not_configuration_of_given (fun _ hput => by cases hput) h

theorem Row.not_configuration_of_read {fields : List FieldMapping} {row : Value}
    (h : Row.read fields row = .error e) : e.isConfiguration = false := by
  cases row with
  | obj entries => cases h
  | _ =>
    simp only [Row.read] at h
    split at h <;> cases h
    rfl

theorem DocumentPlan.not_configuration_of_map {fields : List FieldMapping} {shape : Shape}
    {plan : DocumentPlan} (hvalid : Mapping.Unambiguous fields)
    (hplan : make room fields shape (suppliesDocument fields) = .ok plan)
    (h : plan.map row = .error e) : e.isConfiguration = false := by
  cases hsupplied : suppliesDocument fields with
  | true =>
    rw [hsupplied] at hplan
    obtain ⟨root, hroot⟩ := hvalid.root_of_supplied hsupplied
    rw [map_of_root hplan hroot] at h
    refine FieldMapping.not_configuration_of_given (fun v hused => ?_) h
    split at hused <;> cases hused
    rfl
  | false =>
    rw [hsupplied] at hplan
    rw [map_of_apart hplan (hvalid.apart_of_not_supplied hsupplied)] at h
    rcases bind_eq_error.mp h with hfold | ⟨made, -, hmade⟩
    · obtain ⟨f, -, document, hone⟩ := foldlM_fails hfold
      exact Document.not_configuration_of_addField hone
    · cases hmade

namespace Upsert

theorem isOperator_text (m : Modifier) : isOperator m.text = true := by
  cases m <;> decide +kernel

/-- An update is recognized as one: it is not empty and all its keys are operators. -/
theorem isModifierUpdate_of_ofRow {fields : List FieldMapping} {d : Value}
    (h : Update.ofRow fields row = .ok (some d)) : isModifierUpdate d = true := by
  obtain ⟨u, hmade, hupdate⟩ := bind_eq_ok.mp h
  have hoperators : ∀ entry ∈ u, isOperator entry.1 = true := by
    refine Update.foldlM_addChange_keeps
      (P := fun made => ∀ entry ∈ made, isOperator entry.1 = true)
      (fun f _ v _ made hold entry hentry => ?_) hmade (by simp)
    rcases Fields.mem_of_mem_set hentry with rfl | hentry
    · exact isOperator_text f.modifier
    · exact hold entry hentry
  cases u with
  | nil => cases hupdate
  | cons entry rest =>
    obtain rfl := Option.some.inj (Except.ok.inj hupdate)
    simp only [Update.toValue, isModifierUpdate, List.map_cons, List.isEmpty_cons, Bool.not_false,
      Bool.true_and, List.all_eq_true, List.mem_cons, List.mem_map]
    rintro - (rfl | ⟨other, hother, rfl⟩)
    · exact hoperators entry List.mem_cons_self
    · exact hoperators other (List.mem_cons_of_mem entry hother)

end Upsert

namespace LoadConfig

variable {c : LoadConfig} {acceptsArrays : Bool} {row : Value}

theorem not_configuration_of_mapRecord (h : c.checkMapping acceptsArrays = .ok ())
    (hrecord : c.mapRecord room row = .error e) : e.isConfiguration = false := by
  obtain ⟨hvalid, plan, hplan⟩ := plan_of_checked h
  cases hdocuments : c.writesDocuments with
  | true =>
    rw [mapRecord_of_writesDocuments hvalid hplan hdocuments] at hrecord
    rcases bind_eq_error.mp hrecord with hread | ⟨read, -, hmap⟩
    · exact Row.not_configuration_of_read hread
    · exact DocumentPlan.not_configuration_of_map hvalid hplan hmap
  | false =>
    rw [mapRecord_of_updates hdocuments] at hrecord
    rcases bind_eq_error.mp hrecord with hread | ⟨read, -, hupdate⟩
    · exact Row.not_configuration_of_read hread
    · rcases bind_eq_error.mp hupdate with hfold | ⟨u, -, hmade⟩
      · obtain ⟨f, -, u, hone⟩ := foldlM_fails hfold
        exact Update.not_configuration_of_addChange hone
      · cases hmade

theorem not_configuration_of_mapQuery (hquery : c.mapQuery row = .error e) :
    e.isConfiguration = false := by
  rcases bind_eq_error.mp hquery with hread | ⟨read, -, hrest⟩
  · exact Row.not_configuration_of_read hread
  · rcases bind_eq_error.mp hrest with hconditions | ⟨conditions, -, hmade⟩
    · rcases bind_eq_error.mp hconditions with hfold | ⟨query, -, hmade⟩
      · obtain ⟨f, -, query, hone⟩ := foldlM_fails hfold
        exact Query.not_configuration_of_addCondition hone
      · cases hmade
    · cases hmade

/-- The configuration is not to blame for a row that is refused. -/
theorem not_configuration_of_delivery (h : c.checkMapping acceptsArrays = .ok ())
    (hrow : c.delivery room row = .error e) : e.isConfiguration = false := by
  have hrecord : ∀ {g : Value → Delivery},
      (c.mapRecord room row).map (·.map g) = .error e → e.isConfiguration = false := by
    intro g hmapped
    rcases hmade : c.mapRecord room row with f | made <;> rw [hmade] at hmapped
    · obtain rfl : f = e := Except.error.inj hmapped
      exact not_configuration_of_mapRecord h hmade
    · cases hmapped
  cases hupsert : c.upsert with
  | false =>
    rw [delivery_insert hupsert, ← mapRecord_of_insert hupsert] at hrow
    exact hrecord hrow
  | true =>
    rw [delivery_upsert hupsert, ← mapRecord_of_upsert hupsert] at hrow
    rcases hquery : c.mapQuery row with f | (_ | query) <;> simp only [hquery] at hrow
    · obtain rfl : f = e := Except.error.inj hrow
      exact not_configuration_of_mapQuery hquery
    · cases hrow
    · exact hrecord hrow

/-- Every change that a row stands for can be written: those that go to every match are modifier
updates. -/
theorem exists_choose {fs : Fields} {query document : Value} (hconfig : ofFields fs = .ok c)
    (hrow : c.delivery room row = .ok (some (.change query document))) :
    ∃ w, Upsert.choose query document c.multi = .ok w := by
  have hupsert := upsert_of_change hrow
  cases hmodifier : c.modifierUpdate with
  | false =>
    have hmulti := not_multi_of_ofFields hconfig hupsert hmodifier
    unfold Upsert.choose
    rw [hmulti]
    split <;> exact ⟨_, rfl⟩
  | true =>
    have hchange := (mapped_of_change hupsert hrow).2
    rw [mapChange, if_pos hmodifier] at hchange
    obtain ⟨read, -, hupdate⟩ := bind_eq_ok.mp hchange
    exact ⟨_, if_pos (Upsert.isModifierUpdate_of_ofRow hupdate)⟩

end LoadConfig

end RowIngest
