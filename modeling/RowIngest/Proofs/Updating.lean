import RowIngest.Mapping.Query
import RowIngest.Proofs.Giving
import RowIngest.Proofs.Validity
/-!
What a modifier update changes. Each field with a value is to set one place under its operator.
The check of a mapping does not see to it that no later field sets the same place again; where one
does, the value of the earlier field is lost. Main statement: an update holds the value of every
changed field that is not displaced in this way, and nothing that is not the value of a changed
field.
-/
namespace RowIngest

theorem Modifier.text_injective {m n : Modifier} (h : m.text = n.text) : m = n := by
  cases m <;> cases n <;> simp [Modifier.text] at h ⊢

namespace Update

variable {fields : List FieldMapping} {row : Row} {u u' : Update} {f : FieldMapping}

/-- The new value that an update has for a place, under an operator. -/
def change? (u : Update) (op path : String) : Option Value :=
  (Fields.get? u op).bind (Fields.get? · path)

/-- Sets one place under an operator. -/
def put (u : Update) (op path : String) (v : Value) : Update :=
  Fields.set u op (Fields.set ((Fields.get? u op).getD []) path v)

theorem change?_put (u : Update) (op path : String) (v : Value) (op' path' : String) :
    (u.put op path v).change? op' path' =
      if op' = op ∧ path' = path then some v else u.change? op' path' := by
  by_cases hop : op' = op
  · subst hop
    by_cases hpath : path' = path
    · simp [change?, put, hpath]
    · simp only [change?, put, Fields.get?_set_self, Option.bind_some,
        Fields.get?_set_of_ne _ _ hpath, hpath, and_false, if_false]
      cases Fields.get? u op' <;> simp [Fields.get?]
  · simp [change?, put, hop, Fields.get?_set_of_ne _ _ hop]

/-- No operator is there twice or without a place, and no place twice under one operator. -/
structure Proper (u : Update) : Prop where
  operators : (Fields.names u).Nodup
  places : ∀ entry ∈ u, entry.2 ≠ [] ∧ (Fields.names entry.2).Nodup

theorem Proper.nil : Proper [] := ⟨List.nodup_nil, by simp⟩

theorem Proper.put (h : Proper u) (op path : String) (v : Value) : Proper (u.put op path v) := by
  refine ⟨Fields.nodup_names_set h.operators op _, fun entry hentry => ?_⟩
  rcases Fields.mem_of_mem_set hentry with rfl | hold
  · refine ⟨Fields.set_ne_nil _ path v, Fields.nodup_names_set ?_ path v⟩
    rcases hchanges : Fields.get? u op with _ | changes
    · exact List.nodup_nil
    · exact (h.places _ (Fields.mem_of_get? hchanges)).2
  · exact h.places entry hold

/-- Every new value is the value of one of these fields, at its place and under its operator. -/
def ComesFrom (u : Update) (fields : List FieldMapping) (row : Row) : Prop :=
  ∀ op changes, (op, changes) ∈ u → ∀ path v, (path, v) ∈ changes →
    ∃ f ∈ fields, f.Gives row v ∧ f.modifier.text = op ∧ f.dotted = path

theorem ComesFrom.put {v : Value} (h : u.ComesFrom fields row) (hf : f ∈ fields)
    (hv : f.Gives row v) : (u.put f.modifier.text f.dotted v).ComesFrom fields row := by
  intro op changes hentry path w hchange
  rcases Fields.mem_of_mem_set hentry with heq | hold
  · obtain ⟨rfl, rfl⟩ := Prod.mk.inj heq
    rcases Fields.mem_of_mem_set hchange with heq | hchange
    · obtain ⟨rfl, rfl⟩ := Prod.mk.inj heq
      exact ⟨f, hf, hv, rfl, rfl⟩
    · rcases hchanges : Fields.get? u f.modifier.text with _ | changes
      · simp [hchanges] at hchange
      · rw [hchanges] at hchange
        exact h _ changes (Fields.mem_of_get? hchanges) path w hchange
  · exact h op changes hold path w hchange

/-- A field either sets its own place or leaves the update as it is. -/
theorem addChange_cases (h : addChange row u f = .ok u') :
    (∃ v, f.Gives row v ∧ u' = u.put f.modifier.text f.dotted v) ∨
      u' = u ∧ ∀ v, ¬ f.Gives row v := by
  refine (FieldMapping.gives_or_kept h).imp_left fun ⟨v, hv, hput⟩ => ⟨v, hv, ?_⟩
  exact (Except.ok.inj hput).symm

theorem exists_addChange {v : Value} (hv : f.value row = .ok v) (u : Update) :
    ∃ u', addChange row u f = .ok u' := by
  cases hnull : v.isNull <;> simp [addChange, hv, hnull, bind, Except.bind, pure, Except.pure]

theorem foldlM_addChange_keeps {P : Update → Prop}
    (hput : ∀ f ∈ fields, ∀ v, f.Gives row v → ∀ u, P u → P (u.put f.modifier.text f.dotted v))
    (h : fields.foldlM (addChange row) u = .ok u') (hu : P u) : P u' := by
  refine foldlM_keeps (fun f hf made made' hone hmade => ?_) h hu
  rcases addChange_cases hone with ⟨v, hv, rfl⟩ | ⟨rfl, -⟩
  · exact hput f hf v hv made hmade
  · exact hmade

/-- A place keeps its value as long as no field sets it. -/
theorem foldlM_addChange_kept {op path : String}
    (h : fields.foldlM (addChange row) u = .ok u')
    (hothers : ∀ g ∈ fields, ∀ w, g.Gives row w → g.modifier.text = op → g.dotted ≠ path) :
    u'.change? op path = u.change? op path := by
  refine foldlM_addChange_keeps (P := fun made => made.change? op path = u.change? op path)
    (fun g hg w hw made hmade => ?_) h rfl
  have hother : ¬ (op = g.modifier.text ∧ path = g.dotted) := fun hsame =>
    hothers g hg w hw hsame.1.symm hsame.2.symm
  rw [change?_put, if_neg hother, hmade]

/-- A later field sets the place of this one again, under the same operator, so that the value of
this one is lost. The check of a mapping misses it in two cases: one of the two fields is for
modifier updates alone, and their paths are not compared; or their paths are not the same and yet
lead to one place. -/
def Displaced (row : Row) (f : FieldMapping) (after : List FieldMapping) : Prop :=
  ∃ g ∈ changed after, (∃ w, g.Gives row w) ∧ g.modifier = f.modifier ∧ g.dotted = f.dotted ∧
    (f.modifierOnly = true ∨ g.modifierOnly = true ∨ g.path ≠ f.path)

theorem not_same_place_of_not_displaced {before after : List FieldMapping}
    (hvalid : Mapping.Unambiguous (before ++ f :: after)) (hroot : f.isRoot = false)
    (hmatch : f.isMatchKey = false) (hkept : ¬ Displaced row f after) :
    ∀ g ∈ changed after, ∀ w, g.Gives row w →
      g.modifier.text = f.modifier.text → g.dotted ≠ f.dotted := by
  intro g hg w hw hmodifier hdotted
  refine hkept ⟨g, hg, ⟨w, hw⟩, Modifier.text_injective hmodifier, hdotted, ?_⟩
  refine Decidable.byContradiction fun hnone => ?_
  simp only [not_or, Bool.not_eq_true, ne_eq, Decidable.not_not] at hnone
  obtain ⟨hf, hinserted, hpath⟩ := hnone
  have hapart := hvalid.paths_apart (List.mem_filter.mp hg).1
    (by simp [FieldMapping.isInsertable, hf]) hroot hmatch
    (by simp [FieldMapping.isInsertable, hinserted])
  rw [hpath, Mapping.pathsOverlap_self] at hapart
  cases hapart

theorem change?_of_not_displaced {before after : List FieldMapping} {v : Value}
    (hvalid : Mapping.Unambiguous (before ++ f :: after))
    (h : (changed (before ++ f :: after)).foldlM (addChange row) [] = .ok u)
    (hroot : f.isRoot = false) (hmatch : f.isMatchKey = false) (hv : f.Gives row v)
    (hkept : ¬ Displaced row f after) : u.change? f.modifier.text f.dotted = some v := by
  have hchanged : changed (before ++ f :: after) = changed before ++ f :: changed after := by
    simp [changed, List.filter_append, hroot, hmatch]
  obtain ⟨u₁, -, hrest⟩ := foldlM_append_ok.mp (hchanged ▸ h)
  obtain ⟨u₂, hone, hafter⟩ := foldlM_cons_ok.mp hrest
  rw [foldlM_addChange_kept hafter (not_same_place_of_not_displaced hvalid hroot hmatch hkept)]
  rcases addChange_cases hone with ⟨w, hw, rfl⟩ | ⟨-, hnone⟩
  · rw [hv.unique hw, change?_put, if_pos ⟨rfl, rfl⟩]
  · exact absurd hv (hnone v)

/-- The update of a row, made by a mapping that passes its check from values that can all be had,
has the value of every field that it is to change and that is not displaced, and nothing else. -/
theorem ofRow_holds_values (hvalid : Mapping.validate fields = .ok ())
    (hvalues : ∀ f ∈ fields, ∃ v, f.value row = .ok v) :
    ∃ u : Update, ofRow fields row = .ok (if u.isEmpty then none else some u.toValue) ∧
      u.Proper ∧ u.ComesFrom (changed fields) row ∧
      ∀ before f after v, fields = before ++ f :: after → f.isMatchKey = false →
        f.isRoot = false → f.Gives row v → ¬ Displaced row f after →
          u.change? f.modifier.text f.dotted = some v := by
  have hsteps : ∀ f ∈ changed fields, ∀ u, ∃ u', addChange row u f = .ok u' := by
    intro f hf u
    obtain ⟨v, hv⟩ := hvalues f (List.mem_filter.mp hf).1
    exact exists_addChange hv u
  obtain ⟨u, hu⟩ := foldlM_succeeds hsteps []
  refine ⟨u, by simp [ofRow, hu, bind, Except.bind, pure, Except.pure], ?_, ?_, ?_⟩
  · exact foldlM_addChange_keeps (P := Proper) (fun f _ v _ made hmade => hmade.put _ _ v) hu
      .nil
  · exact foldlM_addChange_keeps (P := (ComesFrom · (changed fields) row))
      (fun f hf v hv made hmade => hmade.put hf hv) hu (by simp [ComesFrom])
  · rintro before f after v rfl hmatch hroot hv hkept
    exact change?_of_not_displaced (Mapping.validate_eq_ok_iff.mp hvalid) hu hroot hmatch hv hkept

/-- The name of a customer, a note that is pushed to a list, and a title that is for updates alone
and takes the place of the name. -/
def profileFields : List FieldMapping :=
  [⟨"id", "", [], true, true, false, false, .set⟩,
    ⟨"name", "customer", [.key "customer"], true, false, false, false, .set⟩,
    ⟨"note", "customer.notes", [.key "customer", .key "notes"], false, false, false, false, .push⟩,
    ⟨"title", "customer.name", [.key "customer", .key "name"], false, false, true, false, .set⟩]

def profileRow (title : Value) : Row :=
  [("id", .int 1), ("name", .str "Ada"), ("note", .str "new"), ("title", title)]

theorem profileFields_valid : Mapping.validate profileFields = .ok () := by rfl

theorem profileRow_values (title : Value) :
    ∀ f ∈ profileFields, ∃ v, f.value (profileRow title) = .ok v := by
  simp [profileFields, FieldMapping.value]

theorem ofRow_holds_values_without_title :
    Mapping.validate profileFields = .ok () ∧
    (∀ f ∈ profileFields, ∃ v, f.value (profileRow .null) = .ok v) ∧
    ∃ u : Update,
      ofRow profileFields (profileRow .null) = .ok (if u.isEmpty then none else some u.toValue) ∧
      u.change? "$set" "customer.name" = some (.str "Ada") ∧
      u.change? "$push" "customer.notes" = some (.str "new") := by
  refine ⟨profileFields_valid, profileRow_values .null, ?_⟩
  obtain ⟨u, hu, -, -, hkept⟩ :=
    ofRow_holds_values profileFields_valid (profileRow_values .null)
  refine ⟨u, hu, hkept [profileFields[0]] _ _ (.str "Ada") rfl rfl rfl ⟨rfl, rfl⟩ ?_,
    hkept (profileFields.take 2) _ _ (.str "new") rfl rfl rfl ⟨rfl, rfl⟩ ?_⟩
  · rintro ⟨g, hg, ⟨w, hvalue, hnull⟩, hmodifier, -⟩
    have hlater : g = profileFields[2] ∨ g = profileFields[3] := by
      simpa [profileFields] using (List.mem_filter.mp hg).1
    rcases hlater with rfl | rfl
    · cases hmodifier
    · obtain rfl : Value.null = w := Except.ok.inj hvalue
      cases hnull
  · rintro ⟨g, hg, -, hmodifier, -⟩
    rw [List.mem_singleton.mp hg] at hmodifier
    cases hmodifier

/-- The check accepts two fields for one place if one of them is for updates alone, and then only
the later value is in the update. -/
theorem value_displaced :
    Mapping.validate profileFields = .ok () ∧
    (∀ f ∈ profileFields, ∃ v, f.value (profileRow (.str "Dr")) = .ok v) ∧
    profileFields[1] ∈ changed profileFields ∧
    profileFields[1].Gives (profileRow (.str "Dr")) (.str "Ada") ∧
    profileFields[1].modifier.text = "$set" ∧ profileFields[1].dotted = "customer.name" ∧
    ofRow profileFields (profileRow (.str "Dr")) = .ok (some (toValue
      [("$set", [("customer.name", .str "Dr")]), ("$push", [("customer.notes", .str "new")])])) :=
  ⟨profileFields_valid, profileRow_values (.str "Dr"), by simp [changed, profileFields,
    FieldMapping.isRoot, FieldMapping.path], ⟨rfl, rfl⟩, rfl, rfl, rfl⟩

end Update

end RowIngest
