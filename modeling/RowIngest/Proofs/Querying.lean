import RowIngest.Mapping.Query
import RowIngest.Proofs.Giving
import RowIngest.Proofs.Validity
/-!
What a match query asks for. Each match key with a value sets the condition at its place, an
object that is mapped to the root sets all of its own, and what is set later takes the place of
what was there. Main statement: a query has a condition for every match key with a value; it is
that value unless a later match key displaces it; and no condition is one that the row does not
bring.
-/
namespace RowIngest.Query

variable {fields : List FieldMapping} {row : Row} {query query' : Fields} {f : FieldMapping}
  {path : String} {v : Value}

/-- A condition that the row brings for a match key: the value of the key at its place, or an
entry of the object that is mapped to the root. -/
inductive Brings (f : FieldMapping) (row : Row) : String → Value → Prop
  | own {v : Value} (hroot : f.isRoot = false) (hv : f.Gives row v) : Brings f row f.dotted v
  | among {brought : Fields} {path : String} {v : Value} (hroot : f.isRoot = true)
      (hv : f.Gives row (.obj brought)) (hentry : (path, v) ∈ brought) : Brings f row path v

theorem Brings.of_root (h : Brings f row path v) (hroot : f.isRoot = true) :
    ∃ brought, f.Gives row (.obj brought) ∧ (path, v) ∈ brought := by
  cases h with
  | own hplaced _ =>
    rw [hroot] at hplaced
    cases hplaced
  | among _ hv hentry => exact ⟨_, hv, hentry⟩

/-- Only an object that is mapped to the root can bring null. -/
theorem Brings.isRoot_of_null (h : Brings f row path .null) : f.isRoot = true := by
  cases h with
  | own _ hv => cases hv.2
  | among hroot _ _ => exact hroot

/-- A match key sets the conditions that the row brings for it, and leaves all others as they
are. -/
theorem addCondition_keeps {P : Fields → Prop}
    (hset : ∀ path v, Brings f row path v → ∀ made, P made → P (Fields.set made path v))
    (h : addCondition row query f = .ok query') (hquery : P query) : P query' := by
  rcases FieldMapping.gives_or_kept h with ⟨v, hv, hused⟩ | ⟨rfl, -⟩
  · cases hroot : f.isRoot with
    | false =>
      simp only [hroot, Bool.false_eq_true, if_false] at hused
      obtain rfl := Except.ok.inj hused
      exact hset f.dotted v (.own hroot hv) query hquery
    | true =>
      simp only [hroot, if_true] at hused
      cases v with
      | obj brought =>
        obtain rfl := Except.ok.inj hused
        exact Fields.merge_keeps (fun path w hentry => hset path w (.among hroot hv hentry)) hquery
      | _ => cases hused
  · exact hquery

theorem foldlM_addCondition_keeps {P : Fields → Prop}
    (hset : ∀ f ∈ fields, ∀ path v, Brings f row path v → ∀ made, P made →
      P (Fields.set made path v))
    (h : fields.foldlM (addCondition row) query = .ok query') (hquery : P query) : P query' :=
  foldlM_keeps (fun f hf _ _ hone => addCondition_keeps (hset f hf) hone) h hquery

/-- The query of a row is made by its match keys, and it is not empty. -/
theorem foldlM_of_ofRow (h : ofRow fields row = .ok (some query)) :
    (matched fields).foldlM (addCondition row) [] = .ok query ∧ query ≠ [] := by
  obtain ⟨made, hmade, hquery⟩ := bind_eq_ok.mp h
  have hsome := Except.ok.inj hquery
  by_cases hempty : made.isEmpty = true
  · simp [hempty] at hsome
  · simp only [hempty, Bool.false_eq_true, if_false, Option.some.injEq] at hsome
    rw [← hsome]
    exact ⟨hmade, by simpa using hempty⟩

theorem brings_of_mem (h : ofRow fields row = .ok (some query)) (hentry : (path, v) ∈ query) :
    ∃ f ∈ matched fields, Brings f row path v := by
  have hbrought : ∀ path v, (path, v) ∈ query → ∃ f ∈ matched fields, Brings f row path v := by
    refine foldlM_addCondition_keeps
      (P := fun made => ∀ path v, (path, v) ∈ made → ∃ f ∈ matched fields, Brings f row path v)
      (fun f hf path v hbrings made hmade => ?_) (foldlM_of_ofRow h).1 (by simp)
    intro path' v' hentry
    rcases Fields.mem_of_mem_set hentry with heq | hold
    · obtain ⟨rfl, rfl⟩ := Prod.mk.inj heq
      exact ⟨f, hf, hbrings⟩
    · exact hmade path' v' hold
  exact hbrought path v hentry

/-- A condition keeps its value as long as no match key brings another one. -/
theorem get?_kept (h : fields.foldlM (addCondition row) query = .ok query')
    (hothers : ∀ g ∈ fields, ∀ w, ¬ Brings g row path w) :
    Fields.get? query' path = Fields.get? query path := by
  refine foldlM_addCondition_keeps
    (P := fun made => Fields.get? made path = Fields.get? query path)
    (fun g hg path' w hbrings made hmade => ?_) h rfl
  have hother : path ≠ path' := by
    rintro rfl
    exact hothers g hg w hbrings
  rw [Fields.get?_set_of_ne made w hother, hmade]

/-- A condition stays there. -/
theorem names_kept (h : fields.foldlM (addCondition row) query = .ok query')
    (hpath : path ∈ Fields.names query) : path ∈ Fields.names query' := by
  refine foldlM_addCondition_keeps (P := (path ∈ Fields.names ·))
    (fun g _ path' w _ made hmade => ?_) h hpath
  rw [Fields.names_set]
  split
  · exact hmade
  · exact List.mem_append_left _ hmade

theorem addCondition_own (h : addCondition row query f = .ok query') (hroot : f.isRoot = false)
    (hv : f.Gives row v) : query' = Fields.set query f.dotted v := by
  rcases FieldMapping.gives_or_kept h with ⟨w, hw, hused⟩ | ⟨-, hnone⟩
  · simp only [hroot, Bool.false_eq_true, if_false] at hused
    rw [hv.unique hw]
    exact (Except.ok.inj hused).symm
  · exact absurd hv (hnone v)

/-- A later match key brings a condition for the place of this one. The object of a root match key
is merged over the conditions before it, and a match key that is for modifier updates alone may
share the place of another one; both are meant to be. In two more cases the check of a mapping
misses that two match keys have one place: their paths are not the same and yet lead to it, or a
field supplies the whole document and paths are not compared at all. -/
def Displaced (fields : List FieldMapping) (row : Row) (f : FieldMapping)
    (after : List FieldMapping) : Prop :=
  ∃ g ∈ matched after, (∃ w, Brings g row f.dotted w) ∧
    (g.isRoot = true ∨ f.modifierOnly = true ∨ g.modifierOnly = true ∨ g.path ≠ f.path ∨
      suppliesDocument fields = true)

/-- Where the check of a mapping keeps two match keys apart, they do not have the same place. -/
theorem not_brings_of_not_displaced {before after : List FieldMapping}
    (hvalid : Mapping.Unambiguous (before ++ f :: after))
    (hkept : ¬ Displaced (before ++ f :: after) row f after) :
    ∀ g ∈ matched after, ∀ w, ¬ Brings g row f.dotted w := by
  intro g hg w hbrings
  refine hkept ⟨g, hg, ⟨w, hbrings⟩, Decidable.byContradiction fun hnone => ?_⟩
  simp only [not_or, Bool.not_eq_true, ne_eq, Decidable.not_not] at hnone
  obtain ⟨-, hf, hinserted, hpath, hsupplied⟩ := hnone
  have hapart := (hvalid.apart_of_not_supplied hsupplied).of_later (List.mem_filter.mp hg).1
    (by simp [FieldMapping.isInsertable, hf]) (by simp [FieldMapping.isInsertable, hinserted])
  rw [hpath, Mapping.pathsOverlap_self] at hapart
  cases hapart

/-- A query, made by a mapping that passes its check, has a condition at the place of every match
key with a value. It is that value unless it is displaced, and nothing else is in the query. -/
theorem ofRow_holds_conditions (hvalid : Mapping.validate fields = .ok ())
    (hquery : ofRow fields row = .ok (some query)) :
    (Fields.names query).Nodup ∧
      (∀ path v, (path, v) ∈ query → ∃ f ∈ matched fields, Brings f row path v) ∧
      ∀ before f after v, fields = before ++ f :: after → f.isMatchKey = true →
        f.isRoot = false → f.Gives row v →
          f.dotted ∈ Fields.names query ∧
            (¬ Displaced fields row f after → Fields.get? query f.dotted = some v) := by
  obtain ⟨hmade, -⟩ := foldlM_of_ofRow hquery
  refine ⟨?_, fun path v hentry => brings_of_mem hquery hentry, ?_⟩
  · exact foldlM_addCondition_keeps (P := fun made => (Fields.names made).Nodup)
      (fun _ _ path v _ made hnodup => Fields.nodup_names_set hnodup path v) hmade List.nodup_nil
  · rintro before f after v rfl hkey hroot hv
    have hmatched : matched (before ++ f :: after) = matched before ++ f :: matched after := by
      simp [matched, List.filter_append, hkey]
    -- Whatever the earlier keys have set, this one sets its condition; only later keys can undo it.
    obtain ⟨query₁, -, hrest⟩ := foldlM_append_ok.mp (hmatched ▸ hmade)
    obtain ⟨query₂, hone, hafter⟩ := foldlM_cons_ok.mp hrest
    obtain rfl := addCondition_own hone hroot hv
    refine ⟨names_kept hafter ?_, fun hkept => ?_⟩
    · rw [Fields.names_set]
      split <;> simp_all
    · have hapart := not_brings_of_not_displaced (Mapping.validate_eq_ok_iff.mp hvalid) hkept
      rw [get?_kept hafter hapart, Fields.get?_set_self]

/-- A number to find a document by, an object of further conditions that is for nothing else, and a
name. -/
def filterFields : List FieldMapping :=
  [⟨"id", "", [], true, true, false, false, .set⟩,
    ⟨"filter", "", [], false, true, true, true, .set⟩,
    ⟨"name", "", [], true, false, false, false, .set⟩]

def filterRow (id : Value) (conditions : Fields) : Row :=
  [("id", id), ("filter", .obj conditions), ("name", .str "Ada")]

theorem filterFields_valid : Mapping.validate filterFields = .ok () := rfl

theorem ofRow_holds_conditions_open :
    Mapping.validate filterFields = .ok () ∧
    ofRow filterFields (filterRow (.int 1) [("open", .bool true)]) =
      .ok (some [("id", .int 1), ("open", .bool true)]) ∧
    filterFields[0].isMatchKey = true ∧ filterFields[0].isRoot = false ∧
    filterFields[0].Gives (filterRow (.int 1) [("open", .bool true)]) (.int 1) ∧
    Fields.get? [("id", .int 1), ("open", .bool true)] filterFields[0].dotted =
      some (Value.int 1) := by
  have hquery : ofRow filterFields (filterRow (.int 1) [("open", .bool true)]) =
      .ok (some [("id", .int 1), ("open", .bool true)]) := rfl
  have hv : filterFields[0].Gives (filterRow (.int 1) [("open", .bool true)]) (.int 1) :=
    ⟨rfl, rfl⟩
  refine ⟨filterFields_valid, hquery, rfl, rfl, hv, ?_⟩
  obtain ⟨-, -, hholds⟩ := ofRow_holds_conditions filterFields_valid hquery
  refine (hholds [] _ _ _ rfl rfl rfl hv).2 ?_
  rintro ⟨g, hg, ⟨w, hbrings⟩, -⟩
  obtain rfl : g = filterFields[1] := by simpa [filterFields, matched] using hg
  obtain ⟨brought, hgives, hentry⟩ := hbrings.of_root rfl
  obtain rfl := Value.obj.inj (Except.ok.inj hgives.1)
  have hname : "id" = "open" := congrArg Prod.fst (List.mem_singleton.mp hentry)
  exact absurd hname (by decide)

/-- An object that is mapped to the root can bring a condition for the place of another key. -/
theorem condition_displaced :
    Mapping.validate filterFields = .ok () ∧
    filterFields[0].isMatchKey = true ∧ filterFields[0].isRoot = false ∧
    filterFields[0].Gives (filterRow (.int 1) [("id", .int 2)]) (.int 1) ∧
    filterFields[0].dotted = "id" ∧
    ofRow filterFields (filterRow (.int 1) [("id", .int 2)]) = .ok (some [("id", .int 2)]) :=
  ⟨filterFields_valid, rfl, rfl, ⟨rfl, rfl⟩, rfl, rfl⟩

end RowIngest.Query
