import RowIngest.Number.Binary64
/-!
Data values: what a row holds, what documents are made of and what a store answers. The
fields of an object keep the order in which they were first set. Main statements: after
setting a field it has the new value, the other fields keep theirs, and no name is there twice.
-/
namespace RowIngest

inductive Value where
  | null
  | bool (b : Bool)
  | int (n : Int)
  | float (x : Binary64)
  | str (s : String)
  | list (items : List Value)
  | obj (fields : List (String × Value))
  deriving Inhabited

/-- Named values in order. -/
abbrev Fields := List (String × Value)

namespace Fields

variable {α : Type}

def get? (fs : List (String × α)) (name : String) : Option α :=
  match fs with
  | [] => none
  | (k, v) :: rest => if k = name then some v else get? rest name

/-- Gives a field a value: in place if it is there, at the end if it is new. -/
def set (fs : List (String × α)) (name : String) (value : α) : List (String × α) :=
  match fs with
  | [] => [(name, value)]
  | (k, v) :: rest => if k = name then (k, value) :: rest else (k, v) :: set rest name value

/-- Sets every field of the second list in the first. -/
def merge (fs gs : List (String × α)) : List (String × α) :=
  gs.foldl (fun acc (k, v) => set acc k v) fs

/-- Keeps the first position and the last value of a repeated name. -/
def ofPairs (ps : List (String × α)) : List (String × α) := merge [] ps

def names (fs : List (String × α)) : List String := fs.map (·.1)

@[simp] theorem get?_set_self (fs : List (String × α)) (name : String) (value : α) :
    get? (set fs name value) name = some value := by
  induction fs with
  | nil => simp [set, get?]
  | cons f rest ih =>
    obtain ⟨k, v⟩ := f
    by_cases h : k = name <;> simp [set, get?, h, ih]

theorem get?_set_of_ne (fs : List (String × α)) {name other : String} (value : α)
    (h : other ≠ name) : get? (set fs name value) other = get? fs other := by
  induction fs with
  | nil => simp [set, get?, Ne.symm h]
  | cons f rest ih =>
    obtain ⟨k, v⟩ := f
    by_cases hk : k = name
    · simp [set, get?, hk, Ne.symm h]
    · simp [set, get?, hk, ih]

theorem names_set (fs : List (String × α)) (name : String) (value : α) :
    names (set fs name value) =
      if name ∈ names fs then names fs else names fs ++ [name] := by
  induction fs with
  | nil => simp [set, names]
  | cons f rest ih =>
    obtain ⟨k, v⟩ := f
    by_cases h : k = name
    · simp [set, names, h]
    · have hn : ¬ name = k := fun e => h e.symm
      by_cases hm : name ∈ rest.map (·.1)
      · simp_all [set, names]
      · simp_all [set, names]

theorem mem_of_get? {fs : List (String × α)} {name : String} {v : α}
    (h : Fields.get? fs name = some v) : (name, v) ∈ fs := by
  induction fs with
  | nil => cases h
  | cons entry rest ih =>
    obtain ⟨k, w⟩ := entry
    by_cases hk : k = name
    · simp only [Fields.get?, hk, if_true, Option.some.injEq] at h
      simp [hk, h]
    · simp only [Fields.get?, hk, if_false] at h
      exact List.mem_cons_of_mem _ (ih h)

/-- A name is there exactly if it has a value. -/
theorem mem_names_iff {fs : List (String × α)} {name : String} :
    name ∈ names fs ↔ ∃ v, get? fs name = some v := by
  induction fs with
  | nil => simp [names, get?]
  | cons f rest ih =>
    obtain ⟨k, v⟩ := f
    by_cases hk : k = name
    · simp [names, get?, hk]
    · have hne : ¬ name = k := fun e => hk e.symm
      simp only [names, List.map_cons, List.mem_cons, hne, false_or, get?, hk, if_false]
      exact ih

theorem set_ne_nil (fs : List (String × α)) (name : String) (value : α) :
    set fs name value ≠ [] := by
  cases fs with
  | nil => simp [set]
  | cons f rest => by_cases h : f.1 = name <;> simp [set, h]

theorem mem_of_mem_set {fs : List (String × α)} {name : String} {value : α}
    {entry : String × α} (h : entry ∈ set fs name value) :
    entry = (name, value) ∨ entry ∈ fs := by
  induction fs with
  | nil => simpa [set] using h
  | cons f rest ih =>
    obtain ⟨k, v⟩ := f
    by_cases hk : k = name <;> simp only [set, hk, if_true, if_false, List.mem_cons] at h ⊢
    · exact h.imp_right Or.inr
    · rcases h with rfl | h
      · exact Or.inr (Or.inl rfl)
      · exact (ih h).imp_right Or.inr

theorem nodup_names_set {fs : List (String × α)} (h : (names fs).Nodup) (name : String)
    (value : α) : (names (set fs name value)).Nodup := by
  rw [names_set]
  by_cases hmem : name ∈ names fs <;> simp only [hmem, if_true, if_false]
  · exact h
  · rw [List.nodup_append]
    refine ⟨h, by simp, fun a ha b hb hab => hmem ?_⟩
    rwa [hab, List.mem_singleton.mp hb] at ha

/-- What is kept when a field of the second list is set, is kept when all of them are. -/
theorem merge_keeps {P : List (String × α) → Prop} {fs gs : List (String × α)}
    (hset : ∀ name value, (name, value) ∈ gs → ∀ made, P made → P (set made name value))
    (h : P fs) : P (merge fs gs) :=
  List.foldlRecOn gs _ h fun made hmade entry hentry =>
    hset entry.1 entry.2 hentry made hmade

end Fields

/-- A row names its values. -/
abbrev Row := Fields

/-- The value of a field, null where the row has none. -/
def Row.value (row : Row) (name : String) : Value := (Fields.get? row name).getD .null

namespace Value

def isNull : Value → Bool
  | .null => true
  | _ => false

def isContainer : Value → Bool
  | .list _ | .obj _ => true
  | _ => false

/-- Null, false, zero and everything empty count as no. -/
def isTruthy : Value → Bool
  | .null => false
  | .bool b => b
  | .int n => n != 0
  | .float x => !x.isZero
  | .str s => s != ""
  | .list items => !items.isEmpty
  | .obj fields => !fields.isEmpty

/-- The name of a value's type, as messages give it. -/
def typeName : Value → String
  | .null => "NoneType"
  | .bool _ => "bool"
  | .int _ => "int"
  | .float _ => "float"
  | .str _ => "str"
  | .list _ => "list"
  | .obj _ => "dict"

def ofOption (s : Option String) : Value := (s.map .str).getD .null

end Value

/-- So many positions cannot even be counted. -/
def countLimit : Nat := Nat.pow 2 63

/-- How many positions an array can have, which depends on where the program runs. -/
structure Room where
  positions : Nat
  countable : positions < countLimit

/-- Room for whatever can be counted. -/
def Room.ample : Room := ⟨countLimit - 1, by decide⟩

end RowIngest
