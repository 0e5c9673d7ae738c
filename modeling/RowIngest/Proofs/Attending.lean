import RowIngest.Proofs.Protocol
/-!
Serving the store. What a load does for a row, or at the end of the rows, are requests of its
store and pauses between them. None of this is anything to the source: no row is pulled, and
nothing is reported.
-/
namespace RowIngest

open RowIngest.Action

variable {σ : Type} {s : Surroundings σ} {p : Loader σ} {l l' l₁ : Load σ} {es : List Event}

namespace Event

/-- What is done for a row or for the end of the rows: the requests of the store but the closing,
and the pauses between them. -/
def isService : Event → Bool
  | .commanded .close _ => false
  | .wrote _ _ | .indexed _ _ | .commanded _ _ | .slept _ => true
  | _ => false

def isPull : Event → Bool
  | .pulled _ => true
  | _ => false

/-- The source is told that a row has been processed. -/
def isReport : Event → Bool
  | .processed => true
  | _ => false

/-- The source is told that its rows are all done. -/
def isCompletion : Event → Bool
  | .completed => true
  | _ => false

theorem isService_of_isIndexing {e : Event} (he : e.isIndexing = true) : e.isService = true := by
  rcases e with _ | _ | ⟨_ | _ | _ | _, _⟩ | _ | _ | _ | _ | _ | _ | _ | _ <;>
    simp_all [isIndexing, isService]

theorem isClose_of_isService {e : Event} (he : e.isService = true) : e.isClose = false := by
  rcases e with _ | _ | ⟨_ | _ | _ | _, _⟩ | _ | _ | _ | _ | _ | _ | _ | _ <;>
    simp_all [isClose, isService]

theorem not_source_of_isService {e : Event} (he : e.isService = true) :
    e.isPull = false ∧ e.row? = none ∧ e.isReport = false ∧ e.isCompletion = false := by
  cases e <;> simp_all [isService, isPull, row?, isReport, isCompletion]

end Event

/-- The store is served, and nothing else is done. -/
def Serves (es : List Event) : Prop := ∀ e ∈ es, e.isService = true

theorem Serves.nil : Serves [] := by simp [Serves]

theorem Serves.append {es es' : List Event} (h : Serves es) (h' : Serves es') :
    Serves (es ++ es') :=
  List.forall_mem_append.mpr ⟨h, h'⟩

/-- To serve the store is nothing to the source. -/
theorem Serves.not_source (h : Serves es) : es.countP (·.isPull) = 0 ∧
    es.filterMap (·.row?) = [] ∧ es.countP (·.isReport) = 0 ∧ es.countP (·.isCompletion) = 0 := by
  have hnone := fun e he => Event.not_source_of_isService (h e he)
  refine ⟨?_, ?_, ?_, ?_⟩
  · exact List.countP_eq_zero.mpr fun e he => by simp [(hnone e he).1]
  · exact List.filterMap_eq_nil_iff.mpr fun e he => (hnone e he).2.1
  · exact List.countP_eq_zero.mpr fun e he => by simp [(hnone e he).2.2.1]
  · exact List.countP_eq_zero.mpr fun e he => by simp [(hnone e he).2.2.2]

theorem Retry.Series.serves {policy : Policy} {w : Write} {made : Nat}
    {r : Except Fault (Option Outcome)} (h : Series policy w made es r) : Serves es := by
  induction h with
  | again _ _ ih =>
    intro e he
    rcases List.mem_cons.mp he with rfl | he
    · rfl
    · rcases List.mem_cons.mp he with rfl | he
      · rfl
      · exact ih e he
  | _ => simp [Serves, Event.isService]

theorem Indexing.Applies.serves {truncated : Bool} {specs : List IndexChange}
    {r : Except Fault Unit} (h : Applies truncated specs es r) : Serves es :=
  fun e he => Event.isService_of_isIndexing (h.isIndexing e he)

theorem Opening.serves {c : LoadConfig} {opened : Bool} (h : Opening c opened es) :
    Serves es := by
  intro e he
  obtain ⟨r, rfl | rfl⟩ := h.cases_of_mem he <;> rfl

/-- From a load to another one by such acts, which take no row. -/
structure Load.Attends (l : Load σ) (es : List Event) (l' : Load σ) : Prop where
  acts_eq : l'.acts = l.acts ++ es
  rows_eq : l'.rows = l.rows
  serves : Serves es

theorem Load.Passes.attends (h : l₁.Passes s es l') (hes : Serves es) (hacts : l₁.acts = l.acts)
    (hrows : l₁.rows = l.rows) : l.Attends es l' where
  acts_eq := by rw [h.acts_eq, hacts]
  rows_eq := h.rows_eq.trans hrows
  serves := hes

theorem Load.Attends.refl (l : Load σ) : l.Attends [] l := ⟨by simp, rfl, .nil⟩

theorem Load.Attends.trans {es' : List Event} (h : l.Attends es l₁) (h' : l₁.Attends es' l') :
    l.Attends (es ++ es') l' where
  acts_eq := by rw [h'.acts_eq, h.acts_eq, List.append_assoc]
  rows_eq := h'.rows_eq.trans h.rows_eq
  serves := h.serves.append h'.serves

theorem Load.acts_credit (l : Load σ) (w : Write) : (l.credit w).acts = l.acts := by
  cases w <;> rfl

theorem Load.rows_credit (l : Load σ) (w : Write) : (l.credit w).rows = l.rows := by
  cases w <;> rfl

theorem Issues.attends {policy : Retry.Policy} {w : Write} {r : Except Fault Unit}
    (h : Issues s policy l w r l') : ∃ es, l.Attends es l' := by
  cases h with
  | accepted hseries hpass =>
    exact ⟨_, hpass.attends hseries.serves (l.acts_credit w) (l.rows_credit w)⟩
  | withheld _ hpass => exact ⟨[], hpass.attends .nil rfl rfl⟩
  | failed hseries hpass => exact ⟨_, hpass.attends hseries.serves rfl rfl⟩

theorem Handles.attends {row : Value} {r : Except Fault Unit}
    (h : Handles p row { l with rowsRead := l.rowsRead + 1 } r l') : ∃ es, l.Attends es l' := by
  cases h with
  | refused _ hpass => exact ⟨[], hpass.attends .nil rfl rfl⟩
  | skipped _ hpass => exact ⟨[], hpass.attends .nil rfl rfl⟩
  | kept _ _ hpass => exact ⟨[], hpass.attends .nil rfl rfl⟩
  | batched _ _ hissues =>
    obtain ⟨es, hacts, hrows, hes⟩ := hissues.attends
    exact ⟨es, hacts, hrows, hes⟩
  | changed _ _ hissues =>
    obtain ⟨es, hacts, hrows, hes⟩ := hissues.attends
    exact ⟨es, hacts, hrows, hes⟩
  | unfit _ _ hpass => exact ⟨[], hpass.attends .nil rfl rfl⟩

theorem Opens.attends {row : Value} {r : Except Fault Unit} (h : Opens p row l r l') :
    ∃ es, l.Attends es l' := by
  cases h with
  | already _ => exact ⟨[], .refl l⟩
  | prepares _ hprepares =>
    cases hprepares with
    | refused _ hpass => exact ⟨[], hpass.attends .nil rfl rfl⟩
    | undropped _ htruncate hpass =>
      exact ⟨_, hpass.attends (Opening.undropped htruncate).serves rfl rfl⟩
    | unensured _ hpass =>
      exact ⟨_, hpass.attends (Opening.unensured (c := p.config)).serves rfl rfl⟩
    | prepared _ hpass =>
      exact ⟨_, hpass.attends (Opening.opened (c := p.config)).serves rfl rfl⟩

theorem Drains.attends {r : Except Fault Unit} (h : Drains p l r l') :
    ∃ es, l.Attends es l' := by
  cases h with
  | empty _ => exact ⟨[], .refl l⟩
  | flushed _ hissues =>
    obtain ⟨es, hacts, hrows, hes⟩ := hissues.attends
    exact ⟨es, hacts, hrows, hes⟩

end RowIngest
