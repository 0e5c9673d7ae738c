import Mathlib.Data.List.Forall2
import RowIngest.Proofs.Ending
/-!
Changes of indexes, one after the other. The store is asked for every change that is due, in the
order of the list, until it refuses one, and it is asked for nothing else. Main statement: either
one of the changes cannot be made, and then the store is not asked at all; or the requests are
those for the changes that are due, up to the first that fails, and what comes of them is the names
that the store gave.
-/
namespace RowIngest

open RowIngest.Action

variable {σ : Type} {s : Surroundings σ} {l l' l'' : Load σ} {es es' : List Event}

namespace Surroundings

/-- A request other than a write, with the answer that the store gives to it as it stands. -/
inductive Responds (s : Surroundings σ) : σ → Event → σ → Prop
  | indexed (q : IndexRequest) (x : σ) :
      Responds s x (.indexed q (s.createIndex q x).result) (s.createIndex q x).state
  | commanded (c : Command) (x : σ) :
      Responds s x (.commanded c (s.command c x).result) (s.command c x).state

/-- Requests one after the other, each with the answer that the store then gives. -/
inductive Dialogue (s : Surroundings σ) : σ → List Event → σ → Prop
  | silent (x : σ) : Dialogue s x [] x
  | spoken {x y z : σ} {e : Event} {es : List Event} (hfirst : s.Responds x e y)
      (hrest : Dialogue s y es z) : Dialogue s x (e :: es) z

theorem Responds.dialogue {x y : σ} {e : Event} (h : s.Responds x e y) : s.Dialogue x [e] y :=
  .spoken h (.silent y)

theorem Dialogue.trans {x y z : σ} (h : s.Dialogue x es y) (h' : s.Dialogue y es' z) :
    s.Dialogue x (es ++ es') z := by
  induction h with
  | silent _ => exact h'
  | spoken hfirst _ ih => exact .spoken hfirst (ih h')

end Surroundings

/-- From a load to another one by these requests of the store, and their answers. -/
structure Load.Asks (s : Surroundings σ) (l : Load σ) (es : List Event) (l' : Load σ) : Prop where
  calls : l'.calls = l.calls ++ es
  dialogue : s.Dialogue l.surroundings es l'.surroundings

namespace Load.Asks

theorem refl (s : Surroundings σ) (l : Load σ) : l.Asks s [] l :=
  ⟨(List.append_nil _).symm, .silent _⟩

theorem trans (h : l.Asks s es l') (h' : l'.Asks s es' l'') : l.Asks s (es ++ es') l'' :=
  ⟨by rw [h'.calls, h.calls, List.append_assoc], h.dialogue.trans h'.dialogue⟩

/-- What is said in the log is no request. -/
theorem remark (s : Surroundings σ) (l : Load σ) (r : Log.Record) :
    l.Asks s [] (l.record (.logged r)) where
  calls := by simp [Load.calls, Event.isCall]
  dialogue := .silent _

theorem of_receive {α : Type} {ask : σ → Reply σ α} {event : Except Fault α → Event}
    {r : Except Fault α} (hact : ∀ r, (event r).isAct = true) (hcall : ∀ r, (event r).isCall = true)
    (hresponds : ∀ x, s.Responds x (event (ask x).result) (ask x).state)
    (hmoves : ∀ x, s.Moves x (ask x).state) (h : exec (receive ask event) l = (r, l')) :
    l.Asks s [event r] l' := by
  obtain ⟨rfl, hpass⟩ := receive_passes hact hmoves h
  have hstate : l'.surroundings = (ask l.surroundings).state := by
    rw [← surroundings_receive ask event l, h]
  refine ⟨by simpa [hcall] using hpass.calls_eq, ?_⟩
  rw [hstate]
  exact (hresponds l.surroundings).dialogue

theorem createIndex {q : IndexRequest} {r : Except Fault String}
    (h : exec (Action.createIndex s q) l = (r, l')) : l.Asks s [.indexed q r] l' :=
  of_receive (fun _ => rfl) (fun _ => rfl) (.indexed q) (.createIndex q) h

theorem command {c : Command} {r : Except Fault Unit}
    (h : exec (Action.command s c) l = (r, l')) : l.Asks s [.commanded c r] l' :=
  of_receive (fun _ => rfl) (fun _ => rfl) (.commanded c) (.command c) h

end Load.Asks

/-- The name that the store gave to an index, if this was the making of one. -/
def Event.madeIndex? : Event → Option String
  | .indexed _ (.ok name) => some name
  | _ => none

/-- The store was asked for this change and has made it. -/
def IndexChange.MadeBy (spec : IndexChange) (e : Event) : Prop :=
  ∃ name, e = spec.request (.ok name)

namespace Indexing

/-- The changes to ask for. Nothing is dropped from a collection that was dropped itself. -/
def due (truncated : Bool) (specs : List IndexChange) : List IndexChange :=
  specs.filter fun spec => !(spec.drop && truncated)

theorem due_cons_spared {truncated : Bool} {spec : IndexChange} {specs : List IndexChange}
    (hspec : (spec.drop && truncated) = true) :
    due truncated (spec :: specs) = due truncated specs :=
  List.filter_cons_of_neg (by rw [hspec]; exact Bool.false_ne_true)

theorem due_cons_asked {truncated : Bool} {spec : IndexChange} {specs : List IndexChange}
    (hspec : (spec.drop && truncated) = false) :
    due truncated (spec :: specs) = spec :: due truncated specs :=
  List.filter_cons_of_pos (by rw [hspec]; rfl)

/-- What comes of changes when these names have been given before. -/
inductive Comes (specs : List IndexChange) (made : List String) :
    List Event → Except Fault (List String) → Prop
  | done {es : List Event} (hes : List.Forall₂ IndexChange.MadeBy specs es) :
      Comes specs made es (.ok (made ++ es.filterMap (·.madeIndex?)))
  | failed {before after : List IndexChange} {spec : IndexChange} {es : List Event} {f : Fault}
      (hspecs : specs = before ++ spec :: after)
      (hes : List.Forall₂ IndexChange.MadeBy before es) :
      Comes specs made (es ++ [spec.request (.error f)]) (.error f)

variable {truncated : Bool} {made : List String} {spec : IndexChange} {specs : List IndexChange}
  {r : Except Fault (List String)}

theorem Comes.cons {e : Event} (he : spec.MadeBy e)
    (h : Comes specs (made ++ e.madeIndex?.toList) es r) :
    Comes (spec :: specs) made (e :: es) r := by
  cases h with
  | done hes =>
    have hnames : made ++ (e :: es).filterMap (·.madeIndex?) =
        made ++ e.madeIndex?.toList ++ es.filterMap (·.madeIndex?) := by
      cases hname : e.madeIndex? <;> simp [hname]
    rw [← hnames]
    exact .done (.cons he hes)
  | @failed before after other es f hspecs hes =>
    have hsplit : spec :: specs = (spec :: before) ++ other :: after :=
      congrArg (spec :: ·) hspecs
    exact .failed hsplit (.cons he hes)

/-- One change: it is passed over, or the store makes it, or the store refuses it. -/
inductive AppliesOne (s : Surroundings σ) (truncated : Bool) (made : List String)
    (spec : IndexChange) (l : Load σ) : Except Fault (List String) → Load σ → Prop
  | spared {l' : Load σ} (hspec : (spec.drop && truncated) = true) (hasks : l.Asks s [] l') :
      AppliesOne s truncated made spec l (.ok made) l'
  | made {l' : Load σ} {e : Event} (hspec : (spec.drop && truncated) = false) (he : spec.MadeBy e)
      (hasks : l.Asks s [e] l') :
      AppliesOne s truncated made spec l (.ok (made ++ e.madeIndex?.toList)) l'
  | refused {l' : Load σ} {f : Fault} (hspec : (spec.drop && truncated) = false)
      (hasks : l.Asks s [spec.request (.error f)] l') :
      AppliesOne s truncated made spec l (.error f) l'

theorem applyOne_appliesOne (h : exec (applyOne s truncated made spec) l = (r, l')) :
    AppliesOne s truncated made spec l r l' := by
  cases hdrop : spec.drop with
  | true =>
    cases truncated with
    | true =>
      simp only [applyOne, hdrop, if_true, exec_bind, exec_log, exec_pure, Prod.mk.injEq] at h
      obtain ⟨rfl, rfl⟩ := h
      exact .spared (by simp [hdrop]) (.remark s l _)
    | false =>
      have hsaid := Load.Asks.remark s l ⟨.info, .indexes, "Dropping index",
        [("keys", spec.keys.value)]⟩
      rcases hcommand : exec (Action.command s (.dropIndex spec.keys)) (l.record
        (.logged ⟨.info, .indexes, "Dropping index", [("keys", spec.keys.value)]⟩)) with ⟨r₁, l₁⟩
      have hasks := hsaid.trans (.command hcommand)
      simp only [applyOne, hdrop, Bool.false_eq_true, if_true, if_false, exec_bind, exec_log,
        hcommand] at h
      have hspec : (spec.drop && false) = false := Bool.and_false _
      rcases r₁ with f | u <;> obtain ⟨rfl, rfl⟩ := Prod.mk.inj h
      · exact .refused hspec (by simpa [IndexChange.request, hdrop, Except.map] using hasks)
      · have hmade : spec.MadeBy (.commanded (.dropIndex spec.keys) (.ok u)) :=
          ⟨"", by simp [IndexChange.request, hdrop, Except.map]⟩
        have happlies : AppliesOne s false made spec l (.ok (made ++ [])) l₁ :=
          .made hspec hmade hasks
        rwa [List.append_nil] at happlies
  | false =>
    have hsaid := Load.Asks.remark s l ⟨.info, .indexes, "Creating index",
      [("keys", spec.keys.value), ("unique", .bool spec.unique), ("sparse", .bool spec.sparse)]⟩
    rcases hcreate : exec (Action.createIndex s ⟨spec.keys, spec.unique, spec.sparse, true⟩)
      (l.record (.logged ⟨.info, .indexes, "Creating index", [("keys", spec.keys.value),
        ("unique", .bool spec.unique), ("sparse", .bool spec.sparse)]⟩)) with ⟨r₁, l₁⟩
    have hasks := hsaid.trans (.createIndex hcreate)
    simp only [applyOne, hdrop, Bool.false_eq_true, if_false, exec_bind, exec_log, hcreate] at h
    have hspec : (spec.drop && truncated) = false := by simp [hdrop]
    rcases r₁ with f | name <;> obtain ⟨rfl, rfl⟩ := Prod.mk.inj h
    · exact .refused hspec (by simpa [IndexChange.request, hdrop] using hasks)
    · have hmade : spec.MadeBy (.indexed ⟨spec.keys, spec.unique, spec.sparse, true⟩ (.ok name)) :=
        ⟨name, by simp [IndexChange.request, hdrop]⟩
      exact .made hspec hmade hasks

/-- Changes that can all be made are asked for as far as they are due. -/
theorem foldlM_comes (h : exec (specs.foldlM (applyOne s truncated) made) l = (r, l')) :
    ∃ es, Comes (due truncated specs) made es r ∧ l.Asks s es l' := by
  -- The names that were given before differ from step to step.
  induction specs generalizing made l with
  | nil =>
    obtain ⟨rfl, rfl⟩ := Prod.mk.inj h
    have hdone : Comes [] made [] (.ok (made ++ [])) := .done .nil
    rw [List.append_nil] at hdone
    exact ⟨[], hdone, .refl s l⟩
  | cons spec specs ih =>
    rcases hone : exec (applyOne s truncated made spec) l with ⟨r₁, l₁⟩
    rw [List.foldlM_cons, exec_bind, hone] at h
    cases applyOne_appliesOne hone with
    | spared hspec hasks =>
      obtain ⟨es, hcomes, hrest⟩ := ih h
      exact ⟨es, (due_cons_spared hspec).symm ▸ hcomes, hasks.trans hrest⟩
    | @made _ e hspec he hasks =>
      obtain ⟨es, hcomes, hrest⟩ := ih h
      exact ⟨e :: es, (due_cons_asked hspec).symm ▸ hcomes.cons he, hasks.trans hrest⟩
    | @refused _ f hspec hasks =>
      obtain ⟨rfl, rfl⟩ := Prod.mk.inj h
      have hdue : due truncated (spec :: specs) = [] ++ spec :: due truncated specs :=
        due_cons_asked hspec
      exact ⟨_, .failed hdue .nil, hasks⟩

theorem apply_eq_foldlM (hcover : ∀ spec ∈ specs, isCoverable spec = true) :
    apply s truncated specs = specs.foldlM (applyOne s truncated) [] := by
  have hfind : specs.find? (!isCoverable ·) = none := by simpa using hcover
  simp only [apply, hfind]

theorem isCoverable_iff :
    isCoverable spec = true ↔ (spec.sparse = true → spec.keys.length ≤ 1) := by
  simp only [isCoverable, Bool.not_eq_true', Bool.and_eq_false_imp, decide_eq_false_iff_not,
    Nat.not_lt]

theorem isCoverable_eq_false_iff :
    isCoverable spec = false ↔ spec.sparse = true ∧ 1 < spec.keys.length := by
  rw [← Bool.not_eq_true, isCoverable_iff, Classical.not_imp, Nat.not_le]

/-- The first change that cannot be made is refused before the store is asked for anything.
Otherwise the store is asked for the changes that are due, in their order and up to the first that
it refuses. If it refuses none, the names are those that it gave to the indexes it made. -/
theorem apply_asks_for_due (s : Surroundings σ) (truncated : Bool) (specs : List IndexChange)
    (l : Load σ) :
    (∃ before spec after, specs = before ++ spec :: after ∧
      (∀ other ∈ before, other.sparse = true → other.keys.length ≤ 1) ∧
      spec.sparse = true ∧ 1 < spec.keys.length ∧
      exec (apply s truncated specs) l = (.error (.config (.sparseKeys spec.keys)), l)) ∨
    (∀ spec ∈ specs, spec.sparse = true → spec.keys.length ≤ 1) ∧
    ∃ es, (exec (apply s truncated specs) l).2.calls = l.calls ++ es ∧
      s.Dialogue l.surroundings es (exec (apply s truncated specs) l).2.surroundings ∧
      (List.Forall₂ IndexChange.MadeBy (due truncated specs) es ∧
        (exec (apply s truncated specs) l).1 = .ok (es.filterMap (·.madeIndex?)) ∨
      ∃ before spec after earlier f, due truncated specs = before ++ spec :: after ∧
        List.Forall₂ IndexChange.MadeBy before earlier ∧
        es = earlier ++ [spec.request (.error f)] ∧
        (exec (apply s truncated specs) l).1 = .error f) := by
  rcases hfind : specs.find? (!isCoverable ·) with _ | spec
  · have hcover : ∀ spec ∈ specs, isCoverable spec = true := by simpa using hfind
    rcases hexec : exec (specs.foldlM (applyOne s truncated) []) l with ⟨r, l'⟩
    obtain ⟨es, hcomes, hasks⟩ := foldlM_comes hexec
    rw [apply_eq_foldlM hcover, hexec]
    refine Or.inr ⟨fun spec hspec => isCoverable_iff.mp (hcover spec hspec), es, hasks.calls,
      hasks.dialogue, ?_⟩
    cases hcomes with
    | done hes => exact Or.inl ⟨hes, rfl⟩
    | failed hspecs hes => exact Or.inr ⟨_, _, _, _, _, hspecs, hes, rfl, rfl⟩
  · obtain ⟨hbad, before, after, rfl, hbefore⟩ := List.find?_eq_some_iff_append.mp hfind
    obtain ⟨hsparse, hlong⟩ := isCoverable_eq_false_iff.mp (by simpa using hbad)
    refine Or.inl ⟨before, spec, after, rfl, fun other hother => ?_, hsparse, hlong, ?_⟩
    · exact isCoverable_iff.mp (by simpa using hbefore other hother)
    · simp only [apply, hfind, exec_throw]

end Indexing

end RowIngest
