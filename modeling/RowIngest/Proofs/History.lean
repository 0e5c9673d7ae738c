import RowIngest.Proofs.Execution
/-!
What the history of a load tells. Its acts are all events but those that merely say or mark
something. A passage leads from one load to another by acts alone: the surroundings move, the
history grows, and nothing else changes. Every action is described by the passages it is made
of, with the changes of the load in between.
-/
namespace RowIngest

variable {σ α : Type}

namespace Event

/-- What a load does, apart from what it says in the log and the scopes it enters. -/
def isAct : Event → Bool
  | .noted _ | .logged _ | .entered | .left => false
  | _ => true

/-- A request that is made of the store. -/
def isCall : Event → Bool
  | .wrote _ _ | .indexed _ _ | .commanded _ _ => true
  | _ => false

/-- A request for an index. -/
def isIndexing : Event → Bool
  | .indexed _ _ | .commanded (.dropIndex _) _ => true
  | _ => false

/-- The write that the store has accepted, if this was one. -/
def accepted? : Event → Option Write
  | .wrote w (.ok outcome) => if outcome.ok then some w else none
  | _ => none

/-- The write that is attempted, if this is an attempt at one. -/
def attempted? : Event → Option Write
  | .wrote w _ => some w
  | _ => none

/-- Nothing but a write is accepted. -/
@[simp] theorem accepted?_of_ne {e : Event} (he : ∀ w r, e ≠ .wrote w r) :
    e.accepted? = none := by
  cases e with
  | wrote w r => exact absurd rfl (he w r)
  | _ => rfl

theorem accepted?_of_not_isAct {e : Event} (he : e.isAct = false) : e.accepted? = none := by
  cases e <;> simp_all [isAct, accepted?]

theorem attempted?_of_not_isAct {e : Event} (he : e.isAct = false) : e.attempted? = none := by
  cases e <;> simp_all [isAct, attempted?]

theorem attempted?_of_isIndexing {e : Event} (he : e.isIndexing = true) :
    e.attempted? = none := by
  cases e <;> simp_all [isIndexing, attempted?]

theorem accepted?_of_attempted? {e : Event} (he : e.attempted? = none) : e.accepted? = none := by
  cases e <;> simp_all [attempted?, accepted?]

theorem isCall_of_not_isAct {e : Event} (he : e.isAct = false) : e.isCall = false := by
  cases e <;> simp_all [isAct, isCall]

end Event

namespace Load

def acts (l : Load σ) : List Event := l.history.toList.filter (·.isAct)

/-- The writes that the store has accepted, in order. -/
def accepted (l : Load σ) : List Write := l.history.toList.filterMap (·.accepted?)

/-- The writes that were attempted, each as often as it was. -/
def attempts (l : Load σ) : List Write := l.history.toList.filterMap (·.attempted?)

/-- The requests that were made of the store, in order, with their results. -/
def calls (l : Load σ) : List Event := l.history.toList.filter (·.isCall)

/-- What is seen in the acts alone is seen in the history. -/
theorem filterMap_history {β : Type} {f : Event → Option β}
    (hf : ∀ e, e.isAct = false → f e = none) (l : Load σ) :
    l.history.toList.filterMap f = l.acts.filterMap f := by
  rw [acts, List.filterMap_filter]
  congr 1
  funext e
  by_cases he : e.isAct
  · simp [he]
  · simp [he, hf e (by simpa using he)]

theorem accepted_eq (l : Load σ) : l.accepted = l.acts.filterMap (·.accepted?) :=
  filterMap_history (fun _ => Event.accepted?_of_not_isAct) l

theorem attempts_eq (l : Load σ) : l.attempts = l.acts.filterMap (·.attempted?) :=
  filterMap_history (fun _ => Event.attempted?_of_not_isAct) l

theorem calls_eq (l : Load σ) : l.calls = l.acts.filter (·.isCall) := by
  rw [calls, acts, List.filter_filter]
  congr 1
  funext e
  by_cases he : e.isAct
  · simp [he]
  · simp [he, Event.isCall_of_not_isAct (by simpa using he)]

@[simp] theorem acts_record (l : Load σ) (e : Event) :
    (l.record e).acts = l.acts ++ [e].filter (·.isAct) := by
  simp [acts]

/-- From a load to another one by these acts and nothing else. -/
inductive Passes (s : Surroundings σ) (l : Load σ) (es : List Event) : Load σ → Prop
  | intro (x : σ) (h : Array Event) (hmoved : s.Reaches l.surroundings x)
      (hacts : h.toList.filter (·.isAct) = l.acts ++ es) :
      Passes s l es { l with surroundings := x, history := h }

namespace Passes

variable {s : Surroundings σ} {l l' l'' : Load σ} {es es' : List Event}

theorem refl (s : Surroundings σ) (l : Load σ) : l.Passes s [] l :=
  .intro l.surroundings l.history (.refl s _) (by simp [acts])

theorem trans (h : l.Passes s es l') (h' : l'.Passes s es' l'') :
    l.Passes s (es ++ es') l'' := by
  obtain ⟨x, a, hx, ha⟩ := h
  obtain ⟨y, b, hy, hb⟩ := h'
  refine .intro y b (hx.trans hy) ?_
  rw [hb, ← List.append_assoc, ← ha]
  rfl

/-- A change of the load that has nothing to do with surroundings and history can as well be
made before a passage as after it. -/
theorem map (h : l.Passes s es l') {f : Load σ → Load σ}
    (hf : ∀ (l : Load σ) (x : σ) (h : Array Event),
      f { l with surroundings := x, history := h } =
        { f l with surroundings := x, history := h }) : (f l).Passes s es (f l') := by
  have hl : f l = { f l with surroundings := l.surroundings, history := l.history } :=
    hf l l.surroundings l.history
  have hsurroundings : (f l).surroundings = l.surroundings := (congrArg Load.surroundings hl :)
  have hhistory : (f l).history = l.history := (congrArg Load.history hl :)
  obtain ⟨x, a, hx, ha⟩ := h
  rw [hf l x a]
  refine .intro x a (by rwa [hsurroundings]) ?_
  rwa [acts, hhistory]

/-- What has nothing to do with surroundings and history stays as it was. -/
theorem frame {β : Type} {f : Load σ → β} (h : l.Passes s es l')
    (hf : ∀ (l : Load σ) (x : σ) (h : Array Event),
      f { l with surroundings := x, history := h } = f l) : f l' = f l := by
  obtain ⟨x, a, hx, ha⟩ := h
  exact hf l x a

theorem rows_eq (h : l.Passes s es l') : l'.rows = l.rows := h.frame fun _ _ _ => rfl

theorem phase_eq (h : l.Passes s es l') : l'.phase = l.phase := h.frame fun _ _ _ => rfl

theorem complete_eq (h : l.Passes s es l') : l'.complete = l.complete :=
  h.frame fun _ _ _ => rfl

theorem buffer_eq (h : l.Passes s es l') : l'.buffer = l.buffer := h.frame fun _ _ _ => rfl

theorem moved (h : l.Passes s es l') : s.Reaches l.surroundings l'.surroundings := by
  obtain ⟨x, a, hx, ha⟩ := h
  exact hx

theorem acts_eq (h : l.Passes s es l') : l'.acts = l.acts ++ es := by
  obtain ⟨x, a, hx, ha⟩ := h
  exact ha

theorem accepted_eq (h : l.Passes s es l') :
    l'.accepted = l.accepted ++ es.filterMap (·.accepted?) := by
  rw [Load.accepted_eq, Load.accepted_eq, h.acts_eq, List.filterMap_append]

theorem attempts_eq (h : l.Passes s es l') :
    l'.attempts = l.attempts ++ es.filterMap (·.attempted?) := by
  rw [Load.attempts_eq, Load.attempts_eq, h.acts_eq, List.filterMap_append]

theorem calls_eq (h : l.Passes s es l') : l'.calls = l.calls ++ es.filter (·.isCall) := by
  rw [Load.calls_eq, Load.calls_eq, h.acts_eq, List.filter_append]

end Passes

theorem passes_record (s : Surroundings σ) (l : Load σ) (e : Event) :
    l.Passes s ([e].filter (·.isAct)) (l.record e) :=
  .intro l.surroundings (l.history.push e) (.refl s _) (acts_record l e)

/-- What is only said or marked is no act. -/
theorem passes_remark (s : Surroundings σ) (l : Load σ) {e : Event} (he : e.isAct = false) :
    l.Passes s [] (l.record e) := by
  simpa [he] using passes_record s l e

/-- From a load to another one by words alone. -/
inductive Says (l : Load σ) : Load σ → Prop
  | intro (h : Array Event) (hacts : h.toList.filter (·.isAct) = l.acts) :
      Says l { l with history := h }

namespace Says

variable {l l' : Load σ}

theorem refl (l : Load σ) : l.Says l := .intro l.history rfl

theorem passes (s : Surroundings σ) (h : l.Says l') : l.Passes s [] l' := by
  obtain ⟨a, ha⟩ := h
  exact .intro l.surroundings a (.refl s _) (by rw [ha, List.append_nil])

theorem surroundings_eq (h : l.Says l') : l'.surroundings = l.surroundings := by
  obtain ⟨a, ha⟩ := h
  rfl

theorem buffer_eq (h : l.Says l') : l'.buffer = l.buffer := by
  obtain ⟨a, ha⟩ := h
  rfl

/-- The load may as well be emptied before the words as after them. -/
theorem emptied (h : l.Says l') : Says { l with buffer := [] } { l' with buffer := [] } := by
  obtain ⟨a, ha⟩ := h
  exact .intro a ha

end Says

theorem said_remark (l : Load σ) {e : Event} (he : e.isAct = false) : l.Says (l.record e) :=
  .intro (l.history.push e) (by simp [he, acts])

theorem passes_move (s : Surroundings σ) (l : Load σ) {x : σ}
    (hx : s.Moves l.surroundings x) : l.Passes s [] { l with surroundings := x } :=
  .intro x l.history hx.reaches (by simp [acts])

end Load

namespace Action

open Load

variable {s : Surroundings σ} {l l' : Load σ}

theorem filter_notes (notes : List Note) :
    (notes.map Event.noted).filter (·.isAct) = [] := by
  simp [List.filter_eq_nil_iff, Event.isAct]

variable {r : Except Fault α}

/-- A request is one act, which tells its result. -/
theorem receive_passes {ask : σ → Reply σ α} {event : Except Fault α → Event}
    (hact : ∀ r, (event r).isAct = true) (hmove : ∀ x, s.Moves x (ask x).state)
    (h : exec (receive ask event) l = (r, l')) :
    r = (ask l.surroundings).result ∧ l.Passes s [event r] l' := by
  simp only [receive, exec_bind, exec_get, exec_set, exec_liftM, Prod.mk.injEq] at h
  obtain ⟨rfl, rfl⟩ := h
  refine ⟨rfl, .intro _ _ (hmove _).reaches ?_⟩
  simp [filter_notes, hact, acts]

/-- After a request the surroundings are as its reply leaves them. -/
theorem surroundings_receive (ask : σ → Reply σ α) (event : Except Fault α → Event) (l : Load σ) :
    (exec (receive ask event) l).2.surroundings = (ask l.surroundings).state := by
  simp [receive, exec_bind]

theorem write_passes {w : Write} {r : Except Fault Outcome}
    (h : exec (Action.write s w) l = (r, l')) :
    r = (s.write w l.surroundings).result ∧ l.Passes s [.wrote w r] l' :=
  receive_passes (fun _ => rfl) (.write w) h

theorem createIndex_passes {q : IndexRequest} {r : Except Fault String}
    (h : exec (Action.createIndex s q) l = (r, l')) :
    r = (s.createIndex q l.surroundings).result ∧ l.Passes s [.indexed q r] l' :=
  receive_passes (fun _ => rfl) (.createIndex q) h

theorem command_passes {c : Command} {r : Except Fault Unit}
    (h : exec (Action.command s c) l = (r, l')) :
    r = (s.command c l.surroundings).result ∧ l.Passes s [.commanded c r] l' :=
  receive_passes (fun _ => rfl) (.command c) h

end Action

end RowIngest
