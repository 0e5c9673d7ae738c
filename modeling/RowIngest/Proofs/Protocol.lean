import RowIngest.Proofs.Ending
import RowIngest.Proofs.Opening
import RowIngest.Proofs.Stepping
/-!
What a load says to its store, as a language of requests. First the collection is dropped, if
that is wanted, and made sure of; then there are writes, each attempted until it is accepted;
then there are requests for indexes; and then the store is closed. A request that raises ends
all this but for the closing. Wherever a part is left out there is a reason for it: the load is
cancelled, there are no rows, a row does not pass, or a request has failed.
-/
namespace RowIngest

variable {σ : Type}

namespace Event

def isClose : Event → Bool
  | .commanded .close _ => true
  | _ => false

/-- A request that raises and is not made again. -/
def raises : Event → Bool
  | .wrote _ (.error f) => !f.isRetryable
  | .indexed _ (.error _) | .commanded _ (.error _) => true
  | _ => false

/-- The row that is pulled, if this pulls one. -/
def row? : Event → Option Value
  | .pulled row => row
  | _ => none

theorem isCall_of_isIndexing {e : Event} (he : e.isIndexing = true) : e.isCall = true := by
  cases e <;> simp_all [isIndexing, isCall]

/-- To close the store is to ask something of it. -/
theorem isClose_of_not_isCall {e : Event} (he : e.isCall = false) : e.isClose = false := by
  cases e <;> simp_all [isCall, isClose]

theorem isClose_of_isIndexing {e : Event} (he : e.isIndexing = true) : e.isClose = false := by
  rcases e with _ | _ | ⟨_ | _ | _ | _, _⟩ | _ | _ | _ | _ | _ | _ | _ | _ <;>
    simp_all [isIndexing, isClose]

end Event

/-- Nothing raises. -/
def Smooth (es : List Event) : Prop := ∀ e ∈ es, e.raises = false

/-- Nothing raises, unless it is the last. -/
def Falters (es : List Event) : Prop := ∀ e ∈ es.dropLast, e.raises = false

theorem Smooth.append {es es' : List Event} (h : Smooth es) (h' : Smooth es') :
    Smooth (es ++ es') := by
  intro e he
  rcases List.mem_append.mp he with he | he
  · exact h e he
  · exact h' e he

theorem Smooth.falters {es : List Event} (h : Smooth es) : Falters es :=
  fun e he => h e (List.dropLast_subset es he)

theorem Smooth.append_falters {es es' : List Event} (h : Smooth es) (h' : Falters es') :
    Falters (es ++ es') := by
  rcases List.eq_nil_or_concat es' with rfl | ⟨init, last, rfl⟩
  · simpa using h.falters
  · intro e he
    rw [List.concat_eq_append, ← List.append_assoc, List.dropLast_concat] at he
    rcases List.mem_append.mp he with he | he
    · exact h e he
    · exact h' e (by simpa using he)

theorem smooth_singleton {e : Event} (he : e.raises = false) : Smooth [e] := by
  simpa [Smooth] using he

theorem falters_singleton (e : Event) : Falters [e] := by simp [Falters]

namespace Retry.Series

variable {p : Policy} {w : Write} {made : Nat} {es : List Event}

theorem not_raises_of_verdict {r : Except Fault Outcome} {f : Fault}
    (h : verdict w r = .ok (.error f)) : (Event.wrote w r).raises = false := by
  cases r with
  | ok o => rfl
  | error g =>
    cases hg : g.isRetryable with
    | true => simp [Event.raises, hg]
    | false => simp [verdict, hg] at h

/-- A series is about one write, and pauses are no requests. -/
theorem calls_subset {r : Except Fault (Option Outcome)} (h : Series p w made es r) :
    ∀ e ∈ es, e.isIndexing = false ∧ e.isClose = false := by
  induction h with
  | again hr hrest ih =>
    intro e he
    rcases List.mem_cons.mp he with rfl | he
    · exact ⟨rfl, rfl⟩
    · rcases List.mem_cons.mp he with rfl | he
      · exact ⟨rfl, rfl⟩
      · exact ih e he
  | _ =>
    intro e he
    simp only [List.mem_cons, List.not_mem_nil, or_false] at he
    rcases he with rfl | rfl <;> exact ⟨rfl, rfl⟩

theorem smooth_of_ok {o : Outcome} (h : Series p w made es (.ok (some o))) :
    Smooth (es.filter (·.isCall)) := by
  generalize hr : (.ok (some o) : Except Fault (Option Outcome)) = r at h
  induction h with
  | accepted ho => simp [Smooth, Event.isCall, Event.raises]
  | again hr' hrest ih =>
    intro e he
    simp only [Event.isCall, List.filter_cons, if_true, Bool.false_eq_true, if_false,
      List.mem_cons] at he
    rcases he with rfl | he
    · exact not_raises_of_verdict hr'
    · exact ih hr e he
  | _ => cases hr

theorem falters {r : Except Fault (Option Outcome)} (h : Series p w made es r) :
    Falters (es.filter (·.isCall)) := by
  induction h with
  | again hr hrest ih => exact (smooth_singleton (not_raises_of_verdict hr)).append_falters ih
  | _ => exact falters_singleton _

end Retry.Series

theorem IndexChange.raises_request (spec : IndexChange) (name : String) :
    (spec.request (.ok name)).raises = false := by
  cases hdrop : spec.drop <;> simp [request, hdrop, Event.raises, Except.map]

namespace Indexing.Applies

variable {truncated : Bool} {specs : List IndexChange} {es : List Event}

theorem falters {r : Except Fault Unit} (h : Applies truncated specs es r) : Falters es := by
  cases h with
  | refused _ _ => simp [Falters]
  | requested hrequests =>
    induction hrequests with
    | done => simp [Falters]
    | spared _ _ ih => exact ih
    | @answered spec _ _ _ name _ _ ih =>
      exact (smooth_singleton (spec.raises_request name)).append_falters ih
    | failed _ => exact falters_singleton _

theorem filter_isCall {r : Except Fault Unit} (h : Applies truncated specs es r) :
    es.filter (·.isCall) = es := by
  rw [List.filter_eq_self]
  exact fun e he => Event.isCall_of_isIndexing (h.isIndexing e he)

end Indexing.Applies

/-- The requests that open a collection; it is open once it is made sure of. -/
inductive Opening (c : LoadConfig) : Bool → List Event → Prop
  | undropped {f : Fault} (htruncate : c.truncate = true) :
      Opening c false [.commanded .drop (.error f)]
  | unensured {f : Fault} :
      Opening c false (c.dropping ++ [Event.commanded .ensureCollection (.error f)])
  | opened : Opening c true (c.dropping ++ [Event.commanded .ensureCollection (.ok ())])

/-- The requests for writes, each of the kind that is configured and attempted until it is
accepted; only the last one may fail. -/
inductive Writing (c : LoadConfig) : Bool → List Event → Prop
  | none : Writing c true []
  | accepted {es attempts : List Event} {w : Write} {o : Outcome} (hbefore : Writing c true es)
      (hkind : w.isInsert = !c.upsert)
      (hseries : Retry.Series c.policy w 0 attempts (.ok (some o))) :
      Writing c true (es ++ attempts.filter (·.isCall))
  | failed {es attempts : List Event} {w : Write} {f : Fault} (hbefore : Writing c true es)
      (hkind : w.isInsert = !c.upsert)
      (hseries : Retry.Series c.policy w 0 attempts (.error f)) :
      Writing c false (es ++ attempts.filter (·.isCall))

/-- Nothing can be written for a row: it cannot be mapped, or its change would have to replace
every document that is found. -/
inductive LoadConfig.Unwritable (c : LoadConfig) (room : Room) (row : Value) : Prop
  | unmapped {f : Fault} (hrow : c.delivery room row = .error f)
  | unfit {query document : Value} {problem : ConfigProblem}
      (hrow : c.delivery room row = .ok (some (.change query document)))
      (hw : Upsert.choose query document c.multi = .error problem)

/-- How a load ends whose collection is open: whether its writes were all accepted, and its
requests for indexes. `x` is how it found its surroundings when it was called for the last time. -/
inductive Concludes (p : Loader σ) (rows : List Value) (x : σ) (acts : List Event) :
    Bool → List Event → Prop
  /-- The wish to cancel is noticed before the next row is pulled. -/
  | stopped (hasked : (p.surroundings.cancelled x).1 = true) : Concludes p rows x acts true []
  /-- Nothing can be written for the row that was pulled last. -/
  | unwritable {row : Value} (hlast : (acts.filterMap (·.row?)).getLast? = some row)
      (hrow : p.config.Unwritable p.surroundings.room row) : Concludes p rows x acts true []
  /-- The last write fails. -/
  | unwritten : Concludes p rows x acts false []
  /-- All rows have been pulled, and what still waited then is written. -/
  | ended {before flush indexes : List Event} {r : Except Fault Unit}
      (hacts : acts = before ++ .pulled none :: (flush ++ indexes))
      (hall : before.filterMap (·.row?) = offered rows)
      (hbefore : ∀ e ∈ before ++ flush, e.isIndexing = false)
      (happlies : Indexing.Applies p.config.truncate p.config.indexes indexes r) :
      Concludes p rows x acts true indexes

/-- What a load does before its store is closed, by the way in which it ends. Its collection is
opened for the first row, once that has passed every check, and not otherwise. -/
inductive Converses (p : Loader σ) (rows : List Value) (x : σ) : List Event → Prop
  /-- The wish to cancel is noticed before the first row is pulled. -/
  | stopped (hasked : (p.surroundings.cancelled x).1 = true) : Converses p rows x []
  | rowless {indexes : List Event} {r : Except Fault Unit} (hrows : offered rows = [])
      (happlies : Indexing.Applies false p.config.indexes indexes r) :
      Converses p rows x (.pulled none :: indexes)
  | refused {row : Value} {f : Fault} (hfirst : (offered rows).head? = some row)
      (hrow : p.inspect row = .error f) : Converses p rows x [.pulled (some row)]
  | unopened {row : Value} {opening : List Event} (hfirst : (offered rows).head? = some row)
      (hrow : p.inspect row = .ok ()) (hopening : Opening p.config false opening) :
      Converses p rows x (.pulled (some row) :: opening)
  | opened {row : Value} {opening writes indexes later : List Event} {accepted : Bool}
      (hfirst : (offered rows).head? = some row) (hrow : p.inspect row = .ok ())
      (hopening : Opening p.config true opening) (hwriting : Writing p.config accepted writes)
      (hcalls : later.filter (·.isCall) = writes ++ indexes)
      (hconcludes :
        Concludes p rows x (.pulled (some row) :: (opening ++ later)) accepted indexes) :
      Converses p rows x (.pulled (some row) :: (opening ++ later))

section

variable {c : LoadConfig} {opened accepted : Bool} {es : List Event}

theorem LoadConfig.smooth_dropping (c : LoadConfig) : Smooth c.dropping := by
  unfold LoadConfig.dropping
  split <;> simp [Smooth, Event.raises]

theorem LoadConfig.mem_dropping {e : Event} (he : e ∈ c.dropping) :
    e = .commanded .drop (.ok ()) := by
  unfold LoadConfig.dropping at he
  split at he
  · exact List.mem_singleton.mp he
  · cases he

theorem Opening.falters (h : Opening c opened es) : Falters es := by
  cases h with
  | undropped _ => exact falters_singleton _
  | unensured => exact c.smooth_dropping.append_falters (falters_singleton _)
  | opened => exact c.smooth_dropping.append_falters (falters_singleton _)

theorem Opening.smooth (h : Opening c true es) : Smooth es := by
  cases h with
  | opened => exact c.smooth_dropping.append (by simp [Smooth, Event.raises])

/-- To open a collection is to drop it or to make sure of it. -/
theorem Opening.cases_of_mem (h : Opening c opened es) {e : Event} (he : e ∈ es) :
    ∃ r, e = .commanded .drop r ∨ e = .commanded .ensureCollection r := by
  have hmade : ∀ {r : Except Fault Unit}, e ∈ c.dropping ++
      [Event.commanded .ensureCollection r] →
      ∃ r, e = .commanded .drop r ∨ e = .commanded .ensureCollection r := by
    intro r he
    rcases List.mem_append.mp he with he | he
    · exact ⟨_, Or.inl (LoadConfig.mem_dropping he)⟩
    · exact ⟨_, Or.inr (List.mem_singleton.mp he)⟩
  cases h with
  | undropped _ => exact ⟨_, Or.inl (List.mem_singleton.mp he)⟩
  | unensured => exact hmade he
  | opened => exact hmade he

theorem Opening.not_isClose (h : Opening c opened es) : ∀ e ∈ es, e.isClose = false := by
  intro e he
  obtain ⟨r, rfl | rfl⟩ := h.cases_of_mem he <;> rfl

theorem Opening.not_isIndexing (h : Opening c opened es) : ∀ e ∈ es, e.isIndexing = false := by
  intro e he
  obtain ⟨r, rfl | rfl⟩ := h.cases_of_mem he <;> rfl

theorem Opening.filter_isCall (h : Opening c opened es) : es.filter (·.isCall) = es := by
  rw [List.filter_eq_self]
  intro e he
  obtain ⟨r, rfl | rfl⟩ := h.cases_of_mem he <;> rfl

theorem Writing.smooth (h : Writing c true es) : Smooth es := by
  generalize ha : true = accepted at h
  induction h with
  | none => simp [Smooth]
  | accepted hbefore hkind hseries ih => exact (ih rfl).append hseries.smooth_of_ok
  | failed hbefore hkind hseries ih => cases ha

theorem Writing.falters (h : Writing c accepted es) : Falters es := by
  cases h with
  | none => simp [Falters]
  | accepted hbefore hkind hseries => exact hbefore.smooth.append_falters hseries.falters
  | failed hbefore hkind hseries => exact hbefore.smooth.append_falters hseries.falters

theorem Writing.not_isClose (h : Writing c accepted es) : ∀ e ∈ es, e.isClose = false := by
  induction h with
  | none => simp
  | accepted hbefore hkind hseries ih =>
    intro e he
    rcases List.mem_append.mp he with he | he
    · exact ih e he
    · exact (hseries.calls_subset e (List.mem_filter.mp he).1).2
  | failed hbefore hkind hseries ih =>
    intro e he
    rcases List.mem_append.mp he with he | he
    · exact ih e he
    · exact (hseries.calls_subset e (List.mem_filter.mp he).1).2

end

namespace Concludes

variable {p : Loader σ} {rows : List Value} {x : σ} {acts indexes : List Event} {accepted : Bool}

/-- Indexes are asked for only after writes that were all accepted. -/
theorem falters {writes : List Event} (h : Concludes p rows x acts accepted indexes)
    (hwriting : Writing p.config accepted writes) : Falters (writes ++ indexes) := by
  cases h with
  | stopped _ => simpa using hwriting.falters
  | unwritable _ _ => simpa using hwriting.falters
  | unwritten => simpa using hwriting.falters
  | ended _ _ _ happlies => exact hwriting.smooth.append_falters happlies.falters

theorem not_isClose (h : Concludes p rows x acts accepted indexes) :
    ∀ e ∈ indexes, e.isClose = false := by
  cases h with
  | ended _ _ _ happlies =>
    exact fun e he => Event.isClose_of_isIndexing (happlies.isIndexing e he)
  | _ => simp

end Concludes

namespace Converses

variable {p : Loader σ} {rows : List Value} {x : σ} {acts : List Event}

/-- Before the store is closed nothing raises but the last request. -/
theorem falters (h : Converses p rows x acts) : Falters (acts.filter (·.isCall)) := by
  cases h with
  | stopped _ => simp [Falters]
  | refused _ _ => simp [Falters, Event.isCall]
  | @rowless indexes _ _ happlies =>
    change Falters (indexes.filter (·.isCall))
    rw [happlies.filter_isCall]
    exact happlies.falters
  | @unopened _ opening _ _ hopening =>
    change Falters (opening.filter (·.isCall))
    rw [hopening.filter_isCall]
    exact hopening.falters
  | @opened _ opening _ _ later _ _ _ hopening hwriting hcalls hconcludes =>
    change Falters ((opening ++ later).filter (·.isCall))
    rw [List.filter_append, hopening.filter_isCall, hcalls]
    exact hopening.smooth.append_falters (hconcludes.falters hwriting)

/-- The store is not closed before that. -/
theorem not_isClose (h : Converses p rows x acts) : ∀ e ∈ acts, e.isClose = false := by
  cases h with
  | stopped _ => simp
  | refused _ _ => simp [Event.isClose]
  | rowless _ happlies =>
    refine List.forall_mem_cons.mpr ⟨rfl, fun e he => ?_⟩
    exact Event.isClose_of_isIndexing (happlies.isIndexing e he)
  | unopened _ _ hopening => exact List.forall_mem_cons.mpr ⟨rfl, hopening.not_isClose⟩
  | @opened _ opening _ _ later _ _ _ hopening hwriting hcalls hconcludes =>
    have hmade : ∀ e ∈ later.filter (·.isCall), e.isClose = false := by
      rw [hcalls]
      exact List.forall_mem_append.mpr ⟨hwriting.not_isClose, hconcludes.not_isClose⟩
    refine List.forall_mem_cons.mpr ⟨rfl, List.forall_mem_append.mpr
      ⟨hopening.not_isClose, fun e he => ?_⟩⟩
    cases hcall : e.isCall with
    | true => exact hmade e (List.mem_filter.mpr ⟨he, hcall⟩)
    | false => exact Event.isClose_of_not_isCall hcall

/-- After a request that raised, the store is closed and nothing else is asked of it. -/
theorem only_close_after {r : Except Fault Unit} {before behind : List Event} {e : Event}
    (h : Converses p rows x acts)
    (hsplit : acts.filter (·.isCall) ++ [Event.commanded .close r] = before ++ e :: behind)
    (he : e.raises = true) : behind = [] ∨ behind = [.commanded .close r] := by
  rcases List.eq_nil_or_concat behind with rfl | ⟨init, last, rfl⟩
  · exact Or.inl rfl
  · right
    rw [List.concat_eq_append, ← List.cons_append, ← List.append_assoc] at hsplit
    obtain ⟨hcalls, hlast⟩ := List.append_inj' hsplit rfl
    rw [List.concat_eq_append, ← hlast]
    rcases List.eq_nil_or_concat init with rfl | ⟨init, last', rfl⟩
    · rfl
    · have hmem : e ∈ (acts.filter (·.isCall)).dropLast := by
        rw [hcalls, List.concat_eq_append, ← List.cons_append, ← List.append_assoc,
          List.dropLast_concat]
        simp
      rw [h.falters e hmem] at he
      cases he

end Converses

end RowIngest
