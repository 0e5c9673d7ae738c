import RowIngest.Proofs.Alongside
import RowIngest.Proofs.Attempts
/-!
Stores that hesitate. A hesitant store fails some attempts at a write before it accepts it, but not
too many of them in a row; apart from that it answers as a calm store does, which accepts every
write at once. Main statements: a write that is tried again is accepted by both, what a load does
differs by failed attempts only, each of them with a pause after it, and all else that is asked of
the stores keeps two loads alike.
-/
namespace RowIngest

open RowIngest.Action

namespace Event

/-- A request that is no write, or an exchange with the source of the rows. -/
def isDealing : Event → Bool
  | .indexed _ _ | .commanded _ _ | .pulled _ | .processed | .completed => true
  | _ => false

/-- An attempt that the store has not accepted. -/
def isFailure (e : Event) : Bool := e.attempted?.isSome && e.accepted?.isNone

/-- The length of the pause, if this was one. -/
def pause? : Event → Option Binary64
  | .slept delay => some delay
  | _ => none

theorem isAct_of_isDealing {e : Event} (h : e.isDealing = true) : e.isAct = true := by
  cases e <;> simp_all [isDealing, isAct]

theorem not_attempt_of_isDealing {e : Event} (h : e.isDealing = true) :
    e.accepted? = none ∧ e.isFailure = false ∧ e.pause? = none := by
  cases e <;> simp_all [isDealing, accepted?, isFailure, attempted?, pause?]

theorem accepted?_of_ok {o : Outcome} (w : Write) (ho : o.ok = true) :
    (Event.wrote w (.ok o)).accepted? = some w := by
  simp [accepted?, ho]

end Event

namespace Load

variable {σ : Type}

/-- Requests that are no writes, and exchanges with the source, in order. -/
def dealings (l : Load σ) : List Event := l.acts.filter (·.isDealing)

def failures (l : Load σ) : List Event := l.acts.filter (·.isFailure)

def pauses (l : Load σ) : List Binary64 := l.acts.filterMap (·.pause?)

end Load

namespace Retry

/-- The store says, in either of its two ways, that an attempt has failed. -/
def Fails : Except Fault Outcome → Prop
  | .ok outcome => outcome.ok = false
  | .error f => f.isRetryable = true

theorem verdict_of_fails {r : Except Fault Outcome} (w : Write) (h : Fails r) :
    ∃ f, verdict w r = .ok (.error f) := by
  cases r with
  | ok outcome =>
    have hok : outcome.ok = false := h
    simp [verdict, hok]
  | error f =>
    have hretryable : f.isRetryable = true := h
    simp [verdict, hretryable]

theorem isFailure_of_fails {r : Except Fault Outcome} (w : Write) (h : Fails r) :
    (Event.wrote w r).isFailure = true ∧ (Event.wrote w r).accepted? = none := by
  cases r with
  | ok outcome =>
    have hok : outcome.ok = false := h
    simp [Event.isFailure, Event.attempted?, Event.accepted?, hok]
  | error f => simp [Event.isFailure, Event.attempted?, Event.accepted?]

variable {σ : Type} {s : Surroundings σ} {p : Policy} {w : Write} {l : Load σ}

theorem pause_of_canTime {made : Nat} (context : Fields) (w : Write) (f : Fault)
    (hmade : (made : Int) ≤ p.retries) (htime : s.canTime p.delay = true) :
    ∃ l', exec (pause s p context w made f) l = (.ok (), l') ∧
      l.Passes s [.slept p.delay] l' ∧ l'.surroundings = s.sleep p.delay l.surroundings := by
  have hpause : exec (pause s p context w made f) l =
      (.ok (), (exec (pause s p context w made f) l).2) ∧
      (exec (pause s p context w made f) l).2.surroundings =
        s.sleep p.delay l.surroundings := by
    simp [pause, hmade, Action.sleep, htime, exec_bind, Load.record]
  obtain ⟨hresult, hstate⟩ := hpause
  rcases pause_passes hresult with ⟨-, -, hpass⟩ | ⟨-, ⟨m, hm⟩, -⟩ | ⟨hlate, -, -⟩
  · exact ⟨_, hresult, hpass, hstate⟩
  · cases hm
  · omega

/-- Nothing is left to be tried again if the first attempt is accepted. -/
theorem write_of_accepted {o : Outcome} (context : Fields) (hp : 0 ≤ p.retries)
    (hno : (s.cancelled l.surroundings).1 = false)
    (ho : (s.write w (s.cancelled l.surroundings).2).result = .ok o) (hok : o.ok = true) :
    ∃ l', exec (write s p context w) l = (.ok (some o), l') ∧
      l.Passes s [.wrote w (.ok o)] l' ∧
      l'.surroundings = (s.write w (s.cancelled l.surroundings).2).state := by
  obtain ⟨left, hleft⟩ : ∃ left, p.attempts = left + 1 :=
    ⟨p.retries.toNat, by unfold Policy.attempts; omega⟩
  rcases hattempt : exec (attempt s context w)
    { l with surroundings := (s.cancelled l.surroundings).2 } with ⟨verdict, l₁⟩
  obtain ⟨result, hresult, rfl, hwrote, hstate⟩ := attempt_passes hattempt
  obtain rfl : result = .ok o := hresult.trans ho
  refine ⟨l₁, ?_, ?_, hstate⟩
  · simp [write, hleft, attempts, exec_bind, hno, hattempt, verdict, hok]
  · simpa using (Load.passes_move s l (.cancelled l.surroundings)).trans hwrote

end Retry

/-- The acts of a load at whose writes no attempt fails, and those of one that does the same with
failed attempts. These come right before the attempt that is accepted, and after each of them there
is a pause. -/
inductive Retried (delay : Binary64) : List Event → List Event → Prop
  | nil : Retried delay [] []
  | dealing {e : Event} {es fs : List Event} (he : e.isDealing = true)
      (h : Retried delay es fs) : Retried delay (e :: es) (e :: fs)
  | accepted {w : Write} {o₁ o₂ : Outcome} {es fs : List Event} (h₁ : o₁.ok = true)
      (h₂ : o₂.ok = true) (h : Retried delay es fs) :
      Retried delay (.wrote w (.ok o₁) :: es) (.wrote w (.ok o₂) :: fs)
  | failed {w : Write} {o : Outcome} {r : Except Fault Outcome} {es fs : List Event}
      (hr : Retry.Fails r) (h : Retried delay (.wrote w (.ok o) :: es) fs) :
      Retried delay (.wrote w (.ok o) :: es) (.wrote w r :: .slept delay :: fs)

namespace Retried

variable {delay : Binary64} {es es' fs fs' : List Event}

theorem append (h : Retried delay es fs) (h' : Retried delay es' fs') :
    Retried delay (es ++ es') (fs ++ fs') := by
  induction h with
  | nil => exact h'
  | dealing he _ ih => exact .dealing he ih
  | accepted h₁ h₂ _ ih => exact .accepted h₁ h₂ ih
  | failed hr _ ih => exact .failed hr ih

theorem accepted_eq (h : Retried delay es fs) :
    fs.filterMap (·.accepted?) = es.filterMap (·.accepted?) := by
  induction h with
  | nil => rfl
  | dealing he _ ih => simp [(Event.not_attempt_of_isDealing he).1, ih]
  | accepted h₁ h₂ _ ih => simp [Event.accepted?_of_ok _ h₁, Event.accepted?_of_ok _ h₂, ih]
  | @failed w _ _ _ _ hr _ ih =>
    rw [← ih]
    simp [(Retry.isFailure_of_fails w hr).2]

theorem dealings_eq (h : Retried delay es fs) :
    fs.filter (·.isDealing) = es.filter (·.isDealing) := by
  induction h with
  | nil => rfl
  | dealing he _ ih => simp [he, ih]
  | accepted _ _ _ ih => simpa [Event.isDealing] using ih
  | failed _ _ ih => simpa [Event.isDealing] using ih

theorem unpaused (h : Retried delay es fs) : es.filterMap (·.pause?) = [] := by
  induction h with
  | nil => rfl
  | dealing he _ ih => simp [(Event.not_attempt_of_isDealing he).2.2, ih]
  | accepted _ _ _ ih => simpa [Event.pause?] using ih
  | failed _ _ ih => exact ih

/-- After each failed attempt there is one pause, and there is no other. -/
theorem pauses_eq (h : Retried delay es fs) :
    fs.filterMap (·.pause?) = List.replicate (fs.filter (·.isFailure)).length delay := by
  induction h with
  | nil => rfl
  | dealing he _ ih =>
    obtain ⟨-, hfailure, hpause⟩ := Event.not_attempt_of_isDealing he
    simp [hfailure, hpause, ih]
  | accepted _ h₂ _ ih =>
    simpa [Event.pause?, Event.isFailure, Event.attempted?, Event.accepted?, h₂] using ih
  | @failed w _ r _ fs hr _ ih =>
    have hslept : (Event.slept delay).isFailure = false ∧ (Event.slept delay).pause? = some delay :=
      ⟨rfl, rfl⟩
    have hpause : (Event.wrote w r).pause? = none := rfl
    simp [(Retry.isFailure_of_fails w hr).1, hslept, hpause, ih, List.replicate_succ]

end Retried

variable {σ₁ σ₂ : Type}

/-- Of two stores one is calm and one hesitates; they take the same arrays, and there is the same
room for them. `R k` relates their states if the hesitant one may fail `k` more attempts before it
accepts the next write; having accepted it, it may fail as often as `most` before the one after
that. Neither of the loads is ever asked to stop. -/
structure Hesitates (calm : Surroundings σ₁) (hesitant : Surroundings σ₂) (most : Nat)
    (R : Nat → σ₁ → σ₂ → Prop) : Prop where
  arrays : calm.acceptsArrays = hesitant.acceptsArrays
  room : calm.room = hesitant.room
  uncancelled {k : Nat} {x : σ₁} {y : σ₂} : R k x y →
    (calm.cancelled x).1 = false ∧ R k (calm.cancelled x).2 y ∧
      (hesitant.cancelled y).1 = false ∧ R k x (hesitant.cancelled y).2
  accepts {k : Nat} {x : σ₁} {y : σ₂} (w : Write) : R k x y →
    ∃ o, (calm.write w x).result = .ok o ∧ o.ok = true
  write {k : Nat} {x : σ₁} {y : σ₂} (w : Write) : R k x y →
    (∃ o, (hesitant.write w y).result = .ok o ∧ o.ok = true ∧
      R most (calm.write w x).state (hesitant.write w y).state) ∨
    ∃ j, k = j + 1 ∧ Retry.Fails (hesitant.write w y).result ∧ R j x (hesitant.write w y).state
  sleep {k : Nat} {x : σ₁} {y : σ₂} (delay : Binary64) : R k x y → R k x (hesitant.sleep delay y)
  command {x : σ₁} {y : σ₂} (c : Command) : R most x y →
    (calm.command c x).result = (hesitant.command c y).result ∧
      R most (calm.command c x).state (hesitant.command c y).state
  createIndex {x : σ₁} {y : σ₂} (q : IndexRequest) : R most x y →
    (calm.createIndex q x).result = (hesitant.createIndex q y).result ∧
      R most (calm.createIndex q x).state (hesitant.createIndex q y).state

/-- Two loads that differ by failed attempts, and by what is only said or marked. -/
structure Alike (R : σ₁ → σ₂ → Prop) (delay : Binary64) (l₁ : Load σ₁) (l₂ : Load σ₂) : Prop where
  same : l₂ = { l₁ with surroundings := l₂.surroundings, history := l₂.history }
  states : R l₁.surroundings l₂.surroundings
  acts : Retried delay l₁.acts l₂.acts

namespace Alike

variable {R R' : σ₁ → σ₂ → Prop} {delay : Binary64} {l₁ l₁' : Load σ₁} {l₂ l₂' : Load σ₂}
  {s₁ : Surroundings σ₁} {s₂ : Surroundings σ₂} {es fs : List Event}

theorem begin {x : σ₁} {y : σ₂} (h : R x y) (rows : List Value) :
    Alike R delay (Load.begin x rows) (Load.begin y rows) :=
  ⟨rfl, h, .nil⟩

/-- Alike loads are alike after passages that differ by failed attempts. -/
theorem passes (h : Alike R delay l₁ l₂) (h₁ : l₁.Passes s₁ es l₁') (h₂ : l₂.Passes s₂ fs l₂')
    (hretried : Retried delay es fs) (hstates : R' l₁'.surroundings l₂'.surroundings) :
    Alike R' delay l₁' l₂' := by
  refine ⟨?_, hstates, ?_⟩
  · obtain ⟨x, a, -, -⟩ := h₁
    obtain ⟨y, b, -, -⟩ := h₂
    rw [h.same]
  · rw [h₁.acts_eq, h₂.acts_eq]
    exact h.acts.append hretried

/-- What is changed in both loads alike, apart from surroundings and history. -/
theorem update (h : Alike R delay l₁ l₂) {f : Load σ₁ → Load σ₁} {g : Load σ₂ → Load σ₂}
    (hsame : ∀ l x a, g { l with surroundings := x, history := a } =
      { f l with surroundings := x, history := a })
    (hkept : ∀ l, (f l).surroundings = l.surroundings ∧ (f l).history = l.history) :
    Alike R delay (f l₁) (g l₂) := by
  have hg : g l₂ = { f l₁ with surroundings := l₂.surroundings, history := l₂.history } := by
    rw [← hsame, ← h.same]
  obtain ⟨hstate, hhistory⟩ := hkept l₁
  rw [hg]
  refine ⟨rfl, ?_, ?_⟩
  · rw [hstate]
    exact h.states
  · have hacts : (f l₁).acts = l₁.acts := by rw [Load.acts, hhistory, Load.acts]
    rw [hacts]
    exact h.acts

/-- What does not depend on surroundings and history is the same in alike loads. -/
theorem read {β : Type} (h : Alike R delay l₁ l₂) {f : Load σ₁ → β} {g : Load σ₂ → β}
    (hfg : ∀ l x a, g { l with surroundings := x, history := a } = f l) : g l₂ = f l₁ := by
  rw [h.same, hfg]

/-- A request that both surroundings answer in the same way. -/
theorem receive_alongside {α : Type} {ask₁ : σ₁ → Reply σ₁ α} {ask₂ : σ₂ → Reply σ₂ α}
    {event : Except Fault α → Event} (hdealing : ∀ r, (event r).isDealing = true)
    (hmove₁ : ∀ x, s₁.Moves x (ask₁ x).state) (hmove₂ : ∀ y, s₂.Moves y (ask₂ y).state)
    (hanswer : ∀ x y, R x y → (ask₁ x).result = (ask₂ y).result ∧ R (ask₁ x).state (ask₂ y).state) :
    Alongside (Alike R delay) Eq (receive ask₁ event) (receive ask₂ event) := by
  intro l₁ l₂ hl
  rcases hcalm : exec (receive ask₁ event) l₁ with ⟨r₁, l₁'⟩
  rcases hhesitant : exec (receive ask₂ event) l₂ with ⟨r₂, l₂'⟩
  have hact : ∀ r, (event r).isAct = true := fun r => Event.isAct_of_isDealing (hdealing r)
  obtain ⟨hr₁, hpass₁⟩ := receive_passes hact hmove₁ hcalm
  obtain ⟨hr₂, hpass₂⟩ := receive_passes hact hmove₂ hhesitant
  obtain ⟨hresult, hstates⟩ := hanswer _ _ hl.states
  have hsame : r₁ = r₂ := hr₁.trans (hresult.trans hr₂.symm)
  rw [← surroundings_receive ask₁ event, ← surroundings_receive ask₂ event, hcalm,
    hhesitant] at hstates
  subst hsame
  exact ⟨.refl r₁, hl.passes hpass₁ hpass₂ (.dealing (hdealing r₁) .nil) hstates⟩

theorem record (h : Alike R delay l₁ l₂) {e e' : Event}
    (he : Retried delay ([e].filter (·.isAct)) ([e'].filter (·.isAct))) :
    Alike R delay (l₁.record e) (l₂.record e') := by
  refine ⟨?_, h.states, ?_⟩
  · change { l₂ with history := l₂.history.push e' } = _
    rw [h.same]
    rfl
  · rw [Load.acts_record, Load.acts_record]
    exact h.acts.append he

theorem record_dealing (h : Alike R delay l₁ l₂) {e : Event} (he : e.isDealing = true) :
    Alike R delay (l₁.record e) (l₂.record e) :=
  h.record (by simpa [Event.isAct_of_isDealing he] using Retried.dealing he .nil)

end Alike

namespace Hesitates

variable {calm : Surroundings σ₁} {hesitant : Surroundings σ₂} {most : Nat}
  {R : Nat → σ₁ → σ₂ → Prop} {p : Retry.Policy} {w : Write} {o : Outcome} {x : σ₁}

/-- While more attempts are left than may fail, the hesitant store comes to accept the write that
the calm store accepts at once. -/
theorem attempts_succeed (h : Hesitates calm hesitant most R)
    (htime : hesitant.canTime p.delay = true) (hok : o.ok = true) (context : Fields)
    {k left made : Nat} {l : Load σ₂} (hstates : R k x l.surroundings) (hfew : k < left)
    (hleft : (made : Int) + left = p.retries + 1) (last : Option Fault) :
    ∃ o' es l', exec (Retry.attempts hesitant p context w left made last) l = (.ok (some o'), l') ∧
      l.Passes hesitant es l' ∧ Retried p.delay [.wrote w (.ok o)] es ∧
      R most (calm.write w x).state l'.surroundings := by
  induction left generalizing k made last l with
  | zero => omega
  | succ left ih =>
    obtain ⟨-, -, hno, hasked⟩ := h.uncancelled hstates
    rcases hattempt : exec (Retry.attempt hesitant context w)
      { l with surroundings := (hesitant.cancelled l.surroundings).2 } with ⟨verdict, l₁⟩
    obtain ⟨result, hresult, rfl, hwrote, hstate⟩ := Retry.attempt_passes hattempt
    have hpass : l.Passes hesitant [.wrote w result] l₁ := by
      simpa using (Load.passes_move hesitant l (.cancelled l.surroundings)).trans hwrote
    simp only [Retry.attempts, exec_bind, exec_isCancelled, hno, Bool.false_eq_true, if_false,
      hattempt]
    rcases h.write w hasked with ⟨o', ho', hok', hnext⟩ | ⟨j, rfl, hfails, hnext⟩
    · obtain rfl : result = .ok o' := hresult.trans ho'
      refine ⟨o', _, l₁, ?_, hpass, .accepted hok hok' .nil, hstate ▸ hnext⟩
      simp [Retry.verdict, hok']
    · rw [← hstate] at hnext
      have hfailed : Retry.Fails result := hresult ▸ hfails
      obtain ⟨f, hverdict⟩ := Retry.verdict_of_fails w hfailed
      -- The attempts that may still fail were fewer than those left, so there is a pause.
      have hmade : ((made + 1 : Nat) : Int) ≤ p.retries := by omega
      obtain ⟨l₂, hpause, hslept, hpaused⟩ :=
        Retry.pause_of_canTime (l := l₁) context w f hmade htime
      have hslept_states : R j x l₂.surroundings := hpaused ▸ h.sleep p.delay hnext
      have hrest_left : ((made + 1 : Nat) : Int) + left = p.retries + 1 := by omega
      obtain ⟨o', es, l', hrest, hes, hretried, hlast⟩ :=
        ih hslept_states (by omega) hrest_left (some f)
      refine ⟨o', _, l', ?_, hpass.trans (hslept.trans hes), .failed hfailed hretried, hlast⟩
      simp only [hverdict, exec_bind, hpause, hrest]

/-- A write ends with an outcome in either store, and leaves the loads alike. -/
theorem write_alongside (h : Hesitates calm hesitant most R) (hmost : (most : Int) ≤ p.retries)
    (htime : hesitant.canTime p.delay = true) (context : Fields) (w : Write) :
    Alongside (Alike (R most) p.delay) (fun a b => a.isSome = true ∧ b.isSome = true)
      (Retry.write calm p context w) (Retry.write hesitant p context w) := by
  intro l₁ l₂ hl
  obtain ⟨hno, hasked, -, -⟩ := h.uncancelled hl.states
  obtain ⟨o, ho, hok⟩ := h.accepts w hasked
  obtain ⟨l₁', hcalm, hpass₁, hstate⟩ :=
    Retry.write_of_accepted (p := p) context (by omega) hno ho hok
  have hleft : ((0 : Nat) : Int) + p.attempts = p.retries + 1 := by
    unfold Retry.Policy.attempts
    omega
  obtain ⟨o', es, l₂', hhesitant, hpass₂, hretried, hlast⟩ :=
    h.attempts_succeed (w := w) htime hok context hasked (by omega) hleft none
  rw [hcalm, Retry.write, hhesitant]
  exact ⟨.ok ⟨rfl, rfl⟩, hl.passes hpass₁ hpass₂ hretried (hstate ▸ hlast)⟩

theorem isCancelled_alongside (h : Hesitates calm hesitant most R) (delay : Binary64) :
    Alongside (Alike (R most) delay) (fun a b => a = false ∧ b = false) (isCancelled calm)
      (isCancelled hesitant) := by
  intro l₁ l₂ hl
  obtain ⟨hno, hasked, -, -⟩ := h.uncancelled hl.states
  obtain ⟨-, -, hno', hasked'⟩ := h.uncancelled hasked
  refine ⟨.ok ⟨hno, hno'⟩, ?_⟩
  exact hl.passes (Load.passes_move calm l₁ (.cancelled _))
    (Load.passes_move hesitant l₂ (.cancelled _)) .nil hasked'

theorem command_alongside (h : Hesitates calm hesitant most R) (delay : Binary64) (c : Command) :
    Alongside (Alike (R most) delay) Eq (Action.command calm c) (Action.command hesitant c) :=
  Alike.receive_alongside (fun _ => rfl) (.command c) (.command c) fun _ _ => h.command c

theorem createIndex_alongside (h : Hesitates calm hesitant most R) (delay : Binary64)
    (q : IndexRequest) :
    Alongside (Alike (R most) delay) Eq (Action.createIndex calm q)
      (Action.createIndex hesitant q) :=
  Alike.receive_alongside (fun _ => rfl) (.createIndex q) (.createIndex q) fun _ _ =>
    h.createIndex q

end Hesitates

end RowIngest
