import RowIngest.Proofs.Transparency
/-!
The law of trying again. From the surroundings in which a write begins it is settled when each
attempt would be due, whether the wish to cancel is seen then, and what the attempt would come to.
Main statement: a write attempts until an attempt does not fail, or none is left, or the wish to
cancel is seen; after each failed attempt but the last one that is allowed it pauses; and the last
attempt decides what it comes to.
-/
namespace RowIngest.Retry

open RowIngest.Action

variable {σ : Type}

instance : DecidablePred Fails := fun r =>
  match r with
  | .ok outcome => inferInstanceAs (Decidable (outcome.ok = false))
  | .error f => inferInstanceAs (Decidable (f.isRetryable = true))

/-- The failure that an attempt with this result leaves behind: the one that was raised, or one
that says what the store has said. -/
def failure? (w : Write) : Except Fault Outcome → Option Fault
  | .ok outcome =>
    if outcome.ok then none else some (.notApplied w.operation outcome.reason outcome.server)
  | .error f => if f.isRetryable then some f else none

theorem failure?_eq_some_iff {w : Write} {r : Except Fault Outcome} {f : Fault} :
    failure? w r = some f ↔ verdict w r = .ok (.error f) := by
  rcases r with g | o
  · cases hg : g.isRetryable <;> simp [failure?, verdict, hg]
  · cases ho : o.ok <;> simp [failure?, verdict, ho]

theorem fails_iff_verdict (w : Write) (r : Except Fault Outcome) :
    Fails r ↔ ∃ f, verdict w r = .ok (.error f) := by
  refine ⟨verdict_of_fails w, fun ⟨f, hf⟩ => ?_⟩
  rcases r with g | o
  · cases hg : g.isRetryable with
    | true => exact hg
    | false => simp [verdict, hg] at hf
  · cases ho : o.ok with
    | true => simp [verdict, ho] at hf
    | false => exact ho

section

variable (s : Surroundings σ) (p : Policy) (w : Write) (x : σ)

/-- The surroundings when an attempt is due: each one before it was made and followed by a pause. -/
def due : Nat → σ
  | 0 => x
  | k + 1 => s.sleep p.delay (s.write w (s.cancelled (due k)).2).state

/-- The wish to cancel is seen when this attempt is due. -/
def stops (k : Nat) : Bool := (s.cancelled (due s p w x k)).1

def answer (k : Nat) : Except Fault Outcome :=
  (s.write w (s.cancelled (due s p w x k)).2).result

/-- What the first `n` attempts do. One that fails is followed by a pause, if more are allowed. -/
def trail (n : Nat) : List Event :=
  (List.range n).flatMap fun k => .wrote w (answer s p w x k) ::
    if Fails (answer s p w x k) ∧ (k : Int) + 1 ≤ p.retries then [.slept p.delay] else []

/-- What a write comes to after `n` attempts, by what is made of the last one. -/
inductive Comes (n : Nat) : Except Fault (Except Fault Outcome) → Except Fault (Option Outcome) →
    Prop
  | accepted (o : Outcome) : Comes n (.ok (.ok o)) (.ok (some o))
  | broken (f : Fault) : Comes n (.error f) (.error f)
  | givenUp (f : Fault) (inTime cancelled : Bool)
      (hover : n = p.attempts ∨ stops s p w x n = true) :
      Comes n (.ok (.error f)) (.error (.gaveUp w.operation n inTime cancelled f))

/-- What a write comes to after `n` attempts. -/
inductive Ends : Nat → Except Fault (Option Outcome) → Prop
  | untried (hstops : stops s p w x 0 = true) : Ends 0 (.ok none)
  | tried {k : Nat} {r : Except Fault (Option Outcome)}
      (hcomes : Comes s p w x (k + 1) (verdict w (answer s p w x k)) r) : Ends (k + 1) r

/-- A load that has made `n` attempts, all of which have failed. -/
structure Underway (l₀ : Load σ) (n : Nat) (last : Option Fault) (l : Load σ) : Prop where
  passes : l₀.Passes s (trail s p w l₀.surroundings n) l
  /-- After the last attempt that is allowed there is no pause. -/
  state : n < p.attempts → l.surroundings = due s p w l₀.surroundings n
  unstopped : ∀ k < n, stops s p w l₀.surroundings k = false
  failed : ∀ k < n, Fails (answer s p w l₀.surroundings k)
  untried : last = none → n = 0
  latest : ∀ f, last = some f → ∃ k, n = k + 1 ∧
    verdict w (answer s p w l₀.surroundings k) = .ok (.error f)

/-- A load that has ended a write with its attempt number `n`, all before which have failed. -/
structure Over (l₀ : Load σ) (n : Nat) (r : Except Fault (Option Outcome)) (l : Load σ) :
    Prop where
  few : n ≤ p.attempts
  passes : l₀.Passes s (trail s p w l₀.surroundings n) l
  unstopped : ∀ k < n, stops s p w l₀.surroundings k = false
  failed : ∀ k, k + 1 < n → Fails (answer s p w l₀.surroundings k)
  ends : Ends s p w l₀.surroundings n r

/-- A write is given up after so many attempts, and says why the last of them failed. -/
structure GivesUp (n : Nat) (f : Fault) : Prop where
  category : f.category? = some .writeFailure
  attempts : Fields.get? f.details "attempts" = some (.int n)
  cause : ∃ k c, n = k + 1 ∧ failure? w (answer s p w x k) = some c ∧ f.cause? = some c

/-- A fault that is no failed write ends the attempt. -/
def Breaks (n : Nat) (f : Fault) : Prop :=
  ∃ k, n = k + 1 ∧ answer s p w x k = .error f ∧ f.isRetryable = false

/-- The law by which a write that begins here makes `n` attempts and comes to this result. -/
structure Tried (n : Nat) (r : Except Fault (Option Outcome)) : Prop where
  few : (n : Int) ≤ p.retries + 1
  unstopped : ∀ k < n, stops s p w x k = false
  /-- No attempt is made after one that has not failed. -/
  failed : ∀ k, k + 1 < n → Fails (answer s p w x k)
  pauses : (trail s p w x n).filterMap (·.pause?) = List.replicate
    (min ((List.range n).countP fun k => Fails (answer s p w x k)) p.retries.toNat) p.delay
  outcome : ∀ o, r = .ok (some o) ↔ ∃ k, n = k + 1 ∧ answer s p w x k = .ok o ∧ o.ok = true
  nothing : r = .ok none ↔ n = 0
  givenUp : (∃ f, r = .error f ∧ GivesUp s p w x n f) ↔
    0 < n ∧ (∀ k < n, Fails (answer s p w x k)) ∧
      ((n : Int) = p.retries + 1 ∨ stops s p w x n = true)
  broken : ∀ f, Breaks s p w x n f → r = .error f
  faults : ∀ f, r = .error f → GivesUp s p w x n f ∨ Breaks s p w x n f

end

variable {s : Surroundings σ} {p : Policy} {context : Fields} {w : Write} {x : σ} {l₀ l l' : Load σ}
  {n : Nat} {last : Option Fault} {r : Except Fault (Option Outcome)}

theorem trail_succ (n : Nat) : trail s p w x (n + 1) = trail s p w x n ++
    .wrote w (answer s p w x n) ::
      if Fails (answer s p w x n) ∧ (n : Int) + 1 ≤ p.retries then [.slept p.delay] else [] := by
  rw [trail, List.range_succ, List.flatMap_append, List.flatMap_singleton, trail]

/-- Each failed attempt is followed by a pause, apart from the last one that is allowed. -/
theorem pauses_trail (hretries : 0 ≤ p.retries) (hfew : (n : Int) ≤ p.retries + 1)
    (hfailed : ∀ k, k + 1 < n → Fails (answer s p w x k)) :
    (trail s p w x n).filterMap (·.pause?) = List.replicate
      (min ((List.range n).countP fun k => Fails (answer s p w x k)) p.retries.toNat) p.delay := by
  have hpaused : ∀ m : Nat, (m : Int) ≤ p.retries → (∀ k < m, Fails (answer s p w x k)) →
      (trail s p w x m).filterMap (·.pause?) = List.replicate m p.delay := by
    intro m
    induction m with
    | zero =>
      intro _ _
      rfl
    | succ m ih =>
      intro hm hall
      have hlast : Fails (answer s p w x m) := hall m (by omega)
      rw [trail_succ, List.filterMap_append, ih (by omega) fun k hk => hall k (by omega),
        if_pos ⟨hlast, by omega⟩, List.replicate_succ']
      rfl
  have hcount : ∀ m : Nat, (∀ k < m, Fails (answer s p w x k)) →
      (List.range m).countP (fun k => Fails (answer s p w x k)) = m := by
    intro m hall
    have hcount := List.countP_eq_length.mpr fun k (hk : k ∈ List.range m) =>
      decide_eq_true (hall k (List.mem_range.mp hk))
    rwa [List.length_range] at hcount
  cases n with
  | zero => rfl
  | succ m =>
    have hbefore : ∀ k < m, Fails (answer s p w x k) := fun k hk => hfailed k (by omega)
    rw [trail_succ, List.filterMap_append, hpaused m (by omega) hbefore, List.range_succ,
      List.countP_append, hcount m hbefore]
    by_cases hlast : Fails (answer s p w x m)
    · by_cases hmore : (m : Int) + 1 ≤ p.retries
      · rw [if_pos ⟨hlast, hmore⟩]
        have hmin : min (m + 1) p.retries.toNat = m + 1 := by omega
        simp [Event.pause?, hlast, hmin, List.replicate_succ']
      · rw [if_neg fun hboth => hmore hboth.2]
        have hmin : min (m + 1) p.retries.toNat = m := by omega
        simp [Event.pause?, hlast, hmin]
    · rw [if_neg fun hboth => hlast hboth.1]
      have hmin : min m p.retries.toNat = m := by omega
      simp [Event.pause?, hlast, hmin]

namespace Underway

theorem start (s : Surroundings σ) (p : Policy) (w : Write) (l : Load σ) :
    Underway s p w l 0 none l where
  passes := .refl s l
  state _ := rfl
  unstopped k hk := absurd hk (by omega)
  failed k hk := absurd hk (by omega)
  untried _ := rfl
  latest f hf := by cases hf

/-- The next attempt, if the wish to cancel is not seen. -/
theorem attempt (h : Underway s p w l₀ n last l) (hn : n < p.attempts)
    (hno : (s.cancelled l.surroundings).1 = false) {v : Except Fault (Except Fault Outcome)}
    {l₁ : Load σ} (hexec : exec (Retry.attempt s context w)
      { l with surroundings := (s.cancelled l.surroundings).2 } = (v, l₁)) :
    stops s p w l₀.surroundings n = false ∧ v = verdict w (answer s p w l₀.surroundings n) ∧
      l₀.Passes s (trail s p w l₀.surroundings n ++ [.wrote w (answer s p w l₀.surroundings n)])
        l₁ ∧
      s.sleep p.delay l₁.surroundings = due s p w l₀.surroundings (n + 1) := by
  obtain ⟨result, hresult, hverdict, hwrote, hstate⟩ := attempt_passes hexec
  have hask := Load.passes_move s l (Surroundings.Moves.cancelled l.surroundings)
  rw [h.state hn] at hno hresult hstate
  obtain rfl : result = answer s p w l₀.surroundings n := hresult
  refine ⟨hno, hverdict, ?_, ?_⟩
  · simpa using h.passes.trans (hask.trans hwrote)
  · rw [hstate]
    rfl

/-- After a failed attempt the next one is due. -/
theorem next (h : Underway s p w l₀ n last l) (hstops : stops s p w l₀.surroundings n = false)
    {f : Fault} (hf : verdict w (answer s p w l₀.surroundings n) = .ok (.error f)) {l₂ : Load σ}
    (hpass : l₀.Passes s (trail s p w l₀.surroundings (n + 1)) l₂)
    (hstate : n + 1 < p.attempts → l₂.surroundings = due s p w l₀.surroundings (n + 1)) :
    Underway s p w l₀ (n + 1) (some f) l₂ where
  passes := hpass
  state := hstate
  unstopped k hk := by
    rcases Nat.lt_succ_iff_lt_or_eq.mp hk with hk | rfl
    · exact h.unstopped k hk
    · exact hstops
  failed k hk := by
    rcases Nat.lt_succ_iff_lt_or_eq.mp hk with hk | rfl
    · exact h.failed k hk
    · exact (fails_iff_verdict w _).mpr ⟨f, hf⟩
  untried hnone := by cases hnone
  latest g hg := ⟨n, rfl, by rw [hf, Option.some.inj hg]⟩

/-- An attempt that has not failed ends the write, and no pause follows it. -/
theorem over_of_attempt (h : Underway s p w l₀ n last l) (hn : n < p.attempts)
    (hstops : stops s p w l₀.surroundings n = false)
    (hwrote : l₀.Passes s
      (trail s p w l₀.surroundings n ++ [.wrote w (answer s p w l₀.surroundings n)]) l')
    (hnot : ∀ f, verdict w (answer s p w l₀.surroundings n) ≠ .ok (.error f))
    (hcomes : Comes s p w l₀.surroundings (n + 1) (verdict w (answer s p w l₀.surroundings n)) r) :
    Over s p w l₀ (n + 1) r l' where
  few := hn
  passes := by
    rw [trail_succ, if_neg]
    · exact hwrote
    · rintro ⟨hfails, -⟩
      obtain ⟨f, hf⟩ := verdict_of_fails w hfails
      exact hnot f hf
  unstopped k hk := by
    rcases Nat.lt_succ_iff_lt_or_eq.mp hk with hk | rfl
    · exact h.unstopped k hk
    · exact hstops
  failed k hk := h.failed k (by omega)
  ends := .tried hcomes

/-- No further attempt is made: none is left, or the wish to cancel is seen. -/
theorem giveUp (h : Underway s p w l₀ n last l) (hn : n ≤ p.attempts) (hsome : 0 < p.attempts)
    (hover : n = p.attempts ∨ stops s p w l₀.surroundings n = true) {l₁ : Load σ}
    (hmove : l.Passes s [] l₁) (hexec : exec (Retry.giveUp s p context w n last) l₁ = (r, l')) :
    Over s p w l₀ n r l' := by
  obtain ⟨hresigns, hpass⟩ := giveUp_passes hexec
  refine ⟨hn, by simpa using h.passes.trans (hmove.trans hpass), h.unstopped,
    fun k hk => h.failed k (by omega), ?_⟩
  cases last with
  | none =>
    obtain rfl : n = 0 := h.untried rfl
    obtain rfl : r = .ok none := hresigns
    rcases hover with hnone | hstops
    · omega
    · exact .untried hstops
  | some f =>
    obtain ⟨k, rfl, hf⟩ := h.latest f rfl
    obtain ⟨inTime, cancelled, rfl⟩ := hresigns
    refine .tried ?_
    rw [hf]
    exact .givenUp f _ _ hover

/-- While attempts are left, the write ends, or one attempt fails and there may be more. -/
theorem step (h : Underway s p w l₀ n last l) (htime : s.canTime p.delay = true) {left : Nat}
    (hleft : n + (left + 1) = p.attempts)
    (hexec : exec (Retry.attempts s p context w (left + 1) n last) l = (r, l')) :
    (∃ m, Over s p w l₀ m r l') ∨ ∃ f l₂, Underway s p w l₀ (n + 1) (some f) l₂ ∧
      exec (Retry.attempts s p context w left (n + 1) (some f)) l₂ = (r, l') := by
  have hn : n < p.attempts := by omega
  simp only [Retry.attempts, exec_bind, exec_isCancelled] at hexec
  cases hcancelled : (s.cancelled l.surroundings).1 with
  | true =>
    left
    simp only [hcancelled, if_true] at hexec
    have hstops : stops s p w l₀.surroundings n = true := by
      rw [stops, ← h.state hn, hcancelled]
    have hask := Load.passes_move s l (Surroundings.Moves.cancelled l.surroundings)
    exact ⟨n, h.giveUp (by omega) (by omega) (Or.inr hstops) hask hexec⟩
  | false =>
    simp only [hcancelled, Bool.false_eq_true, if_false, exec_bind] at hexec
    rcases hattempt : exec (Retry.attempt s context w)
      { l with surroundings := (s.cancelled l.surroundings).2 } with ⟨v, l₁⟩
    obtain ⟨hstops, rfl, hwrote, hstate⟩ := h.attempt hn hcancelled hattempt
    rw [hattempt] at hexec
    rcases hverdict : verdict w (answer s p w l₀.surroundings n) with f | (f | o)
    · left
      simp only [hverdict, Prod.mk.injEq] at hexec
      obtain ⟨rfl, rfl⟩ := hexec
      refine ⟨n + 1, h.over_of_attempt hn hstops hwrote (by simp [hverdict]) ?_⟩
      rw [hverdict]
      exact .broken f
    · right
      simp only [hverdict, exec_bind] at hexec
      have hfails : Fails (answer s p w l₀.surroundings n) :=
        (fails_iff_verdict w _).mpr ⟨f, hverdict⟩
      by_cases hmore : ((n + 1 : Nat) : Int) ≤ p.retries
      · obtain ⟨l₂, hpause, hslept, hdue⟩ := pause_of_canTime (l := l₁) context w f hmore htime
        rw [hpause] at hexec
        have hpass : l₀.Passes s (trail s p w l₀.surroundings (n + 1)) l₂ := by
          rw [trail_succ, if_pos ⟨hfails, by omega⟩]
          simpa using hwrote.trans hslept
        exact ⟨f, l₂, h.next hstops hverdict hpass fun _ => hdue.trans hstate, hexec⟩
      · have hpause : exec (pause s p context w (n + 1) f) l₁ = (.ok (), l₁) := by
          simp only [pause, hmore, if_false, exec_pure]
        rw [hpause] at hexec
        have hlast : ¬ n + 1 < p.attempts := by
          unfold Policy.attempts
          omega
        have hpass : l₀.Passes s (trail s p w l₀.surroundings (n + 1)) l₁ := by
          rw [trail_succ, if_neg fun hboth => hmore (by omega)]
          exact hwrote
        exact ⟨f, l₁, h.next hstops hverdict hpass fun hlt => absurd hlt hlast, hexec⟩
    · left
      simp only [hverdict, exec_pure, Prod.mk.injEq] at hexec
      obtain ⟨rfl, rfl⟩ := hexec
      refine ⟨n + 1, h.over_of_attempt hn hstops hwrote (by simp [hverdict]) ?_⟩
      rw [hverdict]
      exact .accepted o

/-- The write ends, by induction on the number of attempts that are left. -/
theorem attempts (h : Underway s p w l₀ n last l) (hsome : 0 < p.attempts)
    (htime : s.canTime p.delay = true) {left : Nat} (hleft : n + left = p.attempts)
    (hexec : exec (Retry.attempts s p context w left n last) l = (r, l')) :
    ∃ m, Over s p w l₀ m r l' := by
  induction left generalizing n last l with
  | zero => exact ⟨n, h.giveUp (by omega) hsome (Or.inl (by omega)) (.refl s l) hexec⟩
  | succ left ih =>
    rcases h.step htime hleft hexec with hover | ⟨f, l₂, hnext, hrest⟩
    · exact hover
    · exact ih hnext (by omega) hrest

end Underway

namespace Ends

theorem outcome (h : Ends s p w x n r) (o : Outcome) :
    r = .ok (some o) ↔ ∃ k, n = k + 1 ∧ answer s p w x k = .ok o ∧ o.ok = true := by
  cases h with
  | untried _ => simp
  | @tried k _ hcomes =>
    constructor
    · rintro rfl
      generalize hverdict : verdict w (answer s p w x k) = v at hcomes
      cases hcomes with
      | accepted _ => exact ⟨k, rfl, eq_ok_of_verdict hverdict⟩
    · rintro ⟨_, hk, hanswer, hok⟩
      obtain rfl := Nat.succ.inj hk
      have hverdict : verdict w (answer s p w x k) = .ok (.ok o) := by
        simp [hanswer, verdict, hok]
      rw [hverdict] at hcomes
      cases hcomes with
      | accepted _ => rfl

theorem nothing (h : Ends s p w x n r) : r = .ok none ↔ n = 0 := by
  cases h with
  | untried _ => simp
  | @tried k _ hcomes =>
    generalize verdict w (answer s p w x k) = v at hcomes
    cases hcomes <;> simp

theorem broken (h : Ends s p w x n r) {f : Fault} (hf : Breaks s p w x n f) : r = .error f := by
  obtain ⟨k, rfl, hanswer, hbreaks⟩ := hf
  have hverdict : verdict w (answer s p w x k) = .error f := by
    simp [hanswer, verdict, hbreaks]
  cases h with
  | tried hcomes =>
    rw [hverdict] at hcomes
    cases hcomes with
    | broken _ => rfl

theorem givesUp {k : Nat} {f : Fault} (inTime cancelled : Bool)
    (hf : verdict w (answer s p w x k) = .ok (.error f)) :
    GivesUp s p w x (k + 1) (.gaveUp w.operation (k + 1) inTime cancelled f) where
  category := rfl
  attempts := rfl
  cause := ⟨k, f, rfl, failure?_eq_some_iff.mpr hf, rfl⟩

theorem faults (h : Ends s p w x n r) {f : Fault} (hr : r = .error f) :
    GivesUp s p w x n f ∨ Breaks s p w x n f := by
  subst hr
  cases h with
  | @tried k _ hcomes =>
    generalize hverdict : verdict w (answer s p w x k) = v at hcomes
    cases hcomes with
    | broken _ => exact Or.inr ⟨k, rfl, eq_error_of_verdict hverdict⟩
    | givenUp _ inTime cancelled _ => exact Or.inl (givesUp inTime cancelled hverdict)

theorem givenUp_iff (h : Ends s p w x n r) (hretries : 0 ≤ p.retries)
    (hfailed : ∀ k, k + 1 < n → Fails (answer s p w x k)) :
    (∃ f, r = .error f ∧ GivesUp s p w x n f) ↔
      0 < n ∧ (∀ k < n, Fails (answer s p w x k)) ∧
        ((n : Int) = p.retries + 1 ∨ stops s p w x n = true) := by
  have hattempts : (p.attempts : Int) = p.retries + 1 := by
    unfold Policy.attempts
    omega
  constructor
  · rintro ⟨f, rfl, hgives⟩
    obtain ⟨k, c, rfl, hcause, -⟩ := hgives.cause
    have hverdict := failure?_eq_some_iff.mp hcause
    refine ⟨by omega, fun j hj => ?_, ?_⟩
    · rcases Nat.lt_succ_iff_lt_or_eq.mp hj with hj | rfl
      · exact hfailed j (by omega)
      · exact (fails_iff_verdict w _).mpr ⟨c, hverdict⟩
    · cases h with
      | tried hcomes =>
        rw [hverdict] at hcomes
        cases hcomes with
        | givenUp _ _ _ hover => exact hover.imp_left fun hnone => by omega
  · rintro ⟨hsome, hall, -⟩
    cases h with
    | untried _ => omega
    | @tried k _ hcomes =>
      obtain ⟨c, hverdict⟩ := verdict_of_fails w (hall k (by omega))
      rw [hverdict] at hcomes
      cases hcomes with
      | givenUp _ inTime cancelled _ => exact ⟨_, rfl, givesUp inTime cancelled hverdict⟩

end Ends

theorem Over.tried (h : Over s p w l₀ n r l) (hretries : 0 ≤ p.retries) :
    Tried s p w l₀.surroundings n r where
  few := by
    have hfew := h.few
    unfold Policy.attempts at hfew
    omega
  unstopped := h.unstopped
  failed := h.failed
  pauses := by
    have hfew := h.few
    unfold Policy.attempts at hfew
    exact pauses_trail hretries (by omega) h.failed
  outcome := h.ends.outcome
  nothing := h.ends.nothing
  givenUp := h.ends.givenUp_iff hretries h.failed
  broken _ hf := h.ends.broken hf
  faults _ hr := h.ends.faults hr

/-- Every write keeps the law, whatever the store answers and whenever the wish to cancel comes up,
if the clock can time the pauses. -/
theorem write_tries (hretries : 0 ≤ p.retries) (htime : s.canTime p.delay = true)
    (hexec : exec (write s p context w) l = (r, l')) :
    ∃ n, l.Passes s (trail s p w l.surroundings n) l' ∧ Tried s p w l.surroundings n r := by
  have hsome : 0 < p.attempts := by
    unfold Policy.attempts
    omega
  obtain ⟨n, hover⟩ := (Underway.start s p w l).attempts hsome htime (Nat.zero_add _) hexec
  exact ⟨n, hover.passes, hover.tried hretries⟩

open Rehearsal Loader

/-- Two attempts fail, and during the second one someone wishes to cancel. -/
def stoppedStore : ScriptedStore :=
  { willingStore with script := [busyCue, ⟨true, .ok ⟨false, some "no primary", none⟩⟩] }

def insertion : Write := .insertMany [numberedRow 1]

/-- Two more attempts, each after a second. -/
def promptPolicy : Policy := ⟨2, .ofDecimal false 1 0⟩

/-- A third attempt would be allowed, but the wish is seen when it is due. -/
theorem write_tries_stopped :
    (0 : Int) ≤ promptPolicy.retries ∧ clockedSurroundings.canTime promptPolicy.delay = true ∧
    ∃ l', exec (write clockedSurroundings promptPolicy [] insertion) (Load.begin stoppedStore []) =
        (.error (.gaveUp .insertMany 2 true true
          (.notApplied .insertMany (some "no primary") none)), l') ∧
      ∃ n, (Load.begin stoppedStore []).Passes clockedSurroundings
          (trail clockedSurroundings promptPolicy insertion stoppedStore n) l' ∧
        Tried clockedSurroundings promptPolicy insertion stoppedStore n
          (.error (.gaveUp .insertMany 2 true true
            (.notApplied .insertMany (some "no primary") none))) := by
  have htime : clockedSurroundings.canTime promptPolicy.delay = true := by
    decide +kernel
  have hresult : (exec (write clockedSurroundings promptPolicy [] insertion)
      (Load.begin stoppedStore [])).1 = .error (.gaveUp .insertMany 2 true true
        (.notApplied .insertMany (some "no primary") none)) := rfl
  rcases hexec : exec (write clockedSurroundings promptPolicy [] insertion)
    (Load.begin stoppedStore []) with ⟨r, l'⟩
  obtain rfl : r = _ := (congrArg Prod.fst hexec).symm.trans hresult
  exact ⟨by decide, htime, l', rfl, write_tries (by decide) htime hexec⟩

/-- A policy whose pause is longer than any clock can time. -/
def patientPolicy : Policy := ⟨2, .ofDecimal false 1 10⟩

/-- A store that is busy at the first attempt. -/
def busyStore : ScriptedStore := { willingStore with script := [busyCue] }

/-- Where the pause cannot be timed, a failed attempt is neither followed by a pause nor by another
attempt, and the write is not given up for it either. -/
theorem untimed_pause_breaks_law :
    (0 : Int) ≤ patientPolicy.retries ∧
    ∃ l', exec (write clockedSurroundings patientPolicy [] insertion) (Load.begin busyStore []) =
        (.error (.ofForeign .overflow "timestamp too large to convert to C _PyTime_t"), l') ∧
      l'.acts = [.wrote insertion busyCue.result] ∧
      ¬ ∃ n, (Load.begin busyStore []).Passes clockedSurroundings
          (trail clockedSurroundings patientPolicy insertion busyStore n) l' ∧
        Tried clockedSurroundings patientPolicy insertion busyStore n
          (.error (.ofForeign .overflow "timestamp too large to convert to C _PyTime_t")) := by
  refine ⟨by decide, _, rfl, rfl, ?_⟩
  rintro ⟨n, hpass, htried⟩
  have hacts : [Event.wrote insertion busyCue.result] =
      trail clockedSurroundings patientPolicy insertion busyStore n := hpass.acts_eq
  cases n with
  | zero => cases htried.nothing.mpr rfl
  | succ n =>
    -- By the law the first attempt is followed by a pause.
    have hfails : Fails (answer clockedSurroundings patientPolicy insertion busyStore 0) := rfl
    have hallowed : (0 : Int) + 1 ≤ patientPolicy.retries := by decide
    rw [trail, List.range_succ_eq_map, List.flatMap_cons, Int.ofNat_zero,
      if_pos ⟨hfails, hallowed⟩] at hacts
    cases hacts

end RowIngest.Retry
