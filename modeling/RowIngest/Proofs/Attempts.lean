import RowIngest.Proofs.History
import RowIngest.Run.Retry
/-!
The attempts at one write. Either none is made, because the wish to cancel was noticed first,
or they form a series: all but the last one failed and were followed by a pause, and the last
one decides what the write comes to.
-/
namespace RowIngest.Retry

open RowIngest.Action

variable {σ : Type}

/-- What an attempt with this result comes to: a fault that ends the write, or else an outcome
or a failure that may be overcome. -/
def verdict (w : Write) : Except Fault Outcome → Except Fault (Except Fault Outcome)
  | .ok outcome =>
    .ok (if outcome.ok then .ok outcome
      else .error (.notApplied w.operation outcome.reason outcome.server))
  | .error f => if f.isRetryable then .ok (.error f) else .error f

theorem eq_error_of_verdict {w : Write} {r : Except Fault Outcome} {f : Fault}
    (h : verdict w r = .error f) : r = .error f ∧ f.isRetryable = false := by
  cases r with
  | ok o => simp [verdict] at h
  | error g =>
    cases hg : g.isRetryable with
    | true => simp [verdict, hg] at h
    | false =>
      have hgf : g = f := by simpa [verdict, hg] using h
      exact ⟨congrArg _ hgf, hgf ▸ hg⟩

theorem eq_ok_of_verdict {w : Write} {r : Except Fault Outcome} {o : Outcome}
    (h : verdict w r = .ok (.ok o)) : r = .ok o ∧ o.ok = true := by
  cases r with
  | error g => cases hg : g.isRetryable <;> simp [verdict, hg] at h
  | ok o' =>
    cases ho : o'.ok with
    | false => simp [verdict, ho] at h
    | true =>
      have hoo : o' = o := by simpa [verdict, ho] using h
      exact ⟨congrArg _ hoo, hoo ▸ ho⟩

/-- A series of attempts at a write after `made` earlier ones, and what the write comes to. -/
inductive Series (p : Policy) (w : Write) : Nat → List Event → Except Fault (Option Outcome) → Prop
  | accepted {made : Nat} {o : Outcome} (ho : o.ok = true) :
      Series p w made [.wrote w (.ok o)] (.ok (some o))
  | broken {made : Nat} {f : Fault} (hf : f.isRetryable = false) :
      Series p w made [.wrote w (.error f)] (.error f)
  /-- The pause that is due is too long for the clock. -/
  | untimed {made : Nat} {r : Except Fault Outcome} {f : Fault} (m : String)
      (hr : verdict w r = .ok (.error f)) (hleft : made + 1 < p.attempts) :
      Series p w made [.wrote w r] (.error (.ofForeign .overflow m))
  | exhausted {made : Nat} {r : Except Fault Outcome} {f : Fault} (cancelled : Bool)
      (hr : verdict w r = .ok (.error f)) (hleft : made + 1 = p.attempts) :
      Series p w made [.wrote w r] (.error (.gaveUp w.operation (made + 1) false cancelled f))
  /-- The wish to cancel is noticed when the next attempt is due. -/
  | interrupted {made : Nat} {r : Except Fault Outcome} {f : Fault} (inTime cancelled : Bool)
      (hr : verdict w r = .ok (.error f)) (hleft : made + 1 < p.attempts) :
      Series p w made [.wrote w r, .slept p.delay]
        (.error (.gaveUp w.operation (made + 1) inTime cancelled f))
  | again {made : Nat} {r : Except Fault Outcome} {f : Fault} {es : List Event}
      {result : Except Fault (Option Outcome)}
      (hr : verdict w r = .ok (.error f)) (hrest : Series p w (made + 1) es result) :
      Series p w made (.wrote w r :: .slept p.delay :: es) result

namespace Series

variable {p : Policy} {w : Write} {made : Nat} {es : List Event}

/-- An attempt that was not accepted. -/
theorem accepted?_of_verdict {r : Except Fault Outcome} {f : Fault}
    (h : verdict w r = .ok (.error f)) : (Event.wrote w r).accepted? = none := by
  cases r with
  | error g => rfl
  | ok o =>
    cases ho : o.ok with
    | true => simp [verdict, ho] at h
    | false => simp [Event.accepted?, ho]

/-- The store accepts a write at most once, in the last attempt, and then it has an outcome. -/
theorem accepted_eq {r : Except Fault (Option Outcome)} (h : Series p w made es r) :
    es.filterMap (·.accepted?) = if r.isOk then [w] else [] := by
  induction h with
  | accepted ho => simp [Event.accepted?, ho, Except.isOk, Except.toBool]
  | broken hf => simp [Event.accepted?, Except.isOk, Except.toBool]
  | untimed m hr hleft => simp [accepted?_of_verdict hr, Except.isOk, Except.toBool]
  | exhausted c hr hleft => simp [accepted?_of_verdict hr, Except.isOk, Except.toBool]
  | interrupted b c hr hleft => simp [accepted?_of_verdict hr, Except.isOk, Except.toBool]
  | again hr hrest ih => simpa [accepted?_of_verdict hr] using ih

/-- All attempts of a series are made at one write. -/
theorem eq_of_attempted {v : Write} {r : Except Fault (Option Outcome)}
    (h : Series p w made es r) (hv : v ∈ es.filterMap (·.attempted?)) : v = w := by
  induction h with
  | again hr hrest ih =>
    simp only [Event.attempted?, List.filterMap_cons, List.mem_cons] at hv
    rcases hv with rfl | hv
    · rfl
    · exact ih hv
  | _ => simpa [Event.attempted?] using hv

theorem ne_none {r : Except Fault (Option Outcome)} (h : Series p w made es r) :
    r ≠ .ok none := by
  induction h with
  | again hr hrest ih => exact ih
  | _ => simp

end Series

variable {s : Surroundings σ} {p : Policy} {context : Fields} {w : Write} {l l' : Load σ}

/-- An attempt is one request; at most it says something about the result. -/
theorem attempt_cases {r : Except Fault (Except Fault Outcome)}
    (h : exec (attempt s context w) l = (r, l')) :
    ∃ result l₁, exec (Action.write s w) l = (result, l₁) ∧ r = verdict w result ∧
      (l' = l₁ ∨ ∃ said, l' = l₁.record (.logged said)) := by
  rcases hwrite : exec (Action.write s w) l with ⟨f | o, l₁⟩
  · cases hf : f.isRetryable <;>
      simp [attempt, exec_tryCatch, exec_bind, hwrite, hf] at h <;>
      obtain ⟨rfl, rfl⟩ := h <;>
      exact ⟨_, _, rfl, by simp [verdict, hf], Or.inl rfl⟩
  · cases ho : o.ok with
    | false =>
      simp only [attempt, exec_tryCatch, exec_bind, hwrite, ho, Bool.false_eq_true, if_false,
        exec_log] at h
      obtain ⟨rfl, rfl⟩ := h
      exact ⟨_, _, rfl, by simp [verdict, ho], Or.inr ⟨_, rfl⟩⟩
    | true =>
      by_cases hserver : o.server.any (!·.isEmpty) <;>
        simp [attempt, exec_tryCatch, exec_bind, hwrite, ho, hserver] at h <;>
        obtain ⟨rfl, rfl⟩ := h
      · exact ⟨_, _, rfl, by simp [verdict, ho], Or.inr ⟨_, rfl⟩⟩
      · exact ⟨_, _, rfl, by simp [verdict, ho], Or.inl rfl⟩

theorem attempt_passes {r : Except Fault (Except Fault Outcome)}
    (h : exec (attempt s context w) l = (r, l')) :
    ∃ result, result = (s.write w l.surroundings).result ∧ r = verdict w result ∧
      l.Passes s [.wrote w result] l' ∧ l'.surroundings = (s.write w l.surroundings).state := by
  obtain ⟨result, l₁, hwrite, hverdict, hsaid⟩ := attempt_cases h
  obtain ⟨hresult, hpass⟩ := write_passes hwrite
  have hstate : (exec (Action.write s w) l).2.surroundings = (s.write w l.surroundings).state :=
    surroundings_receive (s.write w) (.wrote w) l
  rw [hwrite] at hstate
  refine ⟨result, hresult, hverdict, ?_⟩
  rcases hsaid with rfl | ⟨said, rfl⟩
  · exact ⟨hpass, hstate⟩
  · exact ⟨by simpa using hpass.trans (Load.passes_remark s l₁ rfl), hstate⟩

theorem pause_passes {made : Nat} {f : Fault} {r : Except Fault Unit}
    (h : exec (pause s p context w made f) l = (r, l')) :
    ((made : Int) ≤ p.retries ∧ r = .ok () ∧ l.Passes s [.slept p.delay] l') ∨
      ((made : Int) ≤ p.retries ∧ (∃ m, r = .error (.ofForeign .overflow m)) ∧
        l.Passes s [] l') ∨
      (p.retries < made ∧ r = .ok () ∧ l' = l) := by
  by_cases hmade : (made : Int) ≤ p.retries
  · by_cases htime : s.canTime p.delay
    · simp only [pause, hmade, if_true, Action.sleep, htime, exec_bind, exec_log, exec_modify,
        Prod.mk.injEq] at h
      obtain ⟨rfl, rfl⟩ := h
      refine Or.inl ⟨hmade, rfl, .intro _ _ (Surroundings.Moves.sleep _ _).reaches ?_⟩
      simp [Load.record, Load.acts, Event.isAct]
    · simp only [pause, hmade, if_true, Action.sleep, htime, Bool.false_eq_true, if_false,
        exec_bind, exec_log, exec_throw, Prod.mk.injEq] at h
      obtain ⟨rfl, rfl⟩ := h
      exact Or.inr (Or.inl ⟨hmade, ⟨_, rfl⟩, Load.passes_remark s l rfl⟩)
  · simp only [pause, hmade, if_false, exec_pure, Prod.mk.injEq] at h
    obtain ⟨rfl, rfl⟩ := h
    exact Or.inr (Or.inr ⟨by omega, rfl, rfl⟩)

/-- What a write comes to that is given up after `made` attempts. -/
def resigns (p : Policy) (w : Write) (made : Nat) (r : Except Fault (Option Outcome)) :
    Option Fault → Prop
  | none => r = .ok none
  | some f => ∃ inTime cancelled : Bool,
      r = .error (.gaveUp w.operation made (inTime && (made : Int) ≤ p.retries) cancelled f)

theorem giveUp_passes {made : Nat} {last : Option Fault} {r : Except Fault (Option Outcome)}
    (h : exec (giveUp s p context w made last) l = (r, l')) :
    resigns p w made r last ∧ l.Passes s [] l' := by
  cases last with
  | none =>
    simp only [giveUp, exec_pure, Prod.mk.injEq] at h
    obtain ⟨rfl, rfl⟩ := h
    exact ⟨rfl, .refl s l⟩
  | some f =>
    simp only [giveUp, exec_bind, exec_isCancelled, exec_log, exec_throw, Prod.mk.injEq] at h
    obtain ⟨rfl, rfl⟩ := h
    refine ⟨⟨_, _, rfl⟩, .intro _ _ ?_ (by simp [Load.record, Load.acts, Event.isAct])⟩
    exact ((Surroundings.Moves.cancelled _).reaches.trans
      (Surroundings.Moves.cancelled _).reaches).trans (Surroundings.Moves.cancelled _).reaches

/-- The attempts that are left form a series, or the write is given up because none is left or
the wish to cancel is noticed before the next one. -/
theorem attempts_passes {left made : Nat} {last : Option Fault}
    {r : Except Fault (Option Outcome)} (hleft : made + left = p.attempts)
    (h : exec (attempts s p context w left made last) l = (r, l')) :
    (∃ es, Series p w made es r ∧ l.Passes s es l') ∨
      (resigns p w made r last ∧ l.Passes s [] l' ∧
        (left = 0 ∨ s.Heeds l.surroundings l'.surroundings)) := by
  induction left generalizing made last l with
  | zero =>
    obtain ⟨hresigns, hpass⟩ := giveUp_passes h
    exact Or.inr ⟨hresigns, hpass, Or.inl rfl⟩
  | succ left ih =>
    simp only [attempts, exec_bind, exec_isCancelled] at h
    have hask := Load.passes_move s l (Surroundings.Moves.cancelled l.surroundings)
    cases hcancelled : (s.cancelled l.surroundings).1 with
    | true =>
      simp only [hcancelled, if_true] at h
      obtain ⟨hresigns, hpass⟩ := giveUp_passes h
      refine Or.inr ⟨hresigns, by simpa using hask.trans hpass, Or.inr ?_⟩
      exact ⟨hcancelled, hpass.moved⟩
    | false =>
      simp only [hcancelled, Bool.false_eq_true, if_false, exec_bind] at h
      left
      rcases hattempt : exec (attempt s context w)
        { l with surroundings := (s.cancelled l.surroundings).2 } with ⟨r₁, l₁⟩
      obtain ⟨result, -, rfl, hwrote, -⟩ := attempt_passes hattempt
      replace hwrote : l.Passes s [.wrote w result] l₁ := by simpa using hask.trans hwrote
      rw [hattempt] at h
      rcases hverdict : verdict w result with f | (f | o)
      · obtain ⟨rfl, hf⟩ := eq_error_of_verdict hverdict
        simp only [hverdict, Prod.mk.injEq] at h
        obtain ⟨rfl, rfl⟩ := h
        exact ⟨_, .broken hf, hwrote⟩
      · rcases hpause : exec (pause s p context w (made + 1) f) l₁ with ⟨r₂, l₂⟩
        simp only [hverdict, exec_bind, hpause] at h
        rcases pause_passes hpause with ⟨hmade, rfl, hslept⟩ | ⟨hmade, ⟨m, rfl⟩, hslept⟩ |
          ⟨hmade, rfl, rfl⟩
        · -- After the pause, what is left is a series again unless the wish is noticed.
          have hmore : made + 1 < p.attempts := by
            unfold Policy.attempts
            omega
          rcases ih (by omega) h with ⟨es, hseries, hpass⟩ | ⟨⟨b, c, rfl⟩, hpass, -⟩
          · exact ⟨_, .again hverdict hseries, by simpa using hwrote.trans (hslept.trans hpass)⟩
          · exact ⟨_, .interrupted _ _ hverdict hmore,
              by simpa using hwrote.trans (hslept.trans hpass)⟩
        · have hmore : made + 1 < p.attempts := by
            unfold Policy.attempts
            omega
          simp only [Prod.mk.injEq] at h
          obtain ⟨rfl, rfl⟩ := h
          exact ⟨_, .untimed m hverdict hmore, by simpa using hwrote.trans hslept⟩
        · -- The last attempt is followed by no pause.
          have hlast : left = 0 ∧ made + 1 = p.attempts := by
            unfold Policy.attempts at hleft ⊢
            omega
          obtain ⟨rfl, hlast⟩ := hlast
          obtain ⟨⟨b, c, rfl⟩, hpass⟩ := giveUp_passes h
          have hlate : ¬ (made : Int) + 1 ≤ p.retries := by omega
          refine ⟨_, ?_, by simpa using hwrote.trans hpass⟩
          simpa [hlate] using Series.exhausted (p := p) c hverdict hlast
      · obtain ⟨rfl, ho⟩ := eq_ok_of_verdict hverdict
        simp only [hverdict, exec_pure, Prod.mk.injEq] at h
        obtain ⟨rfl, rfl⟩ := h
        exact ⟨_, .accepted ho, hwrote⟩

/-- A write is not attempted at all only if the wish to cancel is noticed first. -/
theorem write_passes {r : Except Fault (Option Outcome)} (hp : 0 < p.attempts)
    (h : exec (write s p context w) l = (r, l')) :
    (∃ es, Series p w 0 es r ∧ l.Passes s es l') ∨
      (r = .ok none ∧ l.Passes s [] l' ∧ s.Heeds l.surroundings l'.surroundings) := by
  rcases attempts_passes (by omega) h with hseries | ⟨hresigns, hpass, hnone | hheeds⟩
  · exact Or.inl hseries
  · omega
  · exact Or.inr ⟨hresigns, hpass, hheeds⟩

end RowIngest.Retry
