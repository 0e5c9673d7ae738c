import RowIngest.Proofs.Handling
import RowIngest.Proofs.Serving
import RowIngest.Proofs.Transparency
import RowIngest.Rehearsal.ScriptedDriver
/-!
Writes that reach their collection through a driver. The writers try a write again by what the
store makes of the driver's answers. Main statement: the driver is called once more exactly if it
has failed, or an update was not applied, and attempts are left; the last answer alone decides what
the write comes to.
-/
namespace RowIngest

open RowIngest.Action

variable {σ : Type}

/-- The write that the driver was called for, if this was such a call. -/
def Event.driven? : Event → Option Write
  | .noted n => n.written?
  | _ => none

namespace Load

/-- The writes that the driver was called for, each as often as it was. -/
def driven (l : Load σ) : List Write := l.history.toList.filterMap (·.driven?)

theorem driven_record {e : Event} (he : e.driven? = none) (l : Load σ) :
    (l.record e).driven = l.driven := by
  simp [driven, he]

end Load

theorem Action.driven_write (s : Surroundings σ) (w : Write) (l : Load σ) :
    (exec (Action.write s w) l).2.driven =
      l.driven ++ (s.write w l.surroundings).notes.filterMap (·.written?) := by
  have hnotes : ∀ notes : List Note,
      (notes.map Event.noted).filterMap (·.driven?) = notes.filterMap (·.written?) := by
    intro notes
    rw [List.filterMap_map]
    rfl
  have hwrote : ∀ r, (Event.wrote w r).driven? = none := fun _ => rfl
  simp [Action.write, receive, exec_bind, Load.driven, hnotes, hwrote]

namespace Retry

variable {s : Surroundings σ} {p : Policy} {context : Fields} {w : Write} {l l' : Load σ}

/-- What is said about an attempt is no call of the driver. -/
theorem driven_attempt {r : Except Fault (Except Fault Outcome)}
    (h : exec (attempt s context w) l = (r, l')) :
    l'.driven = l.driven ++ (s.write w l.surroundings).notes.filterMap (·.written?) := by
  obtain ⟨result, l₁, hwrite, -, hsaid⟩ := attempt_cases h
  have hdriven := driven_write s w l
  rw [hwrite] at hdriven
  rcases hsaid with rfl | ⟨said, rfl⟩
  · exact hdriven
  · rw [Load.driven_record rfl]
    exact hdriven

/-- A pause that can be timed, between two attempts. -/
theorem pause_of_left (context : Fields) (w : Write) {made : Nat} (f : Fault) (l : Load σ)
    (hmade : (made : Int) ≤ p.retries) (htime : s.canTime p.delay = true) :
    ∃ l', exec (pause s p context w made f) l = (.ok (), l') ∧ l'.driven = l.driven ∧
      l'.surroundings = s.sleep p.delay l.surroundings := by
  simp only [pause, hmade, if_true, Action.sleep, htime, exec_bind, exec_log, exec_modify]
  refine ⟨_, rfl, ?_, rfl⟩
  simp [Load.driven, Load.record, Event.driven?]

/-- A write that nobody cancels is given up for the last failure. -/
theorem giveUp_of_uncancelled (p : Policy) (context : Fields) (w : Write) {P : σ → Prop}
    (made : Nat) (f : Fault) (hs : ∀ {x}, P x → (s.cancelled x).1 = false ∧ P (s.cancelled x).2)
    (hl : P l.surroundings) :
    ∃ l', exec (giveUp s p context w made (some f)) l =
      (.error (.gaveUp w.operation made false false f), l') ∧ l'.driven = l.driven := by
  have hsecond := (hs hl).2
  have hthird := (hs hsecond).2
  simp only [giveUp, exec_bind, exec_isCancelled, exec_log, exec_throw, Load.record, hs hl,
    hs hsecond, hs hthird, Bool.false_and]
  refine ⟨_, rfl, ?_⟩
  simp [Load.driven, Event.driven?]

/-- What a write that nobody cancels comes to by the judgement of its last attempt. -/
def ending (operation : Operation) (made : Nat) :
    Except Fault (Except Fault Outcome) → Except Fault (Option Outcome)
  | .ok (.ok o) => .ok (some o)
  | .ok (.error f) => .error (.gaveUp operation made false false f)
  | .error f => .error f

/-- After some earlier calls the driver is called `n` times for a write, and then once more. Each
time it is called again exactly if its answer asks for that and the policy allows it; the last
answer decides what the write comes to. -/
structure Calls (p : Policy) (w : Write) (answers : Nat → Except Fault DriverResult)
    (earlier n : Nat) (r : Except Fault (Option Outcome)) : Prop where
  again : ∀ k ≤ n, (k + 1 ≤ n ↔ Driver.asksAgain w.operation (answers k) = true ∧
    ((earlier + k + 1 : Nat) : Int) ≤ p.retries)
  ended : ∃ v, Driver.Judges w.operation (answers n) v ∧
    r = ending w.operation (earlier + n + 1) v

section

variable {answers : Nat → Except Fault DriverResult} {earlier n : Nat}
  {v : Except Fault (Except Fault Outcome)} {r : Except Fault (Option Outcome)}

theorem Calls.last (hv : Driver.Judges w.operation (answers 0) v)
    (hlast : (∀ f, v ≠ .ok (.error f)) ∨ p.retries < earlier + 1) :
    Calls p w answers earlier 0 (ending w.operation (earlier + 1) v) where
  again k hk := by
    obtain rfl : k = 0 := by omega
    refine ⟨by omega, fun ⟨hagain, hleft⟩ => ?_⟩
    rcases hlast with hlast | hlast
    · obtain ⟨f, hf⟩ := hv.asksAgain_iff.mp hagain
      exact absurd hf (hlast f)
    · omega
  ended := ⟨v, hv, rfl⟩

theorem Calls.next {f : Fault} (hv : Driver.Judges w.operation (answers 0) (.ok (.error f)))
    (hleft : ((earlier + 1 : Nat) : Int) ≤ p.retries)
    (h : Calls p w (fun k => answers (k + 1)) (earlier + 1) n r) :
    Calls p w answers earlier (n + 1) r where
  again k hk := by
    cases k with
    | zero =>
      have hagain := hv.asksAgain_iff.mpr ⟨f, rfl⟩
      exact ⟨fun _ => ⟨hagain, hleft⟩, fun _ => by omega⟩
    | succ k =>
      have hrest := h.again k (by omega)
      rw [show earlier + 1 + k + 1 = earlier + (k + 1) + 1 by omega] at hrest
      rw [← hrest]
      omega
  ended := by
    obtain ⟨v, hjudged, hr⟩ := h.ended
    exact ⟨v, hjudged, by rw [hr, show earlier + 1 + n + 1 = earlier + (n + 1) + 1 by omega]⟩

end

end Retry

namespace Client

/-- The surroundings of a load that writes to a collection through a driver, and pauses by this
clock. -/
def clocked (d : Driver σ) (collection : String) (canTime : Binary64 → Bool) : Surroundings σ :=
  { surroundings d collection with canTime }

end Client

namespace Driver.Plays

open Retry

variable {d : Driver σ} {collection : String} {canTime : Binary64 → Bool} {w : Write}
  {answers : Nat → Except Fault DriverResult} {R : Nat → σ → Prop} {p : Policy}
  {context : Fields} {l l' : Load σ} {r : Except Fault (Option Outcome)} {k : Nat}

theorem attempt (h : d.Plays w answers R) (hl : R k l.surroundings)
    {v : Except Fault (Except Fault Outcome)}
    (hexec : exec (Retry.attempt (Client.clocked d collection canTime) context w) l = (v, l')) :
    Judges w.operation (answers k) v ∧ l'.driven = l.driven ++ [w] ∧
      R (k + 1) l'.surroundings := by
  obtain ⟨result, hresult, rfl, -, hstate⟩ := attempt_passes hexec
  have hdriven := driven_attempt hexec
  obtain ⟨hjudged, hnext, hnotes⟩ := h.reply hl
  rw [hresult, hdriven, hstate]
  exact ⟨hjudged, congrArg _ hnotes, hnext⟩

/-- One attempt calls the driver once. It ends the write, or it fails and there may be more. -/
theorem attempts_succ (h : d.Plays w answers R) (hl : R k l.surroundings) {left earlier : Nat}
    {last : Option Fault}
    (hexec : exec (Retry.attempts (Client.clocked d collection canTime) p context w (left + 1)
      earlier last) l = (r, l')) :
    ∃ v l₁, Judges w.operation (answers k) v ∧ l₁.driven = l.driven ++ [w] ∧
      R (k + 1) l₁.surroundings ∧
      ((∀ f, v ≠ .ok (.error f)) ∧ r = ending w.operation (earlier + 1) v ∧ l' = l₁ ∨
        ∃ f, v = .ok (.error f) ∧
          exec (do
            pause (Client.clocked d collection canTime) p context w (earlier + 1) f
            Retry.attempts (Client.clocked d collection canTime) p context w left (earlier + 1)
              (some f)) l₁ = (r, l')) := by
  have hasked : ((Client.clocked d collection canTime).cancelled l.surroundings).1 = false ∧
      R k ((Client.clocked d collection canTime).cancelled l.surroundings).2 := h.uncancelled hl
  simp only [Retry.attempts, exec_bind, exec_isCancelled, hasked.1, Bool.false_eq_true,
    if_false] at hexec
  rcases hattempt : exec (Retry.attempt (Client.clocked d collection canTime) context w)
    { l with surroundings := ((Client.clocked d collection canTime).cancelled l.surroundings).2 }
    with ⟨v, l₁⟩
  obtain ⟨hjudged, hdriven, hnext⟩ := h.attempt hasked.2 hattempt
  refine ⟨v, l₁, hjudged, hdriven, hnext, ?_⟩
  rw [hattempt] at hexec
  rcases v with f | (f | o)
  · obtain ⟨rfl, rfl⟩ := Prod.mk.inj hexec
    exact Or.inl ⟨by simp, rfl, rfl⟩
  · exact Or.inr ⟨f, rfl, hexec⟩
  · obtain ⟨rfl, rfl⟩ := Prod.mk.inj hexec
    exact Or.inl ⟨by simp, rfl, rfl⟩

/-- The attempts that are left are calls of the driver, by induction on their number. -/
theorem attempts (h : d.Plays w answers R) (htime : canTime p.delay = true) {left earlier : Nat}
    {last : Option Fault} (hl : R k l.surroundings) (hleft : earlier + (left + 1) = p.attempts)
    (hexec : exec (Retry.attempts (Client.clocked d collection canTime) p context w (left + 1)
      earlier last) l = (r, l')) :
    ∃ n, l'.driven = l.driven ++ List.replicate (n + 1) w ∧
      Calls p w (fun i => answers (k + i)) earlier n r := by
  unfold Policy.attempts at hleft
  induction left generalizing k earlier last l with
  | zero =>
    obtain ⟨v, l₁, hjudged, hdriven, hnext, ⟨hlast, rfl, rfl⟩ | ⟨f, rfl, hrest⟩⟩ :=
      h.attempts_succ hl hexec
    · exact ⟨0, hdriven, .last hjudged (Or.inl hlast)⟩
    · obtain ⟨l₂, hgiveUp, hsame⟩ := giveUp_of_uncancelled
        (s := Client.clocked d collection canTime) p context w (earlier + 1) f h.uncancelled hnext
      have hnone : ¬ ((earlier + 1 : Nat) : Int) ≤ p.retries := by omega
      simp only [pause, hnone, if_false, exec_bind, exec_pure, Retry.attempts, hgiveUp,
        Prod.mk.injEq] at hrest
      obtain ⟨rfl, rfl⟩ := hrest
      have hlate : p.retries < earlier + 1 := by omega
      exact ⟨0, by rw [hsame, hdriven]; rfl, .last (v := .ok (.error f)) hjudged (Or.inr hlate)⟩
  | succ left ih =>
    obtain ⟨v, l₁, hjudged, hdriven, hnext, ⟨hlast, rfl, rfl⟩ | ⟨f, rfl, hrest⟩⟩ :=
      h.attempts_succ hl hexec
    · exact ⟨0, hdriven, .last hjudged (Or.inl hlast)⟩
    · have hmore : ((earlier + 1 : Nat) : Int) ≤ p.retries := by omega
      obtain ⟨l₂, hpause, hsame, hslept⟩ := pause_of_left
        (s := Client.clocked d collection canTime) context w f l₁ hmore htime
      rw [exec_bind, hpause] at hrest
      have hstill : R (k + 1) l₂.surroundings := by
        rw [hslept]
        exact h.sleep _ hnext
      obtain ⟨n, hcalls, hrests⟩ := ih hstill (by omega) hrest
      refine ⟨n + 1, ?_, .next hjudged hmore ?_⟩
      · rw [hcalls, hsame, hdriven, List.append_assoc]
        rfl
      · simpa only [Nat.add_assoc, Nat.add_comm 1] using hrests

end Driver.Plays

/-- A writer undertakes a write: it inserts the documents that wait, or it makes the change that a
row stands for. -/
inductive Undertakes (s : Surroundings σ) (p : Retry.Policy) (l : Load σ) :
    Write → Except Fault (Option Outcome) → Load σ → Prop
  | flush {r : Except Fault (Option Outcome)} {l' : Load σ} (hbuffer : l.buffer ≠ [])
      (hexec : exec (Batch.flush s p) l = (r, l')) : Undertakes s p l (.insertMany l.buffer) r l'
  | change {query document : Value} {multi : Bool} {w : Write}
      {r : Except Fault (Option Outcome)} {l' : Load σ}
      (hw : Upsert.choose query document multi = .ok w)
      (hexec : exec (Upsert.write s p query document multi) l = (r, l')) : Undertakes s p l w r l'

namespace Load

theorem driven_credit (l : Load σ) (w : Write) : (l.credit w).driven = l.driven := by
  cases w <;> rfl

theorem stats_credit {l l₁ : Load σ} (h : l₁.stats = l.stats) (w : Write) :
    (l₁.credit w).stats = (l.credit w).stats := by
  simp only [stats, Stats.mk.injEq] at h
  cases w <;> simp [credit, stats, h]

end Load

/-- Neither the attempts at a write nor what is said about them is counted. -/
theorem Retry.stats_of_write {s : Surroundings σ} {p : Policy} {context : Fields} {w : Write}
    {l l' : Load σ} {r : Except Fault (Option Outcome)} (hp : 0 < p.attempts)
    (h : exec (write s p context w) l = (r, l')) : l'.stats = l.stats := by
  rcases write_passes hp h with ⟨es, -, hpass⟩ | ⟨-, hpass, -⟩
  · exact hpass.frame fun _ _ _ => rfl
  · exact hpass.frame fun _ _ _ => rfl

/-- Both writers hand on what the attempts come to, and count the outcome if there is one. -/
theorem Undertakes.attempted {s : Surroundings σ} {p : Retry.Policy} {w : Write} {l l' : Load σ}
    {r : Except Fault (Option Outcome)} (h : Undertakes s p l w r l') (hp : 0 < p.attempts) :
    ∃ context l₀ l₁, exec (Retry.write s p context w) l₀ = (r, l₁) ∧
      l₀.surroundings = l.surroundings ∧ l₀.driven = l.driven ∧ l'.driven = l₁.driven ∧
      ((∀ o, r ≠ .ok (some o)) ∧ l'.stats = l.stats ∨
        (∃ o, r = .ok (some o)) ∧ l'.stats = (l.credit w).stats) := by
  cases h with
  | flush hbuffer hexec =>
    obtain ⟨l₁, hwrite, hcounted⟩ := Batch.flush_cases hbuffer hexec
    have hstats : l₁.stats = l.stats := (Retry.stats_of_write hp hwrite :)
    rcases hcounted with ⟨hnone, rfl⟩ | ⟨o, said, rfl, rfl⟩
    · exact ⟨_, _, _, hwrite, rfl, rfl, rfl, Or.inl ⟨hnone, hstats⟩⟩
    · refine ⟨_, _, _, hwrite, rfl, rfl, ?_, Or.inr ⟨⟨o, rfl⟩, Load.stats_credit hstats _⟩⟩
      rw [Load.driven_record rfl, Load.driven_credit]
  | change hw hexec =>
    obtain ⟨l₁, hwrite, hcounted⟩ := Upsert.write_cases hw hexec
    have hstats : l₁.stats = l.stats := Retry.stats_of_write hp hwrite
    rcases hcounted with ⟨hnone, rfl⟩ | ⟨o, rfl, rfl⟩
    · exact ⟨_, _, _, hwrite, rfl, rfl, rfl, Or.inl ⟨hnone, hstats⟩⟩
    · exact ⟨_, _, _, hwrite, rfl, rfl, Load.driven_credit _ _,
        Or.inr ⟨⟨o, rfl⟩, Load.stats_credit hstats _⟩⟩

theorem Retry.Calls.ne_none {p : Policy} {w : Write} {answers : Nat → Except Fault DriverResult}
    {earlier n : Nat} {r : Except Fault (Option Outcome)} (h : Calls p w answers earlier n r) :
    r ≠ .ok none := by
  obtain ⟨v, -, rfl⟩ := h.ended
  rcases v with f | (f | o) <;> nofun

namespace Rehearsal

namespace ScriptedDriver

/-- The answers to the calls of a scripted driver that is asked for nothing but one write. -/
def answers (cues : List CallCue) (k : Nat) : Except Fault DriverResult :=
  writeResult ((cues.drop k).head?.getD defaultCue)

/-- The states of a scripted driver of which `k` items have been taken. -/
structure Follows (cues : List CallCue) (k : Nat) (x : ScriptedDriver) : Prop where
  script : x.script = cues.drop k
  address : x.address = .ok (some defaultAddress)
  uncancelled : x.interruption.cancelled = false
  uninterrupted : x.interruption.cancelAtPause = none

/-- A scripted driver plays its script. -/
theorem plays (cues : List CallCue) (hcues : ∀ result, .writes result ∈ cues → result.Legible)
    (w : Write) : driver.Plays w (answers cues) (Follows cues) where
  legible k result hanswer := by
    unfold answers at hanswer
    rcases hcue : (cues.drop k).head?.getD defaultCue with f | v | told <;> rw [hcue] at hanswer
    · cases hanswer
    · cases hanswer
    · obtain rfl : told = result := Except.ok.inj hanswer
      rcases hhead : (cues.drop k).head? with _ | cue <;> rw [hhead] at hcue
      · obtain rfl := CallCue.writes.inj hcue
        exact fun _ => Or.inr ⟨_, rfl, Or.inl rfl⟩
      · obtain rfl : cue = .writes told := hcue
        exact hcues told (List.mem_of_mem_drop (List.mem_of_head? hhead))
  write {k x} h := by
    refine ⟨?_, ?_, h.address, h.uncancelled, h.uninterrupted⟩
    · simp only [driver, answer, answers, h.script]
      rcases (cues.drop k).head?.getD defaultCue with f | v | told <;> rfl
    · simp [driver, answer, h.script]
  address {k x} h := by
    refine ⟨fun f hf => ?_, h⟩
    rw [show (driver.address x).1 = x.address from rfl, h.address] at hf
    cases hf
  uncancelled h := ⟨h.uncancelled, h⟩
  sleep {k x} delay h := by
    refine ⟨h.script, h.address, ?_, h.uninterrupted⟩
    simp [driver, Interruption.afterPause, h.uncancelled, h.uninterrupted]

/-- A driver with this script, which nobody cancels. -/
def following (cues : List CallCue) : ScriptedDriver :=
  ⟨cues, [], .ok (some defaultAddress), .none⟩

theorem follows_following (cues : List CallCue) : Follows cues 0 (following cues) :=
  ⟨rfl, rfl, rfl, rfl⟩

/-- The driver loses its connection. -/
def lostCue : CallCue := .fails (.foreign ⟨.driver .autoReconnect, "connection lost"⟩)

/-- The driver loses its connection, then the server does not apply an update, then it does. -/
def reluctantCues : List CallCue :=
  [lostCue, .writes ⟨true, .obj [("ok", .int 0), ("errmsg", .str "no primary")]⟩,
    .writes ⟨true, .obj [("ok", .int 1)]⟩]

theorem reluctantCues_legible :
    ∀ result, .writes result ∈ reluctantCues → result.Legible := by
  intro result hmem hacknowledged
  simp only [reluctantCues, lostCue, List.mem_cons, List.not_mem_nil, CallCue.writes.injEq,
    reduceCtorEq, false_or, or_false] at hmem
  rcases hmem with rfl | rfl
  · exact Or.inr ⟨_, rfl, Or.inr (Or.inr ⟨_, rfl⟩)⟩
  · exact Or.inr ⟨_, rfl, Or.inl rfl⟩

end ScriptedDriver

/-- The update of one document. -/
def naming : Write :=
  .updateOne (.obj [("id", .int 1)]) (.obj [("$set", .obj [("name", .str "Ada")])]) true

end Rehearsal

namespace Client

open Rehearsal

variable {d : Driver σ} {collection : String} {canTime : Binary64 → Bool} {p : Retry.Policy}
  {w : Write} {answers : Nat → Except Fault DriverResult} {R : Nat → σ → Prop} {l l' : Load σ}
  {r : Except Fault (Option Outcome)}

/-- A write makes the driver's calls: the first one, and then one more exactly after each answer
that asks for it, as long as the policy allows it. The last answer decides what the write comes to,
and the write is counted once if the driver has completed it. -/
theorem calls_of_undertakes (hplays : d.Plays w answers R) (hbegin : R 0 l.surroundings)
    (hretries : 0 ≤ p.retries) (htime : canTime p.delay = true)
    (h : Undertakes (clocked d collection canTime) p l w r l') :
    ∃ n, l'.driven = l.driven ++ List.replicate (n + 1) w ∧ Retry.Calls p w answers 0 n r ∧
      l'.stats = if r.isOk then (l.credit w).stats else l.stats := by
  have hattempts : 0 + (p.retries.toNat + 1) = p.attempts := by
    unfold Retry.Policy.attempts
    omega
  obtain ⟨context, l₀, l₁, hexec, hsurroundings, hbefore, hafter, hcounted⟩ :=
    h.attempted (by omega)
  rw [Retry.write, ← hattempts, Nat.zero_add] at hexec
  rw [← hsurroundings] at hbegin
  obtain ⟨n, hdriven, hcalls⟩ := hplays.attempts htime hbegin hattempts hexec
  simp only [Nat.zero_add] at hcalls
  refine ⟨n, by rw [hafter, hdriven, hbefore], hcalls, ?_⟩
  rcases hcounted with ⟨hnone, hstats⟩ | ⟨⟨o, rfl⟩, hstats⟩
  · rcases r with f | (_ | o)
    · exact hstats
    · exact absurd rfl hcalls.ne_none
    · exact absurd rfl (hnone o)
  · exact hstats

/-- An update that is accepted in the third attempt. -/
theorem calls_of_undertakes_three_times :
    ScriptedDriver.driver.Plays naming (ScriptedDriver.answers ScriptedDriver.reluctantCues)
      (ScriptedDriver.Follows ScriptedDriver.reluctantCues) ∧
    ScriptedDriver.Follows ScriptedDriver.reluctantCues 0
      (ScriptedDriver.following ScriptedDriver.reluctantCues) ∧
    (0 : Int) ≤ 2 ∧ Clock.canTime .zero = true ∧
    ∃ r l', Undertakes (clocked ScriptedDriver.driver "orders" Clock.canTime) ⟨2, .zero⟩
        (Load.begin (ScriptedDriver.following ScriptedDriver.reluctantCues) []) naming r l' ∧
      (∃ o, r = .ok (some o)) ∧ l'.driven = [naming, naming, naming] ∧
      l'.stats = ⟨0, 0, 0, 0, 1⟩ := by
  have hplays := ScriptedDriver.plays ScriptedDriver.reluctantCues
    ScriptedDriver.reluctantCues_legible naming
  have hfollows := ScriptedDriver.follows_following ScriptedDriver.reluctantCues
  rcases hexec : exec (Upsert.write (clocked ScriptedDriver.driver "orders" Clock.canTime)
    ⟨2, .zero⟩ (.obj [("id", .int 1)]) (.obj [("$set", .obj [("name", .str "Ada")])]) false)
    (Load.begin (ScriptedDriver.following ScriptedDriver.reluctantCues) []) with ⟨r, l'⟩
  have hdue : Undertakes (clocked ScriptedDriver.driver "orders" Clock.canTime) ⟨2, .zero⟩
      (Load.begin (ScriptedDriver.following ScriptedDriver.reluctantCues) []) naming r l' :=
    .change (by with_unfolding_all rfl) hexec
  have htime : Clock.canTime (⟨2, .zero⟩ : Retry.Policy).delay = true := Clock.canTime_zero
  obtain ⟨n, hdriven, hcalls, hstats⟩ :=
    calls_of_undertakes hplays hfollows (by decide) htime hdue
  have hfirst := (hcalls.again 0 (Nat.zero_le n)).mpr ⟨rfl, by decide⟩
  have hsecond := (hcalls.again 1 hfirst).mpr ⟨rfl, by decide⟩
  obtain rfl : n = 2 := by
    refine Nat.le_antisymm (Nat.le_of_not_lt fun hthird => ?_) hsecond
    cases ((hcalls.again 2 hsecond).mp hthird).1
  obtain ⟨v, hjudged, rfl⟩ := hcalls.ended
  cases hjudged with
  | completed hdone ho =>
    exact ⟨hplays, hfollows, by decide, Clock.canTime_zero, _, l', hdue, ⟨_, rfl⟩, hdriven,
      hstats⟩
  | unapplied hdone => cases hdone

/-- A pause that no clock can time keeps the driver from being called again, and a fault that is a
failed write already has it called again. -/
theorem untimed_pause_and_stated_failure :
    LoadConfig.ofFields Loader.patientSettings = .ok Loader.patientConfig ∧
    (1 : Int) ≤ Loader.patientConfig.policy.retries ∧
    ScriptedDriver.answers [ScriptedDriver.lostCue] 0 =
      .error (.foreign ⟨.driver .autoReconnect, "connection lost"⟩) ∧
    (exec (Batch.flush (clocked ScriptedDriver.driver "orders" Clock.canTime)
        Loader.patientConfig.policy)
      { Load.begin (ScriptedDriver.following [ScriptedDriver.lostCue]) [] with
        buffer := [numberedRow 1] }).2.driven = [.insertMany [numberedRow 1]] ∧
    (exec (Batch.flush (surroundings ScriptedDriver.driver "orders") ⟨1, .zero⟩)
      { Load.begin (ScriptedDriver.following [.fails (.stated .storeWrite "busy" [])]) [] with
        buffer := [numberedRow 1] }).2.driven =
      [.insertMany [numberedRow 1], .insertMany [numberedRow 1]] := by
  refine ⟨rfl, by decide, rfl, ?_, ?_⟩
  · rfl
  · rfl

end Client

end RowIngest
