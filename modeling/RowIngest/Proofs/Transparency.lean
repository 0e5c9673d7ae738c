import RowIngest.Proofs.Companions
import RowIngest.Proofs.Rehearsing
import RowIngest.Run.Clock
/-!
Failed attempts that are overcome leave no trace but themselves. Main statement: a load whose store
fails writes no more often in a row than they are tried again comes to what the same load comes to
with a store that accepts every write at once, provided that the clock can time its pauses.
-/
namespace RowIngest

open RowIngest.Action

variable {σ₁ σ₂ : Type} {delay : Binary64} {l₁ : Load σ₁} {l₂ : Load σ₂}

/-- What the second load has done is what the first one has done, but for failed attempts, each of
which was followed by a pause of this length. -/
structure Overcomes (delay : Binary64) (l₁ : Load σ₁) (l₂ : Load σ₂) : Prop where
  stats : l₂.stats = l₁.stats
  rowsProcessed : l₂.rowsProcessed = l₁.rowsProcessed
  complete : l₂.complete = l₁.complete
  accepted : l₂.accepted = l₁.accepted
  dealings : l₂.dealings = l₁.dealings
  unpaused : l₁.pauses = []
  pauses : l₂.pauses = List.replicate l₂.failures.length delay
  retried : Retried delay l₁.acts l₂.acts

theorem Alike.overcomes {R : σ₁ → σ₂ → Prop} (h : Alike R delay l₁ l₂) :
    Overcomes delay l₁ l₂ where
  stats := h.read fun _ _ _ => rfl
  rowsProcessed := h.read fun _ _ _ => rfl
  complete := h.read fun _ _ _ => rfl
  accepted := by rw [Load.accepted_eq, Load.accepted_eq, h.acts.accepted_eq]
  dealings := h.acts.dealings_eq
  unpaused := h.acts.unpaused
  pauses := h.acts.pauses_eq
  retried := h.acts

namespace Rehearsal.ScriptedStore

/-- No more than `k` attempts fail before the first one that does not, and none of the later ones
has more than `most` failed ones right before it. -/
def Spaced (most : Nat) : Nat → List WriteCue → Prop
  | _, [] => True
  | k, cue :: rest => cue.cancels = false ∧
      ((∃ o, cue.result = .ok o ∧ o.ok = true) ∧ Spaced most most rest ∨
        ∃ j, k = j + 1 ∧ Retry.Fails cue.result ∧ Spaced most j rest)

/-- Two stores that differ by a script of failed writes. Nobody asks for a load to stop. -/
structure Lags (most k : Nat) (x y : ScriptedStore) : Prop where
  failures : y.failures = x.failures
  documents : y.documents = x.documents
  willing : ∀ w : Write, Fields.get? x.failures w.operation.name = none
  unscripted : x.script = []
  unasked : x.interruption.cancelled = false ∧ y.interruption.cancelled = false
  awaited : x.giveUpNotice = none ∧ y.giveUpNotice = none
  uninterrupted : y.interruption.cancelAtPause = none
  spaced : Spaced most k y.script

section

variable {most k : Nat} {s x y : ScriptedStore} {w : Write} {r : Except Fault Outcome}

theorem write_of_willing (hwilling : Fields.get? s.failures w.operation.name = none)
    (hcancels : (s.script.head?.getD defaultCue).cancels = false) :
    write w s = ⟨(s.script.head?.getD defaultCue).result,
      { s with script := s.script.tail }.keep w (s.script.head?.getD defaultCue).result, []⟩ := by
  simp [write, unlessFailing, hwilling, hcancels]

theorem keep_of_fails (h : Retry.Fails r) : s.keep w r = s := by
  unfold keep
  split
  · rename_i documents outcome
    have hok : outcome.ok = false := h
    simp [hok]
  · rfl

theorem Lags.keep (h : Lags most k x y) {o o' : Outcome} (ho : o.ok = true) (ho' : o'.ok = true) :
    Lags most k (x.keep w (.ok o)) (y.keep w (.ok o')) := by
  cases w with
  | insertMany documents =>
    simp only [ScriptedStore.keep, ho, ho', if_true]
    exact { h with documents := congrArg (· ++ documents) h.documents }
  | _ => exact h

/-- A store without a script accepts every write. -/
theorem write_of_unscripted (hscript : s.script = [])
    (hwilling : Fields.get? s.failures w.operation.name = none) :
    write w s = ⟨defaultCue.result, s.keep w defaultCue.result, []⟩ := by
  obtain ⟨script, failures, documents, interruption, notice, abandoned⟩ := s
  obtain rfl : script = [] := hscript
  exact write_of_willing hwilling rfl

theorem write_of_scripted {cue : WriteCue} {rest : List WriteCue} (hscript : s.script = cue :: rest)
    (hwilling : Fields.get? s.failures w.operation.name = none) (hcancels : cue.cancels = false) :
    write w s = ⟨cue.result, { s with script := rest }.keep w cue.result, []⟩ := by
  have hwrite := write_of_willing hwilling (by rw [hscript]; exact hcancels)
  rwa [hscript] at hwrite

/-- The next write is accepted by both stores, or the script has it fail once more. -/
theorem Lags.write (h : Lags most k x y) (w : Write) :
    (∃ o, (write w y).result = .ok o ∧ o.ok = true ∧
      Lags most most (write w x).state (write w y).state) ∨
    ∃ j, k = j + 1 ∧ Retry.Fails (write w y).result ∧ Lags most j x (write w y).state := by
  have hwilling : Fields.get? y.failures w.operation.name = none := h.failures ▸ h.willing w
  rw [write_of_unscripted h.unscripted (h.willing w)]
  rcases hscript : y.script with _ | ⟨cue, rest⟩
  · left
    have hlags : Lags most most x y := { h with spaced := by rw [hscript]; trivial }
    rw [write_of_unscripted hscript hwilling]
    exact ⟨_, rfl, rfl, hlags.keep rfl rfl⟩
  · have hspaced := h.spaced
    rw [hscript] at hspaced
    obtain ⟨hcancels, ⟨⟨o, ho, hok⟩, hspaced⟩ | ⟨j, hj, hfails, hspaced⟩⟩ := hspaced
    · left
      have hlags : Lags most most x { y with script := rest } := { h with spaced := hspaced }
      rw [write_of_scripted hscript hwilling hcancels, ho]
      exact ⟨o, rfl, hok, hlags.keep rfl hok⟩
    · right
      rw [write_of_scripted hscript hwilling hcancels, keep_of_fails hfails]
      exact ⟨j, hj, hfails, { h with spaced := hspaced }⟩

theorem Lags.unlessFailing {α : Type} (h : Lags most most x y) (name : String)
    (answer : Except Fault α) {x' y' : ScriptedStore} (hafter : Lags most most x' y') :
    (x.unlessFailing name (answer, x')).result = (y.unlessFailing name (answer, y')).result ∧
      Lags most most (x.unlessFailing name (answer, x')).state
        (y.unlessFailing name (answer, y')).state := by
  unfold ScriptedStore.unlessFailing
  rw [h.failures]
  cases Fields.get? x.failures name with
  | some f => exact ⟨rfl, h⟩
  | none => exact ⟨rfl, hafter⟩

theorem giveUp_of_awaited (h : s.giveUpNotice = none) : s.giveUp = (s, []) := by
  simp [giveUp, h]

end

/-- A store with such a script hesitates, beside one without a script. -/
theorem hesitates (acceptsArrays : Bool) (canTime : Binary64 → Bool) (most : Nat) :
    Hesitates (surroundings acceptsArrays) { surroundings acceptsArrays with canTime } most
      (Lags most) where
  arrays := rfl
  room := rfl
  uncancelled h := ⟨h.unasked.1, h, h.unasked.2, h⟩
  accepts {k x y} w h := by
    change ∃ o, (write w x).result = .ok o ∧ o.ok = true
    rw [write_of_unscripted h.unscripted (h.willing w)]
    exact ⟨_, rfl, rfl⟩
  write w h := h.write w
  sleep {k x y} delay h := by
    refine { h with unasked := ⟨h.unasked.1, ?_⟩ }
    simp [surroundings, Interruption.afterPause, h.unasked.2, h.uninterrupted]
  command {x y} c h := by
    cases c with
    | ensureCollection =>
      have hensured := h.unlessFailing Command.ensureCollection.name (.ok ()) h
      simpa [surroundings, command, giveUp_of_awaited h.awaited.1, giveUp_of_awaited h.awaited.2]
        using hensured
    | drop => exact h.unlessFailing _ _ { h with documents := rfl }
    | dropIndex keys => exact h.unlessFailing _ _ h
    | close => exact h.unlessFailing _ _ h
  createIndex q h := h.unlessFailing _ _ h

end Rehearsal.ScriptedStore

namespace Loader

/-- Two runs of one configuration come to the same result or fault, and do the same, if one store
is calm and the other one fails writes no more often in a row than they are tried again. -/
theorem run_overcomes {calm : Surroundings σ₁} {hesitant : Surroundings σ₂} {most : Nat}
    {R : Nat → σ₁ → σ₂ → Prop} (h : Hesitates calm hesitant most R) {c : LoadConfig}
    (hmost : most ≤ c.retries) (htime : hesitant.canTime c.retryDelay = true) {x : σ₁} {y : σ₂}
    (hxy : R most x y) (rows : List Value) (ownScope : Bool) :
    (exec (run ⟨c, hesitant, ownScope⟩) (Load.begin y rows)).1 =
        (exec (run ⟨c, calm, ownScope⟩) (Load.begin x rows)).1 ∧
      Overcomes c.retryDelay (exec (run ⟨c, calm, ownScope⟩) (Load.begin x rows)).2
        (exec (run ⟨c, hesitant, ownScope⟩) (Load.begin y rows)).2 := by
  obtain ⟨hagree, halike⟩ :=
    run_alongside h hmost htime ownScope (Load.begin x rows) (Load.begin y rows)
      (Alike.begin hxy rows)
  exact ⟨hagree.eq.symm, halike.overcomes⟩

open Rehearsal

/-- The scripted store with a clock for the pauses. -/
def clockedSurroundings : Surroundings ScriptedStore :=
  { ScriptedStore.surroundings false with canTime := Clock.canTime }

/-- A write that fails because the store is busy. -/
def busyCue : WriteCue := ⟨false, .error (.stated .storeWrite "Busy." [])⟩

/-- The first batch fails in both ways before it is accepted, and the second one fails once. -/
def hesitantStore : ScriptedStore :=
  { willingStore with
    script := [busyCue, ⟨false, .ok ⟨false, some "no primary", none⟩⟩, ScriptedStore.defaultCue,
      busyCue] }

theorem hesitantStore_lags : ScriptedStore.Lags 2 2 willingStore hesitantStore where
  failures := rfl
  documents := rfl
  willing _ := rfl
  unscripted := rfl
  unasked := ⟨rfl, rfl⟩
  awaited := ⟨rfl, rfl⟩
  uninterrupted := rfl
  spaced := by
    refine ⟨rfl, .inr ⟨1, rfl, rfl, rfl, .inr ⟨0, rfl, rfl, rfl, .inl ⟨⟨_, rfl, rfl⟩, ?_⟩⟩⟩⟩
    exact ⟨rfl, .inr ⟨1, rfl, rfl, trivial⟩⟩

theorem run_overcomes_three_failures :
    2 ≤ (batchConfig 2).retries ∧ clockedSurroundings.canTime (batchConfig 2).retryDelay = true ∧
    ScriptedStore.Lags 2 2 willingStore hesitantStore ∧
    (exec (run ⟨batchConfig 2, clockedSurroundings, false⟩)
        (Load.begin hesitantStore [numberedRow 1, numberedRow 2, numberedRow 3])).1 =
      (exec (run (batchLoader 2))
        (Load.begin willingStore [numberedRow 1, numberedRow 2, numberedRow 3])).1 ∧
    Overcomes (batchConfig 2).retryDelay
      (exec (run (batchLoader 2))
        (Load.begin willingStore [numberedRow 1, numberedRow 2, numberedRow 3])).2
      (exec (run ⟨batchConfig 2, clockedSurroundings, false⟩)
        (Load.begin hesitantStore [numberedRow 1, numberedRow 2, numberedRow 3])).2 := by
  have hhesitates : Hesitates (ScriptedStore.surroundings false) clockedSurroundings 2
      (ScriptedStore.Lags 2) := ScriptedStore.hesitates false Clock.canTime 2
  have htime : clockedSurroundings.canTime (batchConfig 2).retryDelay = true := by decide +kernel
  exact ⟨by decide, htime, hesitantStore_lags,
    run_overcomes hhesitates (by decide) htime hesitantStore_lags _ false⟩

/-- Settings of a load that pauses for centuries before it tries again, once. -/
def patientSettings : Fields :=
  batchSettings 1 ++
    [("write_retries", .int 1), ("write_retry_delay", .float (.ofDecimal false 1 10))]

def patientConfig : LoadConfig :=
  { batchConfig 1 with retries := 1, retryDelay := .ofDecimal false 1 10 }

/-- No clock can time the pause, and so the load fails that would have gone well without. -/
theorem untimed_pause_not_overcome :
    LoadConfig.ofFields patientSettings = .ok patientConfig ∧
    (exec (run ⟨patientConfig, clockedSurroundings, false⟩)
        (Load.begin willingStore [numberedRow 1])).1 = .ok ⟨1, 0, 1, 1, 0⟩ ∧
    (exec (run ⟨patientConfig, clockedSurroundings, false⟩)
        (Load.begin { willingStore with script := [busyCue] } [numberedRow 1])).1 =
      .error (.ofForeign .overflow "timestamp too large to convert to C _PyTime_t") := by
  refine ⟨?_, ?_, ?_⟩
  · rfl
  · exact eq_ok_of_toOption (by decide +kernel)
  · rfl

end Loader

end RowIngest
