import RowIngest.Proofs.Rehearsing
import RowIngest.Proofs.Turns
/-!
The fault that a failing step ends a load with. The load is over, and its store is asked to close,
before anyone hears of the fault. Main statements: the caller of the load, and of its run, is told
the fault of the step itself if the closing succeeds; and if the closing fails as well, it is the
fault of the closing that the caller is told, in place of the one that led to it.
-/
namespace RowIngest

open RowIngest.Action RowIngest.Rehearsal

variable {σ : Type} {p : Loader σ} {l l' : Load σ}

namespace Rehearsal

/-- What a store says that cannot be reached. -/
def noPrimary : Fault := .stated .store "no primary" []

/-- What a store says that cannot be closed. -/
def notClosed : Fault := .foreign ⟨.runtime, "not closed"⟩

/-- A store that takes no documents. -/
def deadStore : ScriptedStore := { willingStore with failures := [("insert_many", noPrimary)] }

/-- A store that can be neither prepared nor closed. -/
def brokenStore : ScriptedStore :=
  { willingStore with failures := [("ensure_collection", noPrimary), ("close", notClosed)] }

end Rehearsal

/-- A turn whose step fails closes the store last, and answers for both. -/
theorem Turn.of_error {f : Fault} {r : Except Fault Bool} {es : List Event}
    (h : Turn p l l' (.error f) r es) :
    ∃ before closed, es = before ++ [.commanded .close closed] ∧
      (∀ e ∈ before, e.isClose = false) ∧ r = closed.bind fun _ => .error f := by
  have hserves : ∀ {pulled : Option Value} {es : List Event}, Serves es →
      ∀ e ∈ Event.pulled pulled :: es, e.isClose = false := fun hes e he => by
    rcases List.mem_cons.mp he with rfl | he
    · rfl
    · exact Event.isClose_of_isService (hes e he)
  generalize hs : Except.error f = s at h
  cases h with
  | @stopped closed =>
    cases closed with
    | error g =>
      obtain rfl := Except.error.inj hs
      exact ⟨[], .error f, rfl, by simp, rfl⟩
    | ok u => cases hs
  | taken _ _ _ _ => cases hs
  | broken _ _ _ hes =>
    obtain rfl := Except.error.inj hs
    exact ⟨_, _, rfl, hserves hes, rfl⟩
  | ended _ _ _ _ _ => cases hs
  | unended _ _ _ hes =>
    obtain rfl := Except.error.inj hs
    exact ⟨_, _, rfl, hserves hes, rfl⟩

namespace Loader

/-- Whatever a step fails with, the load is over and the store has been asked to close when the
caller is told. The caller is told what the step failed with, unless the closing fails. -/
theorem run_surfaces (p : Loader σ) (x : σ) (rows : List Value) (n : Nat) {f : Fault}
    (hrunning : (p.after (Load.begin x rows) n).phase ≠ .terminated)
    (hraised : p.stepped (p.after (Load.begin x rows) n) = .error f) :
    (p.after (Load.begin x rows) (n + 1)).phase = .terminated ∧
    ∃ before closed,
      (p.after (Load.begin x rows) (n + 1)).acts =
        (p.after (Load.begin x rows) n).acts ++ (before ++ [.commanded .close closed]) ∧
      (∀ e ∈ before, e.isClose = false) ∧
      (closed = .ok () → p.answer (Load.begin x rows) n = .error f ∧
        (exec (run p) (Load.begin x rows)).1 = .error f) ∧
      ∀ g, closed = .error g → p.answer (Load.begin x rows) n = .error g ∧
        (exec (run p) (Load.begin x rows)).1 = .error g := by
  obtain ⟨es, hacts, hturn⟩ := advance_turn (p := p) hrunning rfl
  rw [hraised] at hturn
  obtain ⟨before, closed, rfl, hbefore, hanswer⟩ := hturn.of_error
  have hanswered : p.answer (Load.begin x rows) n = closed.bind fun _ => .error f := hanswer
  have hlast : p.answer (Load.begin x rows) n ≠ .ok true := by
    rw [hanswered]
    cases closed <;> simp [Except.bind]
  have hrun := run_of_last (true_of_running hrunning) hlast
  rw [hrun, hanswered]
  refine ⟨terminated_of_ne_true (p.after_advances _ n) hlast, before, closed, hacts, hbefore,
    ?_, ?_⟩
  · rintro rfl
    exact ⟨rfl, rfl⟩
  · rintro g rfl
    exact ⟨rfl, rfl⟩

/-- A write that the store raises for. -/
theorem run_surfaces_failed_write :
    ((batchLoader 1).after (Load.begin deadStore [numberedRow 1]) 0).phase ≠ .terminated ∧
    (batchLoader 1).stepped ((batchLoader 1).after (Load.begin deadStore [numberedRow 1]) 0) =
      .error noPrimary ∧
    ((batchLoader 1).after (Load.begin deadStore [numberedRow 1]) 1).phase = .terminated ∧
    (batchLoader 1).answer (Load.begin deadStore [numberedRow 1]) 0 = .error noPrimary ∧
    (exec (run (batchLoader 1)) (Load.begin deadStore [numberedRow 1])).1 = .error noPrimary := by
  have hrunning :
      ((batchLoader 1).after (Load.begin deadStore [numberedRow 1]) 0).phase ≠ .terminated :=
    nofun
  have hraised :
      (batchLoader 1).stepped ((batchLoader 1).after (Load.begin deadStore [numberedRow 1]) 0) =
        .error noPrimary := by
    with_unfolding_all rfl
  have hacts : ((batchLoader 1).after (Load.begin deadStore [numberedRow 1]) 1).acts.getLast? =
      some (.commanded .close (.ok ())) := by
    with_unfolding_all rfl
  obtain ⟨hphase, before, closed, hall, -, hsurfaced, -⟩ :=
    run_surfaces (batchLoader 1) deadStore [numberedRow 1] 0 hrunning hraised
  rw [hall, ← List.append_assoc, List.getLast?_concat, Option.some.injEq] at hacts
  obtain ⟨-, rfl⟩ := Event.commanded.inj hacts
  obtain ⟨hanswer, hrun⟩ := hsurfaced rfl
  exact ⟨hrunning, hraised, hphase, hanswer, hrun⟩

/-- The collection cannot be made sure of, and the store cannot be closed either. -/
theorem close_failure_surfaces :
    LoadConfig.ofFields (batchSettings 1) = .ok (batchLoader 1).config ∧
    (batchLoader 1).stepped (Load.begin brokenStore [numberedRow 1]) = .error noPrimary ∧
    (exec (advance (batchLoader 1)) (Load.begin brokenStore [numberedRow 1])).1 =
      .error notClosed ∧
    (exec (run (batchLoader 1)) (Load.begin brokenStore [numberedRow 1])).1 = .error notClosed ∧
    noPrimary ≠ notClosed := by
  refine ⟨rfl, ?_, ?_, ?_, nofun⟩
  · with_unfolding_all rfl
  · with_unfolding_all rfl
  · with_unfolding_all rfl

end Loader

end RowIngest
