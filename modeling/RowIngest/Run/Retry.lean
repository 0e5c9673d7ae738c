import RowIngest.Run.Load
/-!
Writes that are tried again. A write is attempted until it succeeds, but no more often than
the policy allows and not once the load is cancelled; between attempts there is a pause of
fixed length. A failed attempt is one that the store reports as failed, in either of its two
ways. Any other fault ends the write at once.
-/
namespace RowIngest

namespace Retry

structure Policy where
  /-- Attempts after the first one. -/
  retries : Int
  delay : Binary64

/-- How many attempts a policy allows. -/
def Policy.attempts (p : Policy) : Nat := (p.retries + 1).toNat

variable {σ : Type}

/-- One attempt: the outcome, or the failure that another attempt may overcome. -/
def attempt (s : Surroundings σ) (context : Fields) (w : Write) :
    Action σ (Except Fault Outcome) := do
  try
    let outcome ← Action.write s w
    if outcome.ok then
      if outcome.server.any (!·.isEmpty) then
        Action.log .debug .writes "Write acknowledged"
          (context ++ [("operation", .str w.operation.name),
            ("server", .ofOption outcome.server)])
      return .ok outcome
    Action.log .error .writes "Document store reported a failed write"
      (context ++ [("operation", .str w.operation.name), ("error", .ofOption outcome.reason)])
    return .error (.notApplied w.operation outcome.reason outcome.server)
  catch f =>
    if f.isRetryable then return .error f else throw f

/-- The pause after a failed attempt, announced as an error before the last attempt. -/
def pause (s : Surroundings σ) (p : Policy) (context : Fields) (w : Write) (made : Nat)
    (failure : Fault) : Action σ Unit := do
  if made ≤ p.retries then
    Action.log (if made = p.retries then .error else .warning) .writes
      "Write attempt failed, retrying"
      (context ++ [("operation", .str w.operation.name), ("attempt", .int made),
        ("max_retries", .int p.retries), ("retry_delay_seconds", .float p.delay),
        ("error", .str failure.message)])
    Action.sleep s p.delay

/-- Ends a write that has not succeeded. Without an attempt there is nothing to report. -/
def giveUp (s : Surroundings σ) (p : Policy) (context : Fields) (w : Write) (made : Nat)
    (last : Option Fault) : Action σ (Option Outcome) := do
  match last with
  | none => return none
  | some failure =>
    Action.log .error .writes "Write failed"
      (context ++ [("operation", .str w.operation.name), ("attempts", .int made),
        ("cancelled", .bool (← Action.isCancelled s)), ("error", .str failure.message)])
    let inTime ← Action.isCancelled s
    let cancelled ← Action.isCancelled s
    throw (.gaveUp w.operation made (inTime && made ≤ p.retries) cancelled failure)

/-- Attempts a write as often as is left, after `made` attempts of which the last failed. -/
def attempts (s : Surroundings σ) (p : Policy) (context : Fields) (w : Write) :
    (left made : Nat) → Option Fault → Action σ (Option Outcome)
  | 0, made, last => giveUp s p context w made last
  | left + 1, made, last => do
    if ← Action.isCancelled s then giveUp s p context w made last
    else
      match ← attempt s context w with
      | .ok outcome => return some outcome
      | .error failure =>
        pause s p context w (made + 1) failure
        attempts s p context w left (made + 1) (some failure)

/-- Writes under a policy. There is no outcome if the load was cancelled before any attempt. -/
def write (s : Surroundings σ) (p : Policy) (context : Fields) (w : Write) :
    Action σ (Option Outcome) :=
  attempts s p context w p.attempts 0 none

end Retry

end RowIngest
