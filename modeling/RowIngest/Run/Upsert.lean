import RowIngest.Run.Retry
/-!
Updating or inserting one document at a time. A document all of whose keys are operators is
a modifier update; any other one replaces the document that the query finds.
-/
namespace RowIngest.Upsert

variable {σ : Type}

def isOperator (key : String) : Bool := key.startsWith "$"

def isModifierUpdate : Value → Bool
  | .obj fields => !fields.isEmpty && fields.all fun (key, _) => isOperator key
  | _ => false

/-- The write for a query and a document; only a modifier update can go to every match. -/
def choose (query document : Value) (multi : Bool) : Except ConfigProblem Write :=
  if isModifierUpdate document then
    .ok (if multi then .updateMany query document true else .updateOne query document true)
  else if multi then .error .replacementOfMany
  else .ok (.replaceOne query document true)

def write (s : Surroundings σ) (p : Retry.Policy) (query document : Value) (multi : Bool) :
    Action σ (Option Outcome) := do
  match choose query document multi with
  | .error problem => throw (.config problem)
  | .ok w =>
    let outcome ← Retry.write s p [("query", query)] w
    if outcome.isSome then
      modify fun l => { l with upsertsWritten := l.upsertsWritten + 1 }
    return outcome

end RowIngest.Upsert
