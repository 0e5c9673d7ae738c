import RowIngest.Run.Retry
/-!
Inserting in batches. Documents are kept back until a batch is full and then written together
and in order. The buffer is emptied whatever comes of the write; documents that could not be
written are not kept for another batch.
-/
namespace RowIngest.Batch

variable {σ : Type}

/-- Batches hold at least one document. -/
def checkCapacity (capacity : Int) : Except ConfigProblem Nat :=
  if capacity < 1 then .error (.batchSize (.int capacity)) else .ok capacity.toNat

def takeBuffer : Action σ (List Value) :=
  modifyGet fun l => (l.buffer, { l with buffer := [] })

/-- Writes the documents kept back, if there are any. -/
def flush (s : Surroundings σ) (p : Retry.Policy) : Action σ (Option Outcome) := do
  let batch ← takeBuffer
  if batch.isEmpty then return none
  let size : Fields := [("batch_size", .int batch.length)]
  let outcome ← Retry.write s p size (.insertMany batch)
  if outcome.isSome then
    modify fun l => { l with
      batchesWritten := l.batchesWritten + 1
      documentsInserted := l.documentsInserted + batch.length }
    Action.log .info .writes "Batch committed" size
  return outcome

/-- Keeps a document back, and writes the batch once it is full. -/
def add (s : Surroundings σ) (p : Retry.Policy) (capacity : Nat) (document : Value) :
    Action σ Unit := do
  modify fun l => { l with buffer := l.buffer ++ [document] }
  if (← get).buffer.length ≥ capacity then
    Action.log .debug .writes "Committing a full batch" [("batch_size", .int capacity)]
    let _ ← flush s p

end RowIngest.Batch
