import RowIngest.Mapping.File
/-!
The settings of one load. A load configuration is checked as a whole before anything is
done: names and fields must be there, numbers must be in range, and the kinds of writes asked
for must fit together. Main statement: a configuration is accepted exactly if a write to every
match is a modifier update and an upsert has a match key.
-/
namespace RowIngest

structure LoadConfig where
  database : String
  collection : String
  batchSize : Nat
  retries : Nat
  retryDelay : Binary64
  truncate : Bool
  upsert : Bool
  modifierUpdate : Bool
  /-- A modifier update changes every match instead of one. -/
  multi : Bool
  fields : List FieldMapping
  indexes : List IndexChange

namespace LoadConfig

def defaultBatchSize : Nat := 100

def defaultRetries : Nat := 5

def defaultRetryDelay : Binary64 := .ofDecimal false 10 0

def matchFields (c : LoadConfig) : List FieldMapping := c.fields.filter (·.isMatchKey)

def checkFields (fs : Fields) : Checked LoadConfig :=
  LoadConfig.mk <$> Check.required fs "database" Check.nonemptyString
    <*> Check.required fs "collection" Check.nonemptyString
    <*> Check.optional fs "batch_insert_size" defaultBatchSize (Check.natAtLeast 1)
    <*> Check.optional fs "write_retries" defaultRetries (Check.natAtLeast 0)
    <*> Check.optional fs "write_retry_delay" defaultRetryDelay Check.nonnegative
    <*> Check.optional fs "truncate" false Check.bool
    <*> Check.optional fs "upsert" false Check.bool
    <*> Check.optional fs "modifier_update" false Check.bool
    <*> Check.optional fs "multi" false Check.bool
    <*> Check.required fs "fields" (Check.nonemptyList .handed (FieldMapping.check .handed))
    <*> Check.optional fs "indexes" [] (Check.list .handed (IndexChange.check .handed))

/-- Accepts a configuration whose kinds of writes fit together. -/
def accept (c : LoadConfig) : Except ConfigProblem LoadConfig :=
  if c.upsert && c.multi && !c.modifierUpdate then .error .multiReplacement
  else if c.upsert && c.matchFields.isEmpty then .error .noMatchKey
  else .ok c

def isNamed (fs : Fields) (name : String) : Bool := ((Fields.get? fs name).getD .null).isTruthy

/-- Builds a configuration from loosely typed values. -/
def ofFields (fs : Fields) : Except Fault LoadConfig :=
  if !isNamed fs "database" then .error (.config .noDatabase)
  else if !isNamed fs "collection" then .error (.config .noCollection)
  else
    match checkFields fs with
    | .valid c => c.accept.mapError .config
    | .issues is => .error (.config (.invalid is))
    | .fault f => .error f

/-- Accepts a configuration put together from values that are checked one by one. -/
def assemble (c : LoadConfig) : Except Fault LoadConfig :=
  if c.database.isEmpty then .error (.config .noDatabase)
  else if c.collection.isEmpty then .error (.config .noCollection)
  else if c.fields.isEmpty then
    .error (.config (.invalid [⟨[.field "fields"], .emptyList⟩]))
  else c.accept.mapError .config

theorem accept_eq_ok_iff {c d : LoadConfig} :
    c.accept = .ok d ↔ c = d ∧ (c.upsert && c.multi && !c.modifierUpdate) = false ∧
      (c.upsert && c.matchFields.isEmpty) = false := by
  unfold accept
  split
  · simp_all
  · split <;> simp_all

end LoadConfig

end RowIngest
