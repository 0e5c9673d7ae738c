import RowIngest.Check.Scalar
/-!
Indexes to create, or to drop, once a load has written its rows.
-/
namespace RowIngest

structure IndexChange where
  keys : IndexKeys
  unique : Bool
  sparse : Bool
  drop : Bool

namespace IndexChange

/-- Ascending or descending. A whole number that no signed word holds is told apart from one
that is merely wrong. -/
def checkDirection (v : Value) : Checked Int :=
  let sign? : Option Int :=
    match v with
    | .int n => some n
    | .bool b => some (if b then 1 else 0)
    | .float x => x.toInt?
    | _ => none
  match v, sign? with
  | _, some 1 => .valid 1
  | _, some (-1) => .valid (-1)
  | .int n, _ =>
    .issue (if -Check.wordLimit ≤ n && n < Check.wordLimit then .notAmong "1 or -1"
      else .hugeInteger)
  | _, _ => .issue (.notAmong "1 or -1")

def checkKey (source : Check.Source) (v : Value) : Checked (String × Int) :=
  (Check.model source "IndexField" v).andThen fun fs =>
    Prod.mk <$> Check.required fs "path" Check.nonemptyString
      <*> Check.optional fs "direction" 1 checkDirection

def checkFields (source : Check.Source) (fs : Fields) : Checked IndexChange :=
  IndexChange.mk <$> Check.required fs "fields" (Check.nonemptyList source (checkKey source))
    <*> Check.optional fs "unique" false Check.bool
    <*> Check.optional fs "sparse" false Check.bool
    <*> Check.optional fs "drop" false Check.bool

def check (source : Check.Source) (v : Value) : Checked IndexChange :=
  (Check.model source "IndexSpec" v).andThen (checkFields source)

end IndexChange

end RowIngest
