import RowIngest.Store.Basic
/-!
The clock that a load pauses by. It counts nanoseconds in a signed word, so that it cannot
time a pause of more than about three hundred years. Main statement: a pause of no length can
be timed.
-/
namespace RowIngest.Clock

/-- The nanoseconds in a second. -/
def perSecond : Nat := 1000000000

/-- The longest pause in nanoseconds. -/
def longest : Nat := Nat.pow 2 63

/-- Whether a pause of so many seconds can be timed. -/
def canTime (delay : Binary64) : Bool :=
  let (num, den) := delay.ratio
  delay.isFinite && (delay.negative || num * perSecond ≤ longest * den)

theorem canTime_zero : canTime .zero = true := by decide +kernel

end RowIngest.Clock
