import RowIngest.Number.Binary64
/-!
The shortest decimal for a double: as few digits as read back to the same double, and of the
decimals with so many digits the nearest one. Main statement: what is found on a grid of
decimals reads back.
-/
namespace RowIngest.Binary64

/-- A magnitude `digits · 10 ^ exponent`. -/
structure Decimal where
  digits : Nat
  exponent : Int
  deriving DecidableEq

def digitCount (n : Nat) : Nat := (Nat.toDigits 10 n).length

/-- The exponent of the least power of ten above a ratio that is one or more, or of the least
one not below a smaller ratio. -/
def decimalExponent (num den : Nat) : Int :=
  if den ≤ num then digitCount (num / den) else 1 - (digitCount (den / num) : Int)

def magnitude (x : Binary64) : Binary64 := ⟨x.bits &&& 0x7FFFFFFFFFFFFFFF⟩

/-- The decimal next to a number on the grid of a power of ten, if it reads back; of the two
neighbours the nearer one goes first. -/
def decimalAt? (x : Binary64) (exponent : Int) : Option Decimal :=
  let (num, den) := x.ratio
  let (n, d) : Nat × Nat :=
    if exponent < 0 then (num * Nat.pow 10 (-exponent).toNat, den)
    else (num, den * Nat.pow 10 exponent.toNat)
  let below := n / d
  let nearest := roundHalfEven n d
  let other := if nearest = below then below + 1 else below
  ([nearest, other].find? fun m => ofDecimal false m exponent = x.magnitude).map (⟨·, exponent⟩)

/-- No double needs more digits. -/
def enoughDigits : Nat := 17

/-- The shortest decimal of a finite number that is not zero. -/
def shortest (x : Binary64) : Decimal :=
  let (num, den) := x.ratio
  let top := decimalExponent num den
  ((List.range enoughDigits).findSome? fun (n : Nat) => x.decimalAt? (top - n - 1)).getD ⟨0, 0⟩

theorem ofDecimal_of_decimalAt? {x : Binary64} {exponent : Int} {d : Decimal}
    (h : x.decimalAt? exponent = some d) :
    ofDecimal false d.digits d.exponent = x.magnitude := by
  obtain ⟨m, hm, rfl⟩ := Option.map_eq_some_iff.1 h
  simpa using List.find?_some hm

end RowIngest.Binary64
