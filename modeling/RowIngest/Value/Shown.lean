import RowIngest.Number.Shortest
import RowIngest.Text.Blank
import RowIngest.Text.Quoted
import RowIngest.Value
/-!
Values as messages show them. Text by itself is shown as it is, inside of a list or an object
in quotes.
-/
namespace RowIngest

namespace Binary64

/-- Digits with a point behind the first `before` of them, and a zero where no digit is. -/
def positional (digits : List Char) (before : Int) : List Char :=
  if before ≤ 0 then ['0', '.'] ++ List.replicate (-before).toNat '0' ++ digits
  else
    let whole := before.toNat
    let fraction := digits.drop whole
    digits.take whole ++ List.replicate (whole - digits.length) '0' ++ ['.']
      ++ if fraction.isEmpty then ['0'] else fraction

/-- Digits of which the first stands before the point, and an exponent of two digits at least. -/
def scientific (digits : List Char) (exponent : Int) : List Char :=
  let size := Nat.toDigits 10 exponent.natAbs
  let padded := if size.length < 2 then '0' :: size else size
  let fraction := digits.drop 1
  digits.take 1 ++ (if fraction.isEmpty then [] else '.' :: fraction)
    ++ ['e', if exponent < 0 then '-' else '+'] ++ padded

/-- Numbers are shown by their shortest decimals, with an exponent if they are below a ten
thousandth or have more than sixteen digits before the point. -/
def shown (x : Binary64) : String :=
  if x.isNaN then "nan"
  else
    let sign := if x.negative then ['-'] else []
    let size : List Char :=
      if !x.isFinite then "inf".toList
      else if x.isZero then "0.0".toList
      else
        let d := x.shortest
        let written := Nat.toDigits 10 d.digits
        let before : Int := written.length + d.exponent
        let digits := Text.trimEnd (· == '0') written
        if -4 < before && before ≤ 16 then positional digits before
        else scientific digits (before - 1)
    String.ofList (sign ++ size)

end Binary64

namespace Value

mutual

/-- A value inside of another, or by itself where text is shown in quotes. -/
def shown : Value → String
  | .null => "None"
  | .bool b => if b then "True" else "False"
  | .int n => toString n
  | .float x => x.shown
  | .str s => Text.quoted s
  | .list items => "[" ++ ", ".intercalate (shownItems items) ++ "]"
  | .obj fields => "\x7b" ++ ", ".intercalate (shownFields fields) ++ "\x7d"

def shownItems : List Value → List String
  | [] => []
  | v :: rest => shown v :: shownItems rest

def shownFields : List (String × Value) → List String
  | [] => []
  | (name, v) :: rest => (Text.quoted name ++ ": " ++ shown v) :: shownFields rest

end

def text : Value → String
  | .str s => s
  | v => shown v

end Value

end RowIngest
