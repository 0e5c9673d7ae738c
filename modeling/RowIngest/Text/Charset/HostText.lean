import RowIngest.Hostname.Direction
import RowIngest.Text.Charset.Escaped
import RowIngest.Text.Charset.Replaced
import RowIngest.Text.Composed
import RowIngest.Text.Lower
/-!
Text as names of hosts are written: parts between points, each of which may be in Punycode. A part
must be written as its characters have to be, in small letters and composed.
-/
namespace RowIngest.Text.Charset

/-- What a part of a name in Punycode begins with. -/
def codeMark : List Char := "xn--".toList

/-- The greatest length of a part of a name. -/
def partSizeLimit : Nat := 63

/-- Characters that do not count in names. -/
def isPassedOver (n : Nat) : Bool :=
  [0xAD, 0x34F, 0x1806, 0x2060, 0xFEFF].contains n || (0x180B ≤ n && n ≤ 0x180D) ||
    (0x200B ≤ n && n ≤ 0x200D) || (0xFE00 ≤ n && n ≤ 0xFE0F)

/-- Characters that must not stand in names. -/
def refusedRanges : Ranges :=
  [(0x80, 0xA0), (0x340, 0x341), (0x6DD, 0x6DD), (0x70F, 0x70F), (0x1680, 0x1680),
   (0x180E, 0x180E), (0x2000, 0x200F), (0x2028, 0x202F), (0x205F, 0x2063), (0x206A, 0x206F),
   (0x2FF0, 0x2FFB), (0x3000, 0x3000), (0xD800, 0xF8FF), (0xFDD0, 0xFDEF), (0xFEFF, 0xFEFF),
   (0xFFF9, 0xFFFF), (0x1D173, 0x1D17A), (0x1FFFE, 0x1FFFF), (0xE0001, 0xE0001),
   (0xE0020, 0xE007F), (0xF0000, 0x10FFFF)]

/-- The letters of scripts from right to left. -/
def leftwardRanges : Ranges :=
  [(0x5BE, 0x5BE), (0x5C0, 0x5C0), (0x5C3, 0x5C3), (0x5D0, 0x5EA), (0x5F0, 0x5F4), (0x61B, 0x61B),
   (0x61F, 0x61F), (0x621, 0x63A), (0x640, 0x64A), (0x66D, 0x66F), (0x671, 0x6D5), (0x6DD, 0x6DD),
   (0x6E5, 0x6E6), (0x6FA, 0x6FE), (0x700, 0x70D), (0x710, 0x710), (0x712, 0x72C), (0x780, 0x7A5),
   (0x7B1, 0x7B1), (0x200F, 0x200F), (0xFB1D, 0xFB1D), (0xFB1F, 0xFB28), (0xFB2A, 0xFB36),
   (0xFB38, 0xFB3C), (0xFB3E, 0xFB3E), (0xFB40, 0xFB41), (0xFB43, 0xFB44), (0xFB46, 0xFBB1),
   (0xFBD3, 0xFD3D), (0xFD50, 0xFD8F), (0xFD92, 0xFDC7), (0xFDF0, 0xFDFC), (0xFE70, 0xFE74),
   (0xFE76, 0xFEFC)]

def isLeftward (n : Nat) : Bool := leftwardRanges.holds n

/-- A character in quotes, where half a pair of units is shown by its number. -/
def shownPoint (n : Nat) : String :=
  if isHalf n then "'\\u" ++ String.ofList (hexOfWidth 4 n) ++ "'"
  else quoted (String.singleton (Char.ofNat n))

/-- What is wrong with the characters of a part of a name. -/
def partComplaint? (points : List Nat) : Option String :=
  match points.find? refusedRanges.holds with
  | some n => some ("Invalid character " ++ shownPoint n)
  | none =>
    if !points.any isLeftward then none
    else if points.any fun n => Hostname.direction? n = some .right then
      some "Violation of BIDI requirement 2"
    else if points.head?.any isLeftward && points.getLast?.any isLeftward then none
    else some "Violation of BIDI requirement 3"

/-- A part of a name without what does not count in it, in small letters, composed. -/
def folded (points : List Nat) : List Nat :=
  let small (n : Nat) : List Nat :=
    if isPassedOver n then []
    else if isHalf n then [n]
    else ((replacement? n).getD (lowerChar (charOfPoint n))).map Char.toNat
  compose (apart (points.flatMap small))

/-- A part of a name as it has to be written, if its length is right. -/
def written (points : List Nat) : Except String (List Char) :=
  let isBasic (ns : List Nat) : Bool := ns.all (· < 0x80)
  let checked (cs : List Char) : Except String (List Char) :=
    if cs.isEmpty || cs.length > partSizeLimit then .error "label empty or too long" else .ok cs
  if isBasic points then checked (points.map Char.ofNat)
  else do
    let small := folded points
    if let some complaint := partComplaint? small then throw complaint
    if isBasic small then checked (small.map Char.ofNat)
    else if (codeMark.map Char.toNat).isPrefixOf small then .error "Label starts with ACE prefix"
    else checked (codeMark ++ Hostname.Punycode.encode small)

/-- A part of a name between points, which may be in Punycode; then it must be written as it has
to be. -/
def decodePart (part : List Char) : Except String (List Char) := do
  if !codeMark.isPrefixOf part then return part
  let code := (part.drop codeMark.length).map fun c => UInt8.ofNat c.toNat
  match decodeCode 0 code with
  | .error _ => throw ""
  | .ok (.error flaw) =>
    throw s!"decoding with 'punycode' codec failed (UnicodeError: {codeComplaint flaw})"
  | .ok (.ok points) =>
    let other ← written points
    if other ≠ part.map Char.toLower then
      let shown (cs : List Char) : String := "b" ++ quoted (String.ofList cs)
      throw s!"('IDNA does not round-trip', {shown part}, {shown other})"
    return points.map charOfPoint

/-- Text as names of hosts are written. -/
def decodeName (bytes : List UInt8) : Except Unreadable (List Char) := do
  let cs ← (decodeAscii 0 bytes).mapError (·.unreadable)
  let parts ← ((cs.splitOn '.').mapM decodePart).mapError .unusable
  return ['.'].intercalate parts

end RowIngest.Text.Charset
