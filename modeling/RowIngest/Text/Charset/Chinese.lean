import RowIngest.Text.Charset.Decoding
import RowIngest.Text.Charset.ChineseTable
import RowIngest.Text.Charset.TaiwaneseTable
/-!
The charsets of China, Taiwan and Hong Kong. Two bytes stand for a character; in the largest
charset of China four bytes may do so, and then all characters can be written.
-/
namespace RowIngest.Text.Charset

/-- Which of the characters of China a charset has. -/
inductive ChineseExtent where
  | national
  | larger
  | whole
  deriving DecidableEq

/-- The characters of the national set that are others in the larger ones. -/
def chineseChanged : List ((Nat × Nat) × Char) := [((0xA1, 0xA4), '·'), ((0xA1, 0xAA), '—')]

/-- The place of two bytes in the larger set, where the second is below the usual ones too. -/
def chinesePlace? (a b : Nat) : Option Nat :=
  if 0x81 ≤ a && a ≤ 0xFE && 0x40 ≤ b && b ≤ 0xFE && b ≠ 0x7F then
    some ((a - 0x81) * 190 + (if b < 0x7F then b - 0x40 else b - 0x41))
  else none

/-- Characters of no fixed meaning, in places that are free in the larger set. -/
def chineseFree? (a b : Nat) : Option Char :=
  let chars (first place : Nat) : Option Char := some (Char.ofNat (first + place))
  if 0xAA ≤ a && a ≤ 0xAF && 0xA1 ≤ b && b ≤ 0xFE then chars 0xE000 ((a - 0xAA) * 94 + (b - 0xA1))
  else if 0xF8 ≤ a && a ≤ 0xFE && 0xA1 ≤ b && b ≤ 0xFE then
    chars 0xE234 ((a - 0xF8) * 94 + (b - 0xA1))
  else if 0xA1 ≤ a && a ≤ 0xA7 && 0x40 ≤ b && b ≤ 0xA0 && b ≠ 0x7F then
    chars 0xE4C6 ((a - 0xA1) * 96 + (if b < 0x7F then b - 0x40 else b - 0x41))
  else none

/-- What the largest set has in places that are free in the larger one. -/
def chineseFilled? (place : Nat) : Option Char :=
  chineseFilled.findSome? fun (first, row) =>
    if first ≤ place then row.toList[place - first]? else none

/-- The character of two bytes. -/
def chinesePair? (extent : ChineseExtent) (a b : Nat) : Option Char :=
  let common := chineseSet.at? (a - 0x80) (b - 0x80)
  let place := chinesePlace? a b
  match extent with
  | .national => common
  | .larger | .whole =>
    let larger := ((chineseChanged.lookup (a, b)).or common).or (place.bind chineseAdded.char?)
    if extent = .whole then (larger.or (chineseFree? a b)).or (place.bind chineseFilled?)
    else larger

/-- The character of a number below those of four bytes for the rarest characters. -/
def chineseRun? (n : Nat) : Option Char :=
  ((chineseRuns.takeWhile (·.1 ≤ n)).getLast?).map fun (first, point) =>
    Char.ofNat (point + (n - first))

/-- How many characters are written in four bytes of which the first are the least. -/
def chineseRunLimit : Nat := 39420

/-- The character of four bytes, of which the second and the last are digits. -/
def chineseQuad? (a b c d : Nat) : Option Char :=
  if a < 0x81 || a > 0xFE || c < 0x81 || c > 0xFE || d < 0x30 || d > 0x39 then none
  else
    let n (first : Nat) : Nat :=
      ((a - first) * 10 + (b - 0x30)) * 1260 + (c - 0x81) * 10 + (d - 0x30)
    if a < 0x85 then
      if n 0x81 < chineseRunLimit then chineseRun? (n 0x81) else none
    else if 0x90 ≤ a && n 0x90 ≤ 0xFFFFF then some (Char.ofNat (0x10000 + n 0x90))
    else none

/-- The usual charsets of China. -/
def chineseStep (extent : ChineseExtent) (_ : Unit) : List UInt8 → Plain
  | [] => .incomplete
  | first :: rest =>
    let a := first.toNat
    if a < 0x80 then .chars [Char.ofNat a] 1 ()
    else
      .pair rest fun b =>
        if extent = .whole && 0x30 ≤ b && b ≤ 0x39 then
          match rest with
          | _ :: c :: d :: _ => .ofChar? 4 (chineseQuad? a b c.toNat d.toNat)
          | _ => .incomplete
        else .ofChar? 2 (chinesePair? extent a b)

/-- Tildes turn between ASCII and pairs of bytes for the national set, which is `inPairs`. -/
def tildeStep (inPairs : Bool) : List UInt8 → Step Bool
  | [] => .incomplete
  | 0x7E :: rest =>
    match rest, inPairs with
    | [], _ => .incomplete
    | 0x7E :: _, false => .chars ['~'] 2 false
    | 0x7B :: _, false => .chars [] 2 true
    | 0x0A :: _, false => .chars [] 2 false
    | 0x7D :: _, true => .chars [] 2 false
    | _ :: _, _ => .unknown 1
  | first :: rest =>
    let a := first.toNat
    if 0x80 ≤ a then .unknown 1
    else if !inPairs then .chars [Char.ofNat a] 1 false
    else
      match rest with
      | [] => .incomplete
      | b :: _ =>
        match chineseSet.at? a b.toNat with
        | some c => .chars [c] 2 true
        | none => .unknown 1

/-- Which characters the charset of Taiwan has. -/
inductive TaiwaneseExtent where
  | usual
  | system
  | hongKong
  deriving DecidableEq

/-- The place of two bytes; each first byte has two rows of 79. -/
def taiwanesePlace? (a b : Nat) : Option Nat :=
  if a < 0x81 then none
  else if 0x40 ≤ b && b < 0x7F then some ((a - 0x81) * 158 + (b - 0x40))
  else if 0xA1 ≤ b && b < 0xFF then some ((a - 0x81) * 158 + (b - 0xA1 + 64))
  else none

/-- Characters of Hong Kong that are a letter and a mark. -/
def markedLetters : List ((Nat × Nat) × List Nat) :=
  [((0x88, 0x62), [0xCA, 0x304]), ((0x88, 0x64), [0xCA, 0x30C]), ((0x88, 0xA3), [0xEA, 0x304]),
   ((0x88, 0xA5), [0xEA, 0x30C])]

/-- The places of the usual set that are free in Hong Kong. -/
def hongKongFree : List (Nat × Nat) :=
  [(0xC6, 0xCF), (0xC6, 0xD3), (0xC6, 0xD5), (0xC6, 0xD7), (0xC6, 0xDE), (0xC6, 0xDF)]

def taiwanesePair? (extent : TaiwaneseExtent) (a b : Nat) : Option (List Char) :=
  let place := taiwanesePlace? a b
  let usual := place.bind taiwaneseSet.char?
  let one (c? : Option Char) : Option (List Char) := c?.map ([·])
  match extent with
  | .usual => one usual
  | .system => one ((place.bind taiwaneseChanged.char?).or usual)
  | .hongKong =>
    if hongKongFree.contains (a, b) then none
    else
      (one ((place.bind hongKongSet.char?).or usual)).or
        ((markedLetters.lookup (a, b)).map (·.map Char.ofNat))

/-- The usual charset of Taiwan and Hong Kong. -/
def taiwaneseStep (extent : TaiwaneseExtent) (_ : Unit) : List UInt8 → Plain
  | [] => .incomplete
  | first :: rest =>
    let a := first.toNat
    if a < 0x80 then .chars [Char.ofNat a] 1 ()
    else .pair rest fun b => .ofChars? 2 (taiwanesePair? extent a b)

end RowIngest.Text.Charset
