import RowIngest.Text.Charset.Decoding
import RowIngest.Text.Charset.JapaneseTable
/-!
The charsets of Japan. Characters stand in two sets, each in rows of 94. A character is written
by its row and its place in the row, both beyond ASCII; or by a first byte for two rows, with
small kana in single bytes.
-/
namespace RowIngest.Text.Charset

/-- Which characters a charset has. -/
inductive JapaneseExtent where
  /-- The sets as they were first. -/
  | plain
  /-- With what was added to them, in the earlier edition or in the later one. -/
  | added (later : Bool)
  /-- With the rows of a usual system. -/
  | system
  deriving DecidableEq

/-- A small kana, by its byte. -/
def smallKana? (n : Nat) : Option Char :=
  if 0xA1 ≤ n && n ≤ 0xDF then some (Char.ofNat (0xFEC0 + n)) else none

/-- Characters of the first set that are a letter and a mark, or two letters of tone. -/
def joinedLetters : List ((Nat × Nat) × List Nat) :=
  [((0x24, 0x77), [0x304B, 0x309A]), ((0x24, 0x78), [0x304D, 0x309A]),
   ((0x24, 0x79), [0x304F, 0x309A]), ((0x24, 0x7A), [0x3051, 0x309A]),
   ((0x24, 0x7B), [0x3053, 0x309A]), ((0x25, 0x77), [0x30AB, 0x309A]),
   ((0x25, 0x78), [0x30AD, 0x309A]), ((0x25, 0x79), [0x30AF, 0x309A]),
   ((0x25, 0x7A), [0x30B1, 0x309A]), ((0x25, 0x7B), [0x30B3, 0x309A]),
   ((0x25, 0x7C), [0x30BB, 0x309A]), ((0x25, 0x7D), [0x30C4, 0x309A]),
   ((0x25, 0x7E), [0x30C8, 0x309A]), ((0x26, 0x78), [0x31F7, 0x309A]),
   ((0x2B, 0x44), [0xE6, 0x300]), ((0x2B, 0x48), [0x254, 0x300]), ((0x2B, 0x49), [0x254, 0x301]),
   ((0x2B, 0x4A), [0x28C, 0x300]), ((0x2B, 0x4B), [0x28C, 0x301]), ((0x2B, 0x4C), [0x259, 0x300]),
   ((0x2B, 0x4D), [0x259, 0x301]), ((0x2B, 0x4E), [0x25A, 0x300]), ((0x2B, 0x4F), [0x25A, 0x301]),
   ((0x2B, 0x65), [0x2E9, 0x2E5]), ((0x2B, 0x66), [0x2E5, 0x2E9])]

/-- The places of the first set that the earlier edition leaves free. -/
def laterPlaces : List (Nat × Nat) :=
  [(0x2E, 0x21), (0x2F, 0x7E), (0x4F, 0x54), (0x4F, 0x7E), (0x74, 0x27), (0x7E, 0x7A),
   (0x7E, 0x7B), (0x7E, 0x7C), (0x7E, 0x7D), (0x7E, 0x7E)]

/-- The characters that the earlier edition has elsewhere in the second set. -/
def earlierSecond : List ((Nat × Nat) × Char) := [((0x7D, 0x3B), '鬝')]

/-- The edition does not have the place yet. -/
def isLaterPlace (extent : JapaneseExtent) (row column : Nat) : Bool :=
  extent = .added false && laterPlaces.contains (row, column)

/-- A character of the first set. -/
def first? (extent : JapaneseExtent) (row column : Nat) : Option (List Char) :=
  let one (c? : Option Char) : Option (List Char) := c?.map ([·])
  match extent with
  | .plain | .system => one (firstSet.at? row column)
  | .added _ =>
    if isLaterPlace extent row column then none
    else
      (one ((firstSet.at? row column).or (firstAdded.at? row column))).or
        ((joinedLetters.lookup (row, column)).map (·.map Char.ofNat))

/-- A character that was added to the second set. -/
def secondAdded? (later : Bool) (row column : Nat) : Option Char :=
  (if later then none else earlierSecond.lookup (row, column)).or (secondAdded.at? row column)

/-- A character of the second set. -/
def second? (extent : JapaneseExtent) (row column : Nat) : Option Char :=
  match extent with
  | .plain | .system => secondSet.at? row column
  | .added later => (secondAdded? later row column).or (secondSet.at? row column)

/-- Rows and places beyond ASCII; other bytes introduce small kana and the second set. -/
def rowsStep (extent : JapaneseExtent) (_ : Unit) : List UInt8 → Plain
  | [] => .incomplete
  | byte :: rest =>
    let a := byte.toNat
    let turned (n : Nat) : Nat := if n < 0x80 then n + 0x80 else n - 0x80
    if a < 0x80 then .chars [Char.ofNat a] 1 ()
    else if a = 0x8E then .pair rest fun b => .ofChar? 2 (smallKana? b)
    else if a = 0x8F then
      match rest with
      | b :: c :: _ => .ofChar? 3 (second? extent (turned b.toNat) (turned c.toNat))
      | _ => .incomplete
    else
      .pair rest fun b =>
        if isLaterPlace extent (turned a) (turned b) then .unknown 2
        else .ofChars? 2 (first? extent (turned a) (turned b))

/-- The row and the place of two bytes, counted from zero, where each first byte has two rows. -/
def doubleRow? (a b : Nat) : Option (Nat × Nat) :=
  if ((0x81 ≤ a && a ≤ 0x9F) || (0xE0 ≤ a && a ≤ 0xFC)) && 0x40 ≤ b && b ≤ 0xFC && b ≠ 0x7F then
    let row := 2 * (if a < 0xE0 then a - 0x81 else a - 0xC1)
    let place := if b < 0x7F then b - 0x40 else b - 0x41
    some (if place < 94 then (row, place) else (row + 1, place - 94))
  else none

/-- The row of the second set that stands in a row behind those of the first. -/
def secondRow (row : Nat) : Nat :=
  if 0x67 ≤ row then row + 7 else if 0x63 ≤ row || row = 0x5F then row - 0x37 else row - 0x3D

/-- A character of two bytes, the first of which is for two rows. -/
def doubled? (extent : JapaneseExtent) (a b : Nat) : Option (List Char) := do
  let (row, place) ← doubleRow? a b
  if row < 94 then
    match extent, row + 0x21, place + 0x21 with
    | .added _, 0x21, 0x40 => some ['\\']
    | .added _, 0x22, 0x32 => some ['~']
    | _, row, column => first? extent row column
  else
    match extent with
    | .added later => (secondAdded? later (secondRow row) (place + 0x21)).map ([·])
    | _ => none

/-- The last of the first bytes for two rows. -/
def doubleLimit : JapaneseExtent → Nat
  | .plain | .system => 0xEA
  | .added _ => 0xFC

/-- A first byte for two rows, or a small kana. Two signs of ASCII are others where characters
were added. -/
def doubledStep (extent : JapaneseExtent) (_ : Unit) : List UInt8 → Plain
  | [] => .incomplete
  | byte :: rest =>
    let a := byte.toNat
    let isSign := extent ≠ .plain && extent ≠ .system
    if a < 0x80 then
      let c := Char.ofNat a
      .chars [if isSign && c = '\\' then '¥' else if isSign && c = '~' then '‾' else c] 1 ()
    else
      match smallKana? a with
      | some c => .chars [c] 1 ()
      | none =>
        if a = 0x80 || a = 0xA0 || doubleLimit extent < a then .unknown 1
        else
          .pair rest fun b =>
            if (doubleRow? a b).any fun (row, place) =>
              isLaterPlace extent (row + 0x21) (place + 0x21) then .unknown 2
            else .ofChars? 2 (doubled? extent a b)

/-- Signs that a usual system has in place of those of the first set. -/
def systemSigns : List ((Nat × Nat) × Char) :=
  [((0x81, 0x60), '～'), ((0x81, 0x61), '∥'), ((0x81, 0x7C), '－'), ((0x81, 0x91), '￠'),
   ((0x81, 0x92), '￡'), ((0x81, 0xCA), '￢')]

/-- The first bytes for rows of a usual system. -/
def systemBytes : List Nat := [0x87, 0xED, 0xEE, 0xFA, 0xFB, 0xFC]

/-- A character of two bytes in a usual system. -/
def system? (a b : Nat) : Option Char := do
  let (_, column) ← doubleRow? 0x81 b
  let place := (if b < 0x9F then 0 else 94) + column
  match systemSigns.lookup (a, b), systemBytes.idxOf? a with
  | some c, _ => some c
  | none, some n => systemRows.char? (n * 188 + place)
  | none, none =>
    if 0xF0 ≤ a && a ≤ 0xF9 then some (Char.ofNat (0xE000 + (a - 0xF0) * 188 + place))
    else if a ≤ 0xEA then do
      let (row, column) ← doubleRow? a b
      firstSet.at? (row + 0x21) (column + 0x21)
    else none

/-- The charset of a usual system. Bytes that are free in it are characters of no fixed
meaning. -/
def systemStep (_ : Unit) : List UInt8 → Plain
  | [] => .incomplete
  | byte :: rest =>
    let a := byte.toNat
    if a ≤ 0x80 then .chars [Char.ofNat a] 1 ()
    else if a = 0xA0 then .chars [Char.ofNat 0xF8F0] 1 ()
    else if 0xFD ≤ a then .chars [Char.ofNat (0xF8F1 + (a - 0xFD))] 1 ()
    else
      match smallKana? a with
      | some c => .chars [c] 1 ()
      | none => .pair rest fun b => .ofChar? 2 (system? a b)

end RowIngest.Text.Charset
