/-!
Characters in rows, as the tables of charsets have them. A point stands for no character.
-/
namespace RowIngest.Text.Charset

structure Grid where
  width : Nat
  rows : Array String

namespace Grid

/-- The character at a place, counted over the rows. -/
def char? (g : Grid) (place : Nat) : Option Char :=
  (g.rows[place / g.width]?).bind fun row => (row.toList[place % g.width]?).filter (· ≠ '.')

/-- The first and the last of the bytes that rows of 94 are numbered by. -/
def firstByte : Nat := 0x21

def lastByte : Nat := 0x7E

/-- The character of two bytes, for rows of 94. -/
def at? (g : Grid) (row column : Nat) : Option Char :=
  if firstByte ≤ row && row ≤ lastByte && firstByte ≤ column && column ≤ lastByte then
    g.char? ((row - firstByte) * 94 + (column - firstByte))
  else none

end Grid

end RowIngest.Text.Charset
