import RowIngest.Text.Printed
/-!
Text quoted for a message: in single quotes, or in double quotes where it holds a single
quote and no double one. The quote used, the backslash and characters without a printed
form are escaped.
-/
namespace RowIngest.Text

def hexDigit (n : Nat) : Char :=
  Char.ofNat (if n < 10 then 48 + n else 87 + n)

/-- Lower-case hexadecimal of a fixed width. -/
def hexOfWidth : Nat → Nat → List Char
  | 0, _ => []
  | w + 1, n => hexOfWidth w (n / 16) ++ [hexDigit (n % 16)]

/-- The code of a character, as short as its size allows. -/
def escapedCode (c : Char) : List Char :=
  if c.toNat < 0x100 then ['\\', 'x'] ++ hexOfWidth 2 c.toNat
  else if c.toNat < 0x10000 then ['\\', 'u'] ++ hexOfWidth 4 c.toNat
  else ['\\', 'U'] ++ hexOfWidth 8 c.toNat

def escapeChar (quote : Char) (c : Char) : List Char :=
  if c = quote || c = '\\' then ['\\', c]
  else if c = '\n' then ['\\', 'n']
  else if c = '\r' then ['\\', 'r']
  else if c = '\t' then ['\\', 't']
  else if isPrinted c then [c]
  else escapedCode c

def quoteFor (cs : List Char) : Char :=
  if cs.contains '\'' && !cs.contains '"' then '"' else '\''

def quoted (s : String) : String :=
  let cs := s.toList
  let q := quoteFor cs
  String.ofList (q :: cs.flatMap (escapeChar q) ++ [q])

end RowIngest.Text
