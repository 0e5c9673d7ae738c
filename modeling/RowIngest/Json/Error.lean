/-!
What can be wrong with JSON text: a complaint at a place, or an integer with more digits
than are read. Lines and columns are counted from one, in characters.
-/
namespace RowIngest.Json

inductive Complaint where
  | value
  | name
  | colon
  | comma
  | unterminated
  | control
  | badEscape
  | badUnicodeEscape
  | extraData
  | byteOrderMark
  | loneSurrogate
  | depth
  deriving DecidableEq

def Complaint.text : Complaint → String
  | .value => "Expecting value"
  | .name => "Expecting property name enclosed in double quotes"
  | .colon => "Expecting ':' delimiter"
  | .comma => "Expecting ',' delimiter"
  | .unterminated => "Unterminated string starting at"
  | .control => "Invalid control character at"
  | .badEscape => "Invalid \\escape"
  | .badUnicodeEscape => "Invalid \\uXXXX escape"
  | .extraData => "Extra data"
  | .byteOrderMark => "Unexpected UTF-8 BOM (decode using utf-8-sig)"
  | .loneSurrogate => "Half a surrogate pair at"
  | .depth => "Nested too deeply at"

inductive Error where
  | malformed (complaint : Complaint) (line column position : Nat)
  | longInteger (digits : Nat)
  deriving DecidableEq

/-- The most digits an integer may have in text. -/
def integerDigitLimit : Nat := 4300

def longIntegerMessage (digits : Nat) : String :=
  s!"Exceeds the limit ({integerDigitLimit} digits) for integer string conversion: value has "
    ++ s!"{digits} digits; use sys.set_int_max_str_digits() to increase the limit"

def Error.message : Error → String
  | .malformed complaint line column position =>
    s!"{complaint.text}: line {line} column {column} (char {position})"
  | .longInteger digits => longIntegerMessage digits

/-- A complaint at a position, with the line and column it falls on. -/
def Error.at (text : List Char) (complaint : Complaint) (position : Nat) : Error :=
  let before := text.take position
  let line := before.count '\n' + 1
  let column := (before.reverse.takeWhile (· ≠ '\n')).length + 1
  .malformed complaint line column position

end RowIngest.Json
