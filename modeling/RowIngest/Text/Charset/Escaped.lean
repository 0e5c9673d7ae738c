import RowIngest.Hostname.Punycode
import RowIngest.Text.CharacterName
import RowIngest.Text.Charset.Decoding
/-!
Text that is written in ASCII by escapes: behind a backslash stands a letter for a control
character, or the number of a character; or all characters beyond ASCII are written behind the
others in Punycode.
-/
namespace RowIngest.Text.Charset

def backslash : UInt8 := 0x5C

def charOf (b : UInt8) : Char := Char.ofNat b.toNat

/-- Whether a number stands for half a pair of units. -/
def isHalf (n : Nat) : Bool := 0xD800 ≤ n && n < 0xE000

/-- A character by its number, where half a pair of units is no character. -/
def charOfPoint (n : Nat) : Char := if isHalf n then Char.ofNat 0xFFFD else Char.ofNat n

def hexDigit? (b : UInt8) : Option Nat :=
  let n := b.toNat
  if 0x30 ≤ n && n ≤ 0x39 then some (n - 0x30)
  else if 0x61 ≤ n && n ≤ 0x66 then some (n - 0x57)
  else if 0x41 ≤ n && n ≤ 0x46 then some (n - 0x37)
  else none

def numberOf (base : Nat) (digits : List Nat) : Nat := digits.foldl (fun n d => n * base + d) 0

/-- A character by its number of `count` hexadecimal digits behind a backslash and a letter. -/
def numbered (count : Nat) (kind tooLarge : String) (rest : List UInt8) : Plain :=
  let digits := ((rest.take count).map hexDigit?).takeWhile (·.isSome) |>.filterMap id
  if digits.length < count then .illegal (2 + digits.length) s!"truncated {kind} escape"
  else
    let n := numberOf 16 digits
    if n > 0x10FFFF then .illegal (2 + count) tooLarge else .chars [charOfPoint n] (2 + count) ()

/-- The letters behind a backslash, and what they stand for. -/
def letterEscapes : List (UInt8 × List Nat) :=
  [(0x0A, []), (0x5C, [0x5C]), (0x27, [0x27]), (0x22, [0x22]), (0x62, [8]), (0x66, [12]),
   (0x74, [9]), (0x6E, [10]), (0x72, [13]), (0x76, [11]), (0x61, [7])]

/-- A character by its name in braces. -/
def namedStep (rest : List UInt8) : Plain :=
  let malformed (size : Nat) : Plain := .illegal size "malformed \\N character escape"
  match rest with
  | 0x7B :: more =>
    let name := more.takeWhile (· ≠ 0x7D)
    if name.length = more.length then malformed (3 + name.length)
    else if name.isEmpty then malformed 3
    else
      match CharacterName.point? (name.map charOf) with
      | some point => .chars [Char.ofNat point] (4 + name.length) ()
      | none => .illegal (4 + name.length) "unknown Unicode character name"
  | _ => malformed 2

/-- What follows a backslash. -/
def behindBackslash (c : UInt8) (rest : List UInt8) : Plain :=
  let isOctal (b : UInt8) : Bool := 0x30 ≤ b && b ≤ 0x37
  match letterEscapes.lookup c with
  | some points => .chars (points.map Char.ofNat) 2 ()
  | none =>
    if isOctal c then
      let digits := ((c :: rest).take 3).takeWhile isOctal
      .chars [Char.ofNat (numberOf 8 (digits.map fun b => b.toNat - 0x30))] (1 + digits.length) ()
    else if c = 0x78 then numbered 2 "\\xXX" "illegal Unicode character" rest
    else if c = 0x75 then numbered 4 "\\uXXXX" "illegal Unicode character" rest
    else if c = 0x55 then numbered 8 "\\UXXXXXXXX" "illegal Unicode character" rest
    else if c = 0x4E then namedStep rest
    else .chars ['\\', charOf c] 2 ()

/-- Text with escapes of all kinds. -/
def escapedStep (_ : Unit) : List UInt8 → Plain
  | [] => .incomplete
  | b :: rest =>
    if b ≠ backslash then .chars [charOf b] 1 ()
    else
      match rest with
      | [] => .illegal 1 "\\ at end of string"
      | c :: more => behindBackslash c more

/-- Text with escapes by numbers only. -/
def rawStep (_ : Unit) : List UInt8 → Plain
  | [] => .incomplete
  | b :: rest =>
    match rest with
    | [] => .chars [charOf b] 1 ()
    | c :: more =>
      if b ≠ backslash then .chars [charOf b] 1 ()
      else if c = 0x75 then numbered 4 "\\uXXXX" "\\Uxxxxxxxx out of range" more
      else if c = 0x55 then numbered 8 "\\UXXXXXXXX" "\\Uxxxxxxxx out of range" more
      else .chars ['\\', charOf c] 2 ()

def decodeAscii (pos : Nat) (bytes : List UInt8) : Except Error (List Char) :=
  decodeEach "ascii" "ordinal not in range(128)"
    (fun b => if b < 0x80 then some (charOf b) else none) pos bytes

/-- What is wrong with text in Punycode. -/
def codeComplaint : Hostname.Punycode.Flaw → String
  | .notDigit c => s!"Invalid extended code point '{String.singleton c.toUpper}'"
  | .unfinished => "incomplete punicode string"
  | .noCharacter point => s!"Invalid character U+{String.ofList (Nat.toDigits 16 point)}"

/-- The characters of text in Punycode, by their numbers. The last hyphen divides what is written
as it is from the rest. -/
def decodeCode (pos : Nat) (bytes : List UInt8) :
    Except Error (Except Hostname.Punycode.Flaw (List Nat)) := do
  let code := (bytes.reverse.takeWhile (· ≠ 0x2D)).reverse
  let basic ← decodeAscii pos (bytes.take (bytes.length - code.length - 1))
  let code ← decodeAscii pos code
  return Hostname.Punycode.restore basic (code.map Char.toLower)

/-- Text in Punycode. -/
def decodePunycode (bytes : List UInt8) : Except Unreadable (List Char) := do
  match ← (decodeCode 0 bytes).mapError (·.unreadable) with
  | .ok points => return points.map charOfPoint
  | .error flaw => throw (.unusable (codeComplaint flaw))

end RowIngest.Text.Charset
