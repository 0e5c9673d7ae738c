import RowIngest.Text.Quoted
/-!
Decoding UTF-8. A byte either begins a character or continues one; the first byte of a
character tells how many are owed, and in which range the second one must lie. What cannot
be decoded is reported with the bytes of the character that was begun. Half a surrogate pair
is no character, but may be let pass.
-/
namespace RowIngest.Text

/-- Why bytes cannot be decoded: the first of them and its position, or the positions from the
first to the last. -/
def undecodableMessage (codec : String) (byte : UInt8) (start stop : Nat) (reason : String) :
    String :=
  let place :=
    if stop = start + 1 then
      "byte 0x" ++ String.ofList (hexOfWidth 2 byte.toNat) ++ s!" in position {start}"
    else s!"bytes in position {start}-{stop - 1}"
  s!"'{codec}' codec can't decode {place}: {reason}"

namespace Utf8

inductive Reason where
  | badStart
  | badContinuation
  | unexpectedEnd
  deriving DecidableEq

def Reason.text : Reason → String
  | .badStart => "invalid start byte"
  | .badContinuation => "invalid continuation byte"
  | .unexpectedEnd => "unexpected end of data"

/-- The first byte that cannot be decoded, and the positions from it to those that can. -/
structure Error where
  byte : UInt8
  start : Nat
  stop : Nat
  reason : Reason
  deriving DecidableEq

def Error.message (e : Error) : String :=
  undecodableMessage "utf-8" e.byte e.start e.stop e.reason.text

/-- A character that was begun: its first byte and the position of it, the bytes still owed,
the range of the next one, and the bits so far. -/
structure Pending where
  lead : UInt8
  start : Nat
  owed : Nat
  low : UInt8
  high : UInt8
  bits : Nat

/-- The character that a byte begins, if more than one byte is needed for it. -/
def begin? (halves : Bool) (start : Nat) (b : UInt8) : Option Pending :=
  if 0xC2 ≤ b && b ≤ 0xDF then some ⟨b, start, 1, 0x80, 0xBF, b.toNat - 0xC0⟩
  else if b = 0xE0 then some ⟨b, start, 2, 0xA0, 0xBF, 0⟩
  else if b = 0xED then some ⟨b, start, 2, 0x80, if halves then 0xBF else 0x9F, 0xD⟩
  else if 0xE1 ≤ b && b ≤ 0xEF then some ⟨b, start, 2, 0x80, 0xBF, b.toNat - 0xE0⟩
  else if b = 0xF0 then some ⟨b, start, 3, 0x90, 0xBF, 0⟩
  else if 0xF1 ≤ b && b ≤ 0xF3 then some ⟨b, start, 3, 0x80, 0xBF, b.toNat - 0xF0⟩
  else if b = 0xF4 then some ⟨b, start, 3, 0x80, 0x8F, 4⟩
  else none

/-- The character of a code point; half a surrogate pair is replaced. -/
def charOf (point : Nat) : Char :=
  if 0xD800 ≤ point && point < 0xE000 then Char.ofNat 0xFFFD else Char.ofNat point

/-- Decodes from a position on; what is decoded already is kept in reverse. -/
def decodeFrom (halves : Bool) (done : List Char) :
    Nat → Option Pending → List UInt8 → Except Error (List Char)
  | _, none, [] => .ok done.reverse
  | pos, some p, [] => .error ⟨p.lead, p.start, pos, .unexpectedEnd⟩
  | pos, none, b :: bs =>
    if b < 0x80 then decodeFrom halves (charOf b.toNat :: done) (pos + 1) none bs
    else
      match begin? halves pos b with
      | none => .error ⟨b, pos, pos + 1, .badStart⟩
      | some p => decodeFrom halves done (pos + 1) (some p) bs
  | pos, some p, b :: bs =>
    if p.low ≤ b && b ≤ p.high then
      let bits := p.bits * 64 + (b.toNat - 0x80)
      if p.owed ≤ 1 then decodeFrom halves (charOf bits :: done) (pos + 1) none bs
      else
        decodeFrom halves done (pos + 1)
          (some { p with owed := p.owed - 1, low := 0x80, high := 0xBF, bits }) bs
    else .error ⟨p.lead, p.start, pos, .badContinuation⟩

def decode (bytes : List UInt8) : Except Error (List Char) := decodeFrom false [] 0 none bytes

/-- Decodes with a replacement character for each half of a surrogate pair. -/
def decodeHalves (bytes : List UInt8) : Except Error (List Char) :=
  decodeFrom true [] 0 none bytes

/-- Decodes in rounds; every round but the last gets past bytes that cannot be decoded. -/
def decodeLossyFor : Nat → List UInt8 → List Char
  | 0, _ => []
  | fuel + 1, bytes =>
    match decode bytes with
    | .ok cs => cs
    | .error e =>
      ((decode (bytes.take e.start)).toOption.getD []) ++ Char.ofNat 0xFFFD ::
        decodeLossyFor fuel (bytes.drop e.stop)

/-- Decodes with a replacement character in place of what cannot be decoded. -/
def decodeLossy (bytes : List UInt8) : List Char := decodeLossyFor (bytes.length + 1) bytes

end Utf8

end RowIngest.Text
