import RowIngest.Json.Error
import RowIngest.Value
/-!
Reading JSON text into a value. Beyond the standard, the words NaN, Infinity and -Infinity
are numbers. A number without fraction and exponent is an integer of any size up to a limit
of digits; a repeated name keeps its first place and its last value. The first fault met
from the left is the one reported. How much is put up with is laid down by rules.
-/
namespace RowIngest.Json

/-- What is put up with in a text. Where a limit is missing there is none. -/
structure Rules where
  /-- The most digits of an integer. -/
  integerDigits : Option Nat
  /-- The most digits that a number with fraction or exponent has before them. -/
  wholeDigits : Option Nat
  /-- The most containers that lie in one another, the empty ones not counted. -/
  depth : Option Nat
  /-- Half a surrogate pair is refused; otherwise it is replaced. -/
  wantsPairs : Bool

namespace Rules

def unlimited : Rules := ⟨none, none, none, false⟩

def usual : Rules := ⟨some integerDigitLimit, none, none, false⟩

/-- The rules for text that is written by hand. -/
def strict : Rules := ⟨some integerDigitLimit, some integerDigitLimit, some 200, true⟩

end Rules

/-- Why reading stopped: a complaint at a position, or an integer that is too long. -/
inductive Halt where
  | at (complaint : Complaint) (position : Nat)
  | longInteger (digits : Nat)

/-- What was read, the position after it, and the text from there. -/
structure Step (α : Type) where
  result : α
  position : Nat
  rest : List Char

def isSpace (c : Char) : Bool := c == ' ' || c == '\t' || c == '\n' || c == '\r'

def skipSpace : Nat → List Char → Nat × List Char
  | pos, [] => (pos, [])
  | pos, c :: cs => if isSpace c then skipSpace (pos + 1) cs else (pos, c :: cs)

def hexValue? (c : Char) : Option Nat :=
  if '0' ≤ c && c ≤ '9' then some (c.toNat - 48)
  else if 'a' ≤ c && c ≤ 'f' then some (c.toNat - 87)
  else if 'A' ≤ c && c ≤ 'F' then some (c.toNat - 55)
  else none

def hexUnit? (a b c d : Char) : Option Nat :=
  match hexValue? a, hexValue? b, hexValue? c, hexValue? d with
  | some a, some b, some c, some d => some (((a * 16 + b) * 16 + c) * 16 + d)
  | _, _, _, _ => none

def isHighSurrogate (n : Nat) : Bool := 0xD800 ≤ n && n < 0xDC00

def isLowSurrogate (n : Nat) : Bool := 0xDC00 ≤ n && n < 0xE000

def joinSurrogates (high low : Nat) : Char :=
  Char.ofNat (0x10000 + (high - 0xD800) * 0x400 + (low - 0xDC00))

/-- The character of a code unit. Half a surrogate pair has none and is replaced; text with such a
half in it is outside of this model, where two names can become one that differ in nothing else. -/
def unitChar (n : Nat) : Char :=
  if isHighSurrogate n || isLowSurrogate n then Char.ofNat 0xFFFD else Char.ofNat n

def plainEscape? : Char → Option Char
  | '"' => some '"'
  | '\\' => some '\\'
  | '/' => some '/'
  | 'b' => some (Char.ofNat 8)
  | 'f' => some (Char.ofNat 12)
  | 'n' => some '\n'
  | 'r' => some '\r'
  | 't' => some '\t'
  | _ => none

/-- The code unit of an escape that the text starts with, if more text follows it. The unit
is missing where its digits are no hexadecimal ones. -/
def escapedUnit? : List Char → Option (Option Nat × List Char)
  | '\\' :: 'u' :: a :: b :: c :: d :: e :: rest => some (hexUnit? a b c d, e :: rest)
  | _ => none

theorem length_of_escapedUnit? {cs rest : List Char} {unit : Option Nat}
    (h : escapedUnit? cs = some (unit, rest)) : rest.length < cs.length := by
  unfold escapedUnit? at h
  split at h
  · obtain ⟨-, rfl⟩ := Prod.mk.inj (Option.some.inj h)
    simp
  · simp at h

/-- The character of a code unit that is no pair with the next one, if it may stand alone. -/
def loneUnit (rules : Rules) (unit position : Nat) : Except Halt Char :=
  if rules.wantsPairs && (isHighSurrogate unit || isLowSurrogate unit) then
    .error (.at .loneSurrogate position)
  else .ok (unitChar unit)

/-- Reads the rest of a string whose opening quote is at `start`. -/
def stringBody (rules : Rules) (start : Nat) (cs : List Char) (pos : Nat) (acc : List Char) :
    Except Halt (Step String) :=
  match cs with
  | [] => .error (.at .unterminated start)
  | c :: tail =>
    if c = '"' then .ok ⟨String.ofList acc.reverse, pos + 1, tail⟩
    else if c = '\\' then
      match hu : escapedUnit? (c :: tail) with
      | some (none, _) => .error (.at .badUnicodeEscape (pos + 1))
      | some (some unit, rest) =>
        match hl : escapedUnit? rest with
        | some (none, _) =>
          if isHighSurrogate unit then .error (.at .badUnicodeEscape (pos + 7))
          else do stringBody rules start rest (pos + 6) ((← loneUnit rules unit pos) :: acc)
        | some (some low, rest') =>
          if isHighSurrogate unit && isLowSurrogate low then
            stringBody rules start rest' (pos + 12) (joinSurrogates unit low :: acc)
          else do stringBody rules start rest (pos + 6) ((← loneUnit rules unit pos) :: acc)
        | none => do stringBody rules start rest (pos + 6) ((← loneUnit rules unit pos) :: acc)
      | none =>
        match tail with
        | [] => .error (.at .unterminated start)
        | x :: rest =>
          if x = 'u' then .error (.at .badUnicodeEscape (pos + 1))
          else
            match plainEscape? x with
            | none => .error (.at .badEscape pos)
            | some y => stringBody rules start rest (pos + 2) (y :: acc)
    else if c.toNat ≤ 0x1F then .error (.at .control pos)
    else stringBody rules start tail (pos + 1) (c :: acc)
  termination_by cs.length
  decreasing_by
    all_goals simp_wf
    all_goals try have := length_of_escapedUnit? hu
    all_goals try have := length_of_escapedUnit? hl
    all_goals simp_all <;> omega

def natOfAscii (ds : List Char) : Nat := ds.foldl (fun n c => 10 * n + (c.toNat - 48)) 0

/-- The digits of an exponent behind its letter and sign, and what follows them. -/
def exponentPart? (cs : List Char) : Option (Int × List Char) :=
  match cs with
  | e :: rest =>
    if e = 'e' || e = 'E' then
      let (negative, digits) : Bool × List Char :=
        match rest with
        | '-' :: ds => (true, ds)
        | '+' :: ds => (false, ds)
        | ds => (false, ds)
      let ds := digits.takeWhile Char.isDigit
      if ds.isEmpty then none
      else
        let n : Int := natOfAscii ds
        some (if negative then -n else n, digits.dropWhile Char.isDigit)
    else none
  | [] => none

/-- The digits behind a point, if there are any, and what follows them. -/
def fractionPart? (cs : List Char) : Option (List Char × List Char) :=
  match cs with
  | '.' :: rest =>
    let ds := rest.takeWhile Char.isDigit
    if ds.isEmpty then none else some (ds, rest.dropWhile Char.isDigit)
  | _ => none

/-- The digits before the point: a zero alone, or digits that do not start with zero. -/
def wholePart? (cs : List Char) : Option (List Char × List Char) :=
  match cs with
  | [] => none
  | c :: rest =>
    if c = '0' then some ([c], rest)
    else if c.isDigit then some (cs.takeWhile Char.isDigit, cs.dropWhile Char.isDigit)
    else none

/-- Reads a number behind its sign; a number with too many digits yields how many. -/
def unsignedNumber (rules : Rules) (negative : Bool) (cs : List Char) :
    Option (Except Nat (Value × List Char)) :=
  (wholePart? cs).map fun (whole, afterWhole) =>
    let (fraction, afterFraction) := (fractionPart? afterWhole).getD ([], afterWhole)
    let mantissa := natOfAscii (whole ++ fraction)
    let ofDecimal (exponent : Int) : Value :=
      .float (.ofDecimal negative mantissa (exponent - fraction.length))
    let exceeds (limit : Option Nat) : Bool := limit.any (· < whole.length)
    match exponentPart? afterFraction with
    | some (exponent, rest) =>
      if exceeds rules.wholeDigits then .error whole.length else .ok (ofDecimal exponent, rest)
    | none =>
      if fraction.isEmpty then
        if exceeds rules.integerDigits then .error whole.length
        else .ok (.int (if negative then -(mantissa : Int) else mantissa), afterFraction)
      else if exceeds rules.wholeDigits then .error whole.length
      else .ok (ofDecimal 0, afterFraction)

/-- Words that stand for a value. -/
def words : List (List Char × Value) :=
  [("null".toList, .null), ("true".toList, .bool true), ("false".toList, .bool false),
   ("NaN".toList, .float .nan), ("Infinity".toList, .float (.infinity false)),
   ("-Infinity".toList, .float (.infinity true))]

def word? (cs : List Char) : Option (Value × List Char) :=
  words.findSome? fun (w, v) => if w.isPrefixOf cs then some (v, cs.drop w.length) else none

/-- Reads a value that is neither a string nor a container. -/
def scalar (rules : Rules) (pos : Nat) (cs : List Char) : Except Halt (Step Value) :=
  let afterwards (rest : List Char) : Nat := pos + (cs.length - rest.length)
  match word? cs with
  | some (v, rest) => .ok ⟨v, afterwards rest, rest⟩
  | none =>
    let (negative, body) : Bool × List Char :=
      match cs with
      | '-' :: rest => (true, rest)
      | _ => (false, cs)
    match unsignedNumber rules negative body with
    | none => .error (.at .value pos)
    | some (.error digits) => .error (.longInteger digits)
    | some (.ok (v, rest)) => .ok ⟨v, afterwards rest, rest⟩

mutual

/-- Reads one value, which lies in `depth` containers. `fuel` bounds the steps, of which each
character takes at most two. -/
def value (rules : Rules) (depth : Nat) : Nat → Nat → List Char → Except Halt (Step Value)
  | 0, pos, _ => .error (.at .value pos)
  | fuel + 1, pos, cs =>
    match cs with
    | '"' :: rest => do
      let s ← stringBody rules pos rest (pos + 1) []
      return ⟨.str s.result, s.position, s.rest⟩
    | '[' :: rest =>
      match skipSpace (pos + 1) rest with
      | (after, ']' :: tail) => .ok ⟨.list [], after + 1, tail⟩
      | (after, tail) =>
        if rules.depth.any (· ≤ depth) then .error (.at .depth pos)
        else items rules (depth + 1) fuel after tail []
    | '{' :: rest =>
      match skipSpace (pos + 1) rest with
      | (after, '}' :: tail) => .ok ⟨.obj [], after + 1, tail⟩
      | (after, tail) =>
        if rules.depth.any (· ≤ depth) then .error (.at .depth pos)
        else members rules (depth + 1) fuel after tail []
    | _ => scalar rules pos cs

/-- Reads the items of an array from the first one on. -/
def items (rules : Rules) (depth : Nat) :
    Nat → Nat → List Char → List Value → Except Halt (Step Value)
  | 0, pos, _, _ => .error (.at .value pos)
  | fuel + 1, pos, cs, acc => do
    let item ← value rules depth fuel pos cs
    let acc := item.result :: acc
    match skipSpace item.position item.rest with
    | (after, ']' :: tail) => return ⟨.list acc.reverse, after + 1, tail⟩
    | (after, ',' :: tail) =>
      let (next, tail) := skipSpace (after + 1) tail
      items rules depth fuel next tail acc
    | (after, _) => .error (.at .comma after)

/-- Reads the members of an object from the first one on. -/
def members (rules : Rules) (depth : Nat) :
    Nat → Nat → List Char → List (String × Value) → Except Halt (Step Value)
  | 0, pos, _, _ => .error (.at .value pos)
  | fuel + 1, pos, cs, acc => do
    match cs with
    | '"' :: rest =>
      let name ← stringBody rules pos rest (pos + 1) []
      match skipSpace name.position name.rest with
      | (colon, ':' :: tail) =>
        let (start, tail) := skipSpace (colon + 1) tail
        let item ← value rules depth fuel start tail
        let acc := (name.result, item.result) :: acc
        match skipSpace item.position item.rest with
        | (after, '}' :: tail) =>
          return ⟨.obj (Fields.ofPairs acc.reverse), after + 1, tail⟩
        | (after, ',' :: tail) =>
          let (next, tail) := skipSpace (after + 1) tail
          members rules depth fuel next tail acc
        | (after, _) => .error (.at .comma after)
      | (colon, _) => .error (.at .colon colon)
    | _ => .error (.at .name pos)

end

/-- Reads a whole text, which holds one value and space around it. -/
def scanText (rules : Rules) (text : List Char) : Except Halt Value := do
  if text.head? = some (Char.ofNat 0xFEFF) then throw (.at .byteOrderMark 0)
  let (start, cs) := skipSpace 0 text
  let v ← value rules 0 (2 * text.length + 2) start cs
  match skipSpace v.position v.rest with
  | (_, []) => return v.result
  | (after, _) => throw (.at .extraData after)

def readWith (rules : Rules) (text : String) : Except Error Value :=
  let cs := text.toList
  match scanText rules cs with
  | .ok v => .ok v
  | .error (.at complaint position) => .error (Error.at cs complaint position)
  | .error (.longInteger digits) => .error (.longInteger digits)

/-- Reads JSON text by the usual rules. -/
def read (text : String) : Except Error Value := readWith .usual text

end RowIngest.Json
