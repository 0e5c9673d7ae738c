import RowIngest.Text.Charset.Decoding
/-!
Charsets for all characters, with units of two or four bytes, or within ASCII. Units may have
their bytes in either order, which a mark in front tells. Within ASCII, characters stand between
a plus and a minus sign as numbers of base 64.
-/
namespace RowIngest.Text

inductive ByteOrder where
  | big
  | little
  deriving DecidableEq

namespace Charset

def unit (order : ByteOrder) (a b : UInt8) : Nat :=
  match order with
  | .big => a.toNat * 256 + b.toNat
  | .little => b.toNat * 256 + a.toNat

def isHigh (u : Nat) : Bool := 0xD800 ≤ u && u < 0xDC00

def isLow (u : Nat) : Bool := 0xDC00 ≤ u && u < 0xE000

/-- The character of a high and a low unit. -/
def joined (high low : Nat) : Char :=
  Char.ofNat (0x10000 + (high - 0xD800) * 0x400 + (low - 0xDC00))

def orderName : ByteOrder → String
  | .big => "be"
  | .little => "le"

def decode16 (order : ByteOrder) (pos : Nat) (bytes : List UInt8) : Except Error (List Char) :=
  let refuse (b : UInt8) (stop : Nat) (reason : String) : Except Error (List Char) :=
    .error ⟨"utf-16-" ++ orderName order, b, pos, stop, reason⟩
  match bytes with
  | [] => .ok []
  | [b] => refuse b (pos + 1) "truncated data"
  | a :: b :: rest =>
    let u := unit order a b
    if isLow u then refuse a (pos + 2) "illegal encoding"
    else if isHigh u then
      match rest with
      | c :: d :: more =>
        let v := unit order c d
        if isLow v then (decode16 order (pos + 4) more).map (joined u v :: ·)
        else refuse a (pos + 2) "illegal UTF-16 surrogate"
      | _ => refuse a (pos + 2 + rest.length) "unexpected end of data"
    else (decode16 order (pos + 2) rest).map (Char.ofNat u :: ·)

def decode32 (order : ByteOrder) (pos : Nat) (bytes : List UInt8) : Except Error (List Char) :=
  let refuse (b : UInt8) (stop : Nat) (reason : String) : Except Error (List Char) :=
    .error ⟨"utf-32-" ++ orderName order, b, pos, stop, reason⟩
  match bytes with
  | [] => .ok []
  | a :: b :: c :: d :: rest =>
    let point :=
      match order with
      | .big => unit order a b * 0x10000 + unit order c d
      | .little => unit order c d * 0x10000 + unit order a b
    if isHigh point || isLow point then
      refuse a (pos + 4) "code point in surrogate code point range(0xd800, 0xe000)"
    else if point ≥ 0x110000 then refuse a (pos + 4) "code point not in range(0x110000)"
    else (decode32 order (pos + 4) rest).map (Char.ofNat point :: ·)
  | b :: more => refuse b (pos + 1 + more.length) "truncated data"

/-- Decodes what has a mark in front; in `mark`, the order that the mark tells. What has none is
not read even where it could be. -/
def decodeMarked (width : Nat) (name : String) (mark : Option ByteOrder)
    (decode : ByteOrder → Nat → List UInt8 → Except Error (List Char)) (bytes : List UInt8) :
    Except Unreadable (List Char) :=
  match mark with
  | some order => (decode order width (bytes.drop width)).mapError (·.unreadable)
  | none => do
    let cs ← (decode .little 0 bytes).mapError (·.unreadable)
    if cs.isEmpty then .ok []
    else .error (.unusable (name ++ " stream does not start with BOM"))

def mark16? : List UInt8 → Option ByteOrder
  | 0xFF :: 0xFE :: _ => some .little
  | 0xFE :: 0xFF :: _ => some .big
  | _ => none

def mark32? : List UInt8 → Option ByteOrder
  | 0xFF :: 0xFE :: 0 :: 0 :: _ => some .little
  | 0 :: 0 :: 0xFE :: 0xFF :: _ => some .big
  | _ => none

/-- A digit of base 64. -/
def sixBits? (b : UInt8) : Option Nat :=
  let n := b.toNat
  if 0x41 ≤ n && n ≤ 0x5A then some (n - 0x41)
  else if 0x61 ≤ n && n ≤ 0x7A then some (n - 0x61 + 26)
  else if 0x30 ≤ n && n ≤ 0x39 then some (n - 0x30 + 52)
  else if n = 0x2B then some 62
  else if n = 0x2F then some 63
  else none

/-- What is known between a plus and a minus sign: where the plus sign is, the bits that make no
unit yet with how many they are, and a high unit that waits for a low one. -/
structure Shifted where
  start : Nat
  pending : Nat
  bits : Nat
  high? : Option Nat

/-- What stands for half a pair of units, which is no character. -/
def half : Char := Char.ofNat 0xFFFD

namespace Shifted

/-- Takes six more bits, and gives the characters that they complete. -/
def take (s : Shifted) (digit : Nat) : List Char × Shifted :=
  let pending := s.pending * 64 + digit
  let bits := s.bits + 6
  if bits < 16 then ([], { s with pending := pending, bits := bits })
  else
    let rest := Nat.pow 2 (bits - 16)
    let u := pending / rest
    let next : Shifted := ⟨s.start, pending % rest, bits - 16, none⟩
    match s.high? with
    | some high =>
      if isLow u then ([joined high u], next)
      else if isHigh u then ([half], { next with high? := some u })
      else ([half, Char.ofNat u], next)
    | none =>
      if isHigh u then ([], { next with high? := some u })
      else ([if isLow u then half else Char.ofNat u], next)

/-- What is wrong with bits that are left over when other characters follow. -/
def complaint? (s : Shifted) : Option String :=
  if 6 ≤ s.bits then some "partial character in shift sequence"
  else if s.pending ≠ 0 then some "non-zero padding bits in shift sequence"
  else none

def isUnfinished (s : Shifted) : Bool := s.high?.isSome || 6 ≤ s.bits || s.pending ≠ 0

end Shifted

/-- Reads characters within ASCII; `shifted?` tells that a plus sign came before. -/
def decode7 (pos : Nat) (shifted? : Option Shifted) : List UInt8 → Except Error (List Char)
  | [] =>
    match shifted?.filter (·.isUnfinished) with
    | some s => .error ⟨"utf7", 0x2B, s.start, pos, "unterminated shift sequence"⟩
    | none => .ok []
  | b :: rest =>
    let direct (_ : Unit) : Except Error (List Char) :=
      if b = 0x2B then
        match rest with
        | [] => decode7 (pos + 1) (some ⟨pos, 0, 0, none⟩) []
        | c :: more =>
          if c = 0x2D then (decode7 (pos + 2) none more).map ('+' :: ·)
          else if (sixBits? c).isNone then
            .error ⟨"utf7", b, pos, pos + 2, "ill-formed sequence"⟩
          else decode7 (pos + 1) (some ⟨pos, 0, 0, none⟩) (c :: more)
      else if b < 0x80 then (decode7 (pos + 1) none rest).map (Char.ofNat b.toNat :: ·)
      else .error ⟨"utf7", b, pos, pos + 1, "unexpected special character"⟩
    match shifted?, sixBits? b with
    | none, _ => direct ()
    | some s, some digit =>
      let (cs, next) := s.take digit
      (decode7 (pos + 1) (some next) rest).map (cs ++ ·)
    | some s, none =>
      match s.complaint? with
      | some reason => .error ⟨"utf7", 0x2B, s.start, pos + 1, reason⟩
      | none =>
        let left := if s.high?.isSome && b < 0x80 then [half] else []
        (if b = 0x2D then decode7 (pos + 1) none rest else direct ()).map (left ++ ·)

end Charset

end RowIngest.Text
