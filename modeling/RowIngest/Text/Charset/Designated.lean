import RowIngest.Text.Charset.Chinese
import RowIngest.Text.Charset.Japanese
import RowIngest.Text.Charset.Korean
/-!
Charsets that turn between sets of characters. A set is chosen for one of three places by bytes
behind an escape; the first place is read from then on, the second one between shifts, and the
third one for single characters. Main statement: without escapes and shifts ASCII is read as it is.
-/
namespace RowIngest.Text.Charset

/-- A set of characters that can be chosen. -/
inductive Chosen where
  | ascii
  | latin
  | greek
  | roman
  | kana
  | japanese
  | oldJapanese
  | second
  | firstAdded (later : Bool)
  | secondAdded
  | korean
  | chinese
  deriving DecidableEq

/-- The last byte of the escape that chooses a set, and whether its characters have two bytes. -/
def Chosen.mark : Chosen → Nat × Bool
  | .ascii => (0x42, false)
  | .latin => (0x41, false)
  | .greek => (0x46, false)
  | .roman => (0x4A, false)
  | .kana => (0x49, false)
  | .japanese => (0x42, true)
  | .oldJapanese => (0x40, true)
  | .second => (0x44, true)
  | .firstAdded false => (0x4F, true)
  | .firstAdded true => (0x51, true)
  | .secondAdded => (0x50, true)
  | .korean => (0x43, true)
  | .chinese => (0x41, true)

/-- A charset of this kind. -/
structure Turning where
  sets : List Chosen
  hasShifts : Bool
  /-- Single characters can be read from the third place. -/
  hasSingles : Bool
  /-- The escape of the first set of Japan may have another one in front of it. -/
  hasRevision : Bool

namespace Turning

/-- A charset of Japan with some sets. -/
def ofJapan (sets : List Chosen) : Turning := ⟨sets, false, false, true⟩

def japan : Turning := ofJapan [.japanese, .roman, .oldJapanese]

def japanSecond : Turning := ofJapan [.japanese, .second, .roman, .oldJapanese]

/-- With sets of other countries. -/
def japanAbroad : Turning :=
  ⟨[.japanese, .second, .korean, .chinese, .roman, .oldJapanese, .latin, .greek], false, true, true⟩

def japanEarlier : Turning := ofJapan [.japanese, .firstAdded false, .secondAdded]

def japanLater : Turning := ofJapan [.japanese, .firstAdded true, .secondAdded]

/-- With small kana. -/
def japanKana : Turning := ofJapan [.japanese, .second, .roman, .kana, .oldJapanese]

def korea : Turning := ⟨[.korean], true, false, false⟩

end Turning

/-- The sets in their places, whether the second place is read, and whether an escape of another
kind is passed over as it is. -/
structure Places where
  first : Chosen
  second : Chosen
  third : Chosen
  isShifted : Bool
  isPassing : Bool

def Places.start : Places := ⟨.ascii, .ascii, .ascii, false, false⟩

def escape : UInt8 := 0x1B

/-- Whether a byte ends an escape. -/
def endsEscape (b : UInt8) : Bool := (0x41 ≤ b && b ≤ 0x5A) || b = 0x40

/-- The most bytes of an escape. -/
def escapeLimit : Nat := 16

/-- How many bytes an escape has, counted from its byte `n`; none if it has too many. -/
def escapeSize? (t : Turning) (n fuel : Nat) (bytes : List UInt8) : Except Unit (Option Nat) :=
  match fuel, bytes with
  | 0, _ => .ok none
  | _ + 1, [] => if n < escapeLimit then .error () else .ok none
  | fuel + 1, b :: rest =>
    if escapeLimit ≤ n then .ok none
    else if endsEscape b then .ok (some (n + 1))
    else if t.hasRevision && b = 0x26 && rest.head? = some 0x40 then
      escapeSize? t (n + 3) fuel (rest.drop 2)
    else escapeSize? t (n + 1) fuel rest

/-- The place that is chosen for by an escape, and the mark of the set; or how much of it is
wrong. -/
def chosen (t : Turning) (bytes : List UInt8) : Except Nat (Nat × Nat × Bool) :=
  match bytes with
  | [_, 0x24, c] => .ok (0, c.toNat, true)
  | [_, 0x28, c] => .ok (0, c.toNat, false)
  | [_, 0x29, c] => .ok (1, c.toNat, false)
  | [_, 0x2E, c] => if t.hasSingles then .ok (2, c.toNat, false) else .error 3
  | [_, 0x24, 0x28, c] => .ok (0, c.toNat, true)
  | [_, 0x24, 0x29, c] => .ok (1, c.toNat, true)
  | [_, _, _, 0x1B, 0x24, 0x42] => if t.hasRevision then .ok (0, 0x42, true) else .error 6
  | _ => .error bytes.length

/-- Puts a set into its place, as an escape asks. -/
def designate (t : Turning) (s : Places) (bytes : List UInt8) : Step Places :=
  match escapeSize? t 1 escapeLimit (bytes.drop 1) with
  | .error () => .incomplete
  | .ok none => .unknown 1
  | .ok (some size) =>
    match chosen t (bytes.take size) with
    | .error n => .unknown n
    | .ok (place, mark) =>
      match (Chosen.ascii :: t.sets).find? (·.mark = mark) with
      | none => .unknown size
      | some set =>
        .chars [] size
          (match place with
          | 0 => { s with first := set }
          | 1 => { s with second := set }
          | _ => { s with third := set })

/-- How many bytes a character of a set has. -/
def width (set : Chosen) : Nat := if set.mark.2 then 2 else 1

/-- The place of a tilde of full width, which is read as the one of ASCII. -/
def fullTilde : Nat × Nat := (0x22, 0x32)

/-- The characters of a set by their bytes. -/
def charsIn? (set : Chosen) (a b : Nat) : Option (List Char) :=
  let one (c? : Option Char) : Option (List Char) := c?.map ([·])
  match set with
  | .ascii => some [Char.ofNat a]
  | .latin | .greek => none
  | .roman =>
    some [if a = 0x5C then '¥' else if a = 0x7E then '‾' else Char.ofNat a]
  | .kana => one (smallKana? (a + 0x80))
  | .japanese | .oldJapanese => one (firstSet.at? a b)
  | .second => one (secondSet.at? a b)
  | .firstAdded later =>
    if (a, b) = fullTilde then some ['~'] else first? (.added later) a b
  | .secondAdded => one (secondAdded? true a b)
  | .korean => one (koreanSet.at? a b)
  | .chinese => one (chineseSet.at? a b)

/-- The Greek letter of a byte, and the signs among them. -/
def greekChar? (n : Nat) : Option Char :=
  if n < 0xA0 then some (Char.ofNat n)
  else if [0xA0, 0xA3, 0xA6, 0xA7, 0xA8, 0xA9, 0xAB, 0xAC, 0xAD, 0xB0, 0xB1, 0xB2, 0xB3, 0xB7, 0xBB,
      0xBD].contains n then some (Char.ofNat n)
  else if 0xB4 ≤ n && n ≤ 0xFE && !([0xB7, 0xBB, 0xBD, 0xD2].contains n) then
    some (Char.ofNat (0x2D0 + n))
  else if n = 0xA1 then some '‘'
  else if n = 0xA2 then some '’'
  else if n = 0xAF then some '―'
  else none

/-- A single character from the third place, by the byte behind two others. -/
def single (s : Places) (b : UInt8) : Step Places :=
  let n := b.toNat
  let c? : Option Char :=
    match s.third with
    | .latin => if n < 0x80 then some (Char.ofNat (n + 0x80)) else none
    | .greek => greekChar? (turned n)
    | _ => if n < 0x80 then some (Char.ofNat n) else none
  match c? with
  | some c => .chars [c] 3 s
  | none => .unknown 3

/-- What follows an escape. -/
def behindEscape (t : Turning) (s : Places) (rest : List UInt8) : Step Places :=
  match rest with
  | [] => .incomplete
  | b :: more =>
    if [0x28, 0x29, 0x24, 0x2E, 0x26].contains b.toNat then designate t s (escape :: rest)
    else if t.hasSingles && b = 0x4E then
      match more with
      | [] => .incomplete
      | c :: _ => single s c
    else .chars [Char.ofNat escape.toNat] 1 { s with isPassing := true }

/-- A character of the place that is read. -/
def placed (s : Places) (bytes : List UInt8) : Step Places :=
  let set := if s.isShifted then s.second else s.first
  let shown (cs? : Option (List Char)) : Step Places :=
    match cs? with
    | some cs => .chars cs (width set) s
    | none => .unknown (width set)
  match width set, bytes with
  | 1, a :: _ => shown (charsIn? set a.toNat 0)
  | _, a :: b :: _ => shown (charsIn? set a.toNat b.toNat)
  | _, _ => .incomplete

def turningStep (t : Turning) (s : Places) : List UInt8 → Step Places
  | [] => .incomplete
  | b :: rest =>
    let itself := [Char.ofNat b.toNat]
    if s.isPassing then .chars itself 1 { s with isPassing := !endsEscape b }
    else if b = escape then behindEscape t s rest
    else if b = 0x0F && t.hasShifts then .chars [] 1 { s with isShifted := false }
    else if b = 0x0E && t.hasShifts then .chars [] 1 { s with isShifted := true }
    else if b = 0x0A then .chars itself 1 { s with isShifted := false }
    else if b < 0x20 then .chars itself 1 s
    else if 0x80 ≤ b then .unknown 1
    else placed s (b :: rest)

theorem turningStep_ascii (t : Turning) {b : UInt8} (rest : List UInt8) (low : 0x20 ≤ b)
    (high : b < 0x80) :
    turningStep t Places.start (b :: rest) = .chars [Char.ofNat b.toNat] 1 Places.start := by
  have hl : 0x20 ≤ b.toNat := by simpa using UInt8.le_iff_toNat_le.1 low
  have hh : b.toNat < 0x80 := by simpa using UInt8.lt_iff_toNat_lt.1 high
  have ne (n : UInt8) (h : n.toNat < 0x20) : b ≠ n := by
    intro e; subst e; omega
  have h1 := ne escape (by decide)
  have h2 := ne 0x0F (by decide)
  have h3 := ne 0x0E (by decide)
  have h4 := ne 0x0A (by decide)
  have h5 : ¬ b < 0x20 := by simp [UInt8.lt_iff_toNat_lt]; omega
  have h6 : ¬ 0x80 ≤ b := by simp [UInt8.le_iff_toNat_le]; omega
  simp [turningStep, Places.start, h1, h2, h3, h4, h5, h6, placed, width, Chosen.mark, charsIn?]

end RowIngest.Text.Charset
