import RowIngest.Text.Charset.Decoding
import RowIngest.Text.Charset.KoreanTable
/-!
The charsets of Korea. Two bytes stand for a character of the national set. The usual system adds
the syllables that are not in the set, in their order; the older charset composes a syllable of
letters with five bits each.
-/
namespace RowIngest.Text.Charset

/-- The first syllable of all. -/
def firstSyllable : Nat := 0xAC00

/-- The letters a syllable may begin with, and those it may end with. -/
def initials : List Char := "ㄱㄲㄴㄷㄸㄹㅁㅂㅃㅅㅆㅇㅈㅉㅊㅋㅌㅍㅎ".toList

def finals : List Char := "ㄱㄲㄳㄴㄵㄶㄷㄹㄺㄻㄼㄽㄾㄿㅀㅁㅂㅄㅅㅆㅇㅈㅊㅋㅌㅍㅎ".toList

/-- The first of the consonants, and the first of the vowels. -/
def firstConsonant : Nat := 0x3131

def firstVowel : Nat := 0x314F

/-- The syllable of an initial letter, a vowel and a final letter, where 0 is none. -/
def syllable (initial vowel final : Nat) : Char :=
  Char.ofNat (firstSyllable + (initial * 21 + vowel) * 28 + final)

/-- A syllable of four pairs of bytes, of which the first two bytes were read. Each letter is
that of the national set. -/
def spelled (rest : List UInt8) : Plain :=
  let consonant (n : Nat) : Char := Char.ofNat (firstConsonant + (n - 0xA1))
  let isConsonant (n : Nat) : Bool := 0xA1 ≤ n && n ≤ 0xBE
  match rest with
  | _ :: a :: initial :: b :: vowel :: c :: final :: _ =>
    let v := vowel.toNat
    let final? : Option Nat :=
      if final = 0xD4 then some 0
      else if isConsonant final.toNat then
        (finals.idxOf? (consonant final.toNat)).map (· + 1)
      else none
    let initial? : Option Nat :=
      if isConsonant initial.toNat then initials.idxOf? (consonant initial.toNat) else none
    if [a, b, c].all (· = 0xA4) && 0xBF ≤ v && v ≤ 0xD3 then
      .ofChar? 8 (do return syllable (← initial?) (v - 0xBF) (← final?))
    else .unknown 1
  | _ => .incomplete

/-- A byte with its highest bit turned. -/
def turned (n : Nat) : Nat := if n < 0x80 then n + 0x80 else n - 0x80

/-- The syllables of the national set, in their order. -/
def commonSyllables : List Char := (koreanSet.rows.toList.drop 15).take 25 |>.flatMap String.toList

/-- A syllable that is not in the national set, by its number among those. -/
def rareSyllable (n : Nat) : Char :=
  Char.ofNat (commonSyllables.foldl (fun point c => if c.toNat ≤ point then point + 1 else point)
    (firstSyllable + n))

/-- The place of a second byte of a syllable that is not in the national set: behind capital
letters, small letters and bytes from `0x81` on. -/
def rarePlace? (n : Nat) : Option Nat :=
  if 0x41 ≤ n && n ≤ 0x5A then some (n - 0x41)
  else if 0x61 ≤ n && n ≤ 0x7A then some (n - 0x61 + 26)
  else if 0x81 ≤ n && n ≤ 0xFE then some (n - 0x81 + 52)
  else none

/-- The syllables of a first byte; there are fewer of them where the national set begins. -/
def rareSyllable? (a b : Nat) : Option Char := do
  let place ← rarePlace? b
  if 0x81 ≤ a && a ≤ 0xA0 then return rareSyllable ((a - 0x81) * 178 + place)
  else if 0xA1 ≤ a && a ≤ 0xC5 && place < 84 then
    return rareSyllable (32 * 178 + (a - 0xA1) * 84 + place)
  else if a = 0xC6 && place < 18 then return rareSyllable (32 * 178 + 37 * 84 + place)
  else none

/-- The usual charset of Korea, with all syllables or with those of the national set. -/
def koreanStep (hasRare : Bool) (_ : Unit) : List UInt8 → Plain
  | [] => .incomplete
  | first :: rest =>
    let a := first.toNat
    if a < 0x80 then .chars [Char.ofNat a] 1 ()
    else
      .pair rest fun b =>
        if a = 0xA4 && b = 0xD4 && !hasRare then spelled rest
        else
          .ofChar? 2 ((koreanSet.at? (turned a) (turned b)).or
            (if hasRare then rareSyllable? a b else none))

/-- A letter among 32 places, where some are free and one stands for no letter. -/
inductive Letter where
  | free
  | none
  | some (n : Nat)
  deriving DecidableEq

def initialOf (n : Nat) : Letter :=
  if n = 1 then .none else if 2 ≤ n && n ≤ 20 then .some (n - 2) else .free

def vowelOf (n : Nat) : Letter :=
  if n = 2 then .none
  else if 3 ≤ n && n ≤ 7 then .some (n - 3)
  else if 10 ≤ n && n ≤ 15 then .some (n - 5)
  else if 18 ≤ n && n ≤ 23 then .some (n - 7)
  else if 26 ≤ n && n ≤ 29 then .some (n - 9)
  else .free

def finalOf (n : Nat) : Letter :=
  if n = 1 then .none
  else if 2 ≤ n && n ≤ 17 then .some (n - 1)
  else if 19 ≤ n && n ≤ 29 then .some (n - 2)
  else .free

/-- A syllable of letters with five bits each, or a letter by itself. -/
def composed? (bits : Nat) : Option Char :=
  match initialOf (bits / 1024 % 32), vowelOf (bits / 32 % 32), finalOf (bits % 32) with
  | .some initial, .some vowel, .some final => some (syllable initial vowel final)
  | .some initial, .some vowel, .none => some (syllable initial vowel 0)
  | .some initial, .none, .none => initials[initial]?
  | .none, .some vowel, .none => some (Char.ofNat (firstVowel + vowel))
  | .none, .none, .some final => finals[final - 1]?
  | .none, .none, .none => some (Char.ofNat 0x3000)
  | _, _, _ => none

/-- Other characters of the national set, two rows for each first byte. -/
def uncomposed? (a b : Nat) : Option Char :=
  if a < 0xD9 || a = 0xDF || a > 0xF9 || b < 0x31 || (0x80 ≤ b && b < 0x91) || b % 0x80 = 0x7F
      || (a = 0xDA && 0xA1 ≤ b && b ≤ 0xD3) then none
  else
    let row := if a < 0xE0 then 2 * (a - 0xD9) else 2 * a - 0x197
    let column := if b < 0x91 then b - 0x31 else b - 0x43
    if column < 94 then koreanSet.at? (row + 0x21) (column + 0x21)
    else koreanSet.at? (row + 0x22) (column - 94 + 0x21)

/-- The charset of composed syllables. -/
def composingStep (_ : Unit) : List UInt8 → Plain
  | [] => .incomplete
  | first :: rest =>
    let a := first.toNat
    if a < 0x80 then .chars [Char.ofNat a] 1 ()
    else
      .pair rest fun b =>
        .ofChar? 2 (if a < 0xD8 then composed? (a * 256 + b) else uncomposed? a b)

end RowIngest.Text.Charset
