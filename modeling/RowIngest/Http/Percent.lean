import RowIngest.Json.Reader
import RowIngest.Text.Utf8
/-!
Percent codes. In an address the bytes of a character may be written as codes of two hexadecimal
digits each. Main statement: text of kept characters is written as it is.
-/
namespace RowIngest.Http.Percent

def upperHex (n : Nat) : Char := if n < 10 then Char.ofNat (48 + n) else Char.ofNat (55 + n)

def code (b : UInt8) : List Char := ['%', upperHex (b.toNat / 16), upperHex (b.toNat % 16)]

/-- A character that is kept, or else the codes of its bytes. -/
def encodeChar (keeps : Char → Bool) (c : Char) : List Char :=
  if keeps c then [c] else (String.singleton c).toUTF8.toList.flatMap code

/-- Writes characters as codes, but for those that are kept. -/
def encode (keeps : Char → Bool) (s : String) : String :=
  String.ofList (s.toList.flatMap (encodeChar keeps))

def hexValue? (b : UInt8) : Option Nat := Json.hexValue? (Char.ofNat b.toNat)

/-- Resolves codes; a percent sign that begins no code stands for itself. -/
def decodeBytes : List UInt8 → List UInt8
  | [] => []
  | b :: rest =>
    if b = 0x25 then
      match rest with
      | high :: low :: rest' =>
        match hexValue? high, hexValue? low with
        | some h, some l => UInt8.ofNat (h * 16 + l) :: decodeBytes rest'
        | _, _ => b :: decodeBytes (high :: low :: rest')
      | _ => b :: rest
    else b :: decodeBytes rest

def decode (s : String) : String :=
  String.ofList (Text.Utf8.decodeLossy (decodeBytes s.toUTF8.toList))

theorem flatMap_encodeChar {keeps : Char → Bool} {cs : List Char} (h : ∀ c ∈ cs, keeps c) :
    cs.flatMap (encodeChar keeps) = cs := by
  induction cs with
  | nil => rfl
  | cons c cs ih =>
    have hc : encodeChar keeps c = [c] := if_pos (h c List.mem_cons_self)
    rw [List.flatMap_cons, hc, ih fun d hd => h d (List.mem_cons_of_mem c hd)]
    rfl

theorem encode_eq_self {keeps : Char → Bool} {s : String} (h : ∀ c ∈ s.toList, keeps c) :
    encode keeps s = s := by
  rw [encode, flatMap_encodeChar h, String.ofList_toList]

end RowIngest.Http.Percent
