import RowIngest.Text.Utf8
/-!
Reading characters from bytes. A charset tells what the next bytes stand for, which may depend on
bytes before them; what it cannot tell is an error. Main statement: where each byte is a character
there are as many characters as bytes.
-/
namespace RowIngest.Text.Charset

/-- What cannot be decoded: the bytes from a position to another, and why. -/
structure Error where
  codec : String
  byte : UInt8
  start : Nat
  stop : Nat
  reason : String

/-- Why text cannot be read: from its bytes, or for a reason of the charset's own. -/
inductive Unreadable where
  | undecodable (message : String)
  | unusable (message : String)

def Error.unreadable (e : Error) : Unreadable :=
  .undecodable (undecodableMessage e.codec e.byte e.start e.stop e.reason)

/-- Decodes bytes each of which is a character. -/
def decodeEach (codec reason : String) (char? : UInt8 → Option Char) (pos : Nat) :
    List UInt8 → Except Error (List Char)
  | [] => .ok []
  | b :: rest =>
    match char? b with
    | none => .error ⟨codec, b, pos, pos + 1, reason⟩
    | some c => (decodeEach codec reason char? (pos + 1) rest).map (c :: ·)

/-- Each byte becomes one character. -/
theorem length_of_decodeEach (bytes : List UInt8) (pos : Nat) {codec reason : String}
    {char? : UInt8 → Option Char} {cs : List Char}
    (h : decodeEach codec reason char? pos bytes = .ok cs) : cs.length = bytes.length := by
  induction bytes generalizing pos cs with
  | nil => simp only [decodeEach, Except.ok.injEq] at h; simp [← h]
  | cons b rest ih =>
    simp only [decodeEach] at h
    split at h
    · simp at h
    · match hr : decodeEach codec reason char? (pos + 1) rest with
      | .error e => simp [hr, Except.map] at h
      | .ok ds =>
        simp only [hr, Except.map, Except.ok.injEq] at h
        simp [← h, ih _ hr]

/-- What the next bytes stand for, and what is to be known about the bytes behind them. -/
inductive Step (σ : Type) where
  /-- The characters of some bytes, one at least. -/
  | chars (cs : List Char) (size : Nat) (state : σ)
  /-- So many bytes stand for nothing. -/
  | illegal (size : Nat) (reason : String)
  /-- The bytes end too early. -/
  | incomplete

/-- So many bytes stand for nothing in a table. -/
def Step.unknown {σ : Type} (size : Nat) : Step σ := .illegal size "illegal multibyte sequence"

/-- Reads the bytes step by step; `skip` of them were read already. -/
def run {σ : Type} (codec : String) (step : σ → List UInt8 → Step σ) (state : σ)
    (skip pos : Nat) : List UInt8 → Except Error (List Char)
  | [] => .ok []
  | b :: rest =>
    match skip with
    | skip + 1 => run codec step state skip (pos + 1) rest
    | 0 =>
      match step state (b :: rest) with
      | .chars cs size next => (run codec step next (size - 1) (pos + 1) rest).map (cs ++ ·)
      | .illegal size reason => .error ⟨codec, b, pos, pos + size, reason⟩
      | .incomplete =>
        .error ⟨codec, b, pos, pos + 1 + rest.length, "incomplete multibyte sequence"⟩

/-- A step where nothing is to be known about bytes before. -/
abbrev Plain := Step Unit

/-- The characters of so many bytes, if there are any. -/
def Plain.ofChars? (size : Nat) : Option (List Char) → Plain
  | some cs => .chars cs size ()
  | none => .unknown 1

def Plain.ofChar? (size : Nat) (c? : Option Char) : Plain := ofChars? size (c?.map ([·]))

/-- What two bytes stand for; the first of them is given. -/
def Plain.pair (rest : List UInt8) (read : Nat → Plain) : Plain :=
  match rest with
  | [] => .incomplete
  | b :: _ => read b.toNat

end RowIngest.Text.Charset
