import RowIngest.Fault
import RowIngest.Hostname.Context
import RowIngest.Hostname.Permitted
import RowIngest.Hostname.Punycode
/-!
Labels, the parts of a name between its points. A label is in its composed form, has the
characters that names may have, each in its place, and follows the rules of directions. In a name
of ASCII a label with other characters is written in Punycode behind a mark of its own. Main
statement: a label of permitted ASCII characters that has no hyphen is well formed.
-/
namespace RowIngest.Hostname

/-- A label by its code points; half a surrogate pair may be among them. -/
abbrev Label := List Nat

/-- What is wrong with a name. Positions count from one. -/
inductive Flaw where
  | emptyName
  | longName
  | emptyLabel
  | longLabel
  | uncomposed
  | innerHyphens
  | outerHyphen
  | leadingMark
  | forbidden (point position : Nat) (label : Label)
  | joiner (point position : Nat) (label : Label)
  /-- A joiner behind a character of which nothing is known. -/
  | unknownNeighbour (point position : Nat) (label : Label)
  | misplaced (point position : Nat) (label : Label)
  | direction (flaw : DirectionFlaw) (label : Label)
  /-- Nothing follows the mark of Punycode. -/
  | nothingEncoded
  | finalHyphen
  | notPunycode
  /-- The label has another Punycode than the one it is written in. -/
  | otherPunycode

namespace Label

def isSurrogate (n : Nat) : Bool := 0xD800 ≤ n && n < 0xE000

def quoted (label : Label) : String :=
  let q := Text.quoteFor (label.map Char.ofNat)
  let piece (n : Nat) : List Char :=
    if isSurrogate n then ['\\', 'u'] ++ Text.hexOfWidth 4 n else Text.escapeChar q (Char.ofNat n)
  String.ofList (q :: label.flatMap piece ++ [q])

end Label

namespace Flaw

/-- The name of a code point: its number in hexadecimal, four digits at least. -/
def pointName (n : Nat) : String :=
  let width := max 4 (Nat.toDigits 16 n).length
  "U+" ++ String.ofList ((Text.hexOfWidth width n).map Char.toUpper)

/-- A code point, and where it is. -/
def place (point position : Nat) (words : String) (label : Label) : String :=
  pointName point ++ words ++ s!" at position {position} in " ++ label.quoted

def directionMessage (label : Label) : DirectionFlaw → String
  | .unknown position =>
    "Unknown directionality in label " ++ label.quoted ++ s!" at position {position}"
  | .start => "First codepoint in label " ++ label.quoted ++ " must be directionality L, R or AL"
  | .among position leftward =>
    let way := if leftward then "right-to-left" else "left-to-right"
    s!"Invalid direction for codepoint at position {position} in a {way} label"
  | .digits => "Can not mix numeral types in a right-to-left label"
  | .ending => "Label ends with illegal codepoint directionality"

def message : Flaw → String
  | .emptyName => "Empty domain"
  | .longName => "Domain too long"
  | .emptyLabel => "Empty Label"
  | .longLabel => "Label too long"
  | .uncomposed => "Label must be in Normalization Form C"
  | .innerHyphens => "Label has disallowed hyphens in 3rd and 4th position"
  | .outerHyphen => "Label must not start or end with a hyphen"
  | .leadingMark => "Label begins with an illegal combining character"
  | .forbidden point position label =>
    "Codepoint " ++ pointName point ++ s!" at position {position} of " ++ label.quoted
      ++ " not allowed"
  | .joiner point position label => "Joiner " ++ place point position " not allowed" label
  | .unknownNeighbour point position label =>
    "Unknown codepoint adjacent to joiner " ++ place point position "" label
  | .misplaced point position label => "Codepoint " ++ place point position " not allowed" label
  | .direction flaw label => directionMessage label flaw
  | .nothingEncoded => "Malformed A-label, no Punycode eligible content found"
  | .finalHyphen => "A-label must not end with a hyphen"
  | .notPunycode => "Invalid A-label"
  | .otherPunycode => "A-label is not the canonical Punycode encoding of its U-label"

def kind : Flaw → ForeignKind
  | .forbidden .. => .badHostname .character
  | .joiner .. | .misplaced .. => .badHostname .context
  | .direction .. => .badHostname .direction
  | _ => .badHostname .form

def error (f : Flaw) : ForeignError := ⟨f.kind, f.message⟩

end Flaw

namespace Label

/-- Checks the characters of a label behind those of `before`, the nearest of which comes first. -/
def checkBehind (label : Label) (before : List Nat) : List Nat → Except Flaw Unit
  | [] => .ok ()
  | n :: rest =>
    let position := before.length + 1
    let goOn := checkBehind label (n :: before) rest
    if isPermitted n then goOn
    else if isJoiner n then
      match joins? n before rest with
      | some true => goOn
      | some false => .error (.joiner n position label)
      | none => .error (.unknownNeighbour n position label)
    else
      match isInPlace? label before rest n with
      | some true => goOn
      | some false => .error (.misplaced n position label)
      | none => .error (.forbidden n position label)

def hyphen : Nat := 0x2D

/-- The most characters a label has before it is looked at any closer. -/
def roughLimit : Nat := 254

/-- The most characters a label has in ASCII. -/
def limit : Nat := 63

/-- Checks a label as it is meant. -/
def check (label : Label) : Except Flaw Unit := do
  if label.isEmpty then throw .emptyLabel
  if label.length > roughLimit then throw .longLabel
  if !Text.isComposed label then throw .uncomposed
  if (label.drop 2).take 2 = [hyphen, hyphen] then throw .innerHyphens
  if label.head? = some hyphen || label.getLast? = some hyphen then throw .outerHyphen
  if label.head?.any Text.isMark then throw .leadingMark
  checkBehind label [] label
  (checkDirections label).mapError (.direction · label)

def isAscii (label : Label) : Bool := label.all Punycode.isBasic

def lowerAscii (label : Label) : List Char := label.map fun n => (Char.ofNat n).toLower

/-- What a label in Punycode begins with. -/
def codeMark : List Char := ['x', 'n', '-', '-']

/-- The label that is meant. -/
def meant (label : Label) : Except Flaw Label := do
  if !label.isAscii then
    check label
    return label
  let plain := label.lowerAscii
  if !codeMark.isPrefixOf plain then
    check (plain.map Char.toNat)
    return plain.map Char.toNat
  let code := plain.drop codeMark.length
  if code.isEmpty then throw .nothingEncoded
  if code.getLast? = some '-' then throw .finalHyphen
  match Punycode.decode? code with
  | none => throw .notPunycode
  | some label =>
    check label
    if Punycode.encode label ≠ code then throw .otherPunycode
    return label

/-- The label in ASCII. -/
def ascii (label : Label) : Except Flaw (List Char) := do
  let written ←
    if label.isAscii then do
      let _ ← meant label
      pure (label.map Char.ofNat)
    else do
      check label
      pure (codeMark ++ Punycode.encode label)
  if written.length > limit then throw .longLabel
  return written

end Label

end RowIngest.Hostname
