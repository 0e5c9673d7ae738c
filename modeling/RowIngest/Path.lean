import RowIngest.Text.Blank
import RowIngest.Text.Digit
/-!
Document paths. Written, a path is a list of parts between dots; each part is a key, then
array positions in brackets. Read, it is a list of segments. The empty path is the root.
Paths are shown in two ways: dotted, as a store addresses nested fields, and in brackets,
for messages.
-/
namespace RowIngest

inductive Segment where
  | key (name : String)
  | index (position : Nat)
  deriving DecidableEq, Inhabited

abbrev Path := List Segment

/-- Why a text is no path: a part that does not read, or a position with too many digits. -/
inductive PathError where
  | malformed (path part : String)
  | longIndex (digits : Nat)
  deriving DecidableEq

namespace Segment

/-- The segment by itself: the name of a key, a position in brackets. -/
def display : Segment → String
  | .key name => name
  | .index position => s!"[{position}]"

/-- The segment within a dotted path. -/
def dotted : Segment → String
  | .key name => name
  | .index position => toString position

def isIndex : Segment → Bool
  | .key _ => false
  | .index _ => true

end Segment

namespace Path

/-- Splits at every occurrence of a character; there is always one piece more than occurrences. -/
def splitAt (sep : Char) : List Char → List (List Char)
  | [] => [[]]
  | c :: cs =>
    if c = sep then [] :: splitAt sep cs
    else
      match splitAt sep cs with
      | [] => [[c]]
      | piece :: pieces => (c :: piece) :: pieces

def isBracket (c : Char) : Bool := c == '[' || c == ']'

/-- The digit strings of bracketed positions, which may be followed by one line break at the
end of the part and by nothing else. -/
def indexGroups? (cs : List Char) : Option (List (List Char)) :=
  match cs with
  | [] => some []
  | '\n' :: [] => some []
  | '[' :: rest =>
    let digits := rest.takeWhile Text.isDigit
    match _tail : rest.dropWhile Text.isDigit with
    | ']' :: tail => if digits.isEmpty then none else (indexGroups? tail).map (digits :: ·)
    | _ => none
  | _ :: _ => none
  termination_by cs.length
  decreasing_by
    have := (List.dropWhile_sublist (p := Text.isDigit) (l := rest)).length_le
    simp_all
    omega

/-- A part as its key and the digits of its positions. A part without either is no part. -/
def part? (cs : List Char) : Option (List Char × List (List Char)) :=
  let key := cs.takeWhile (!isBracket ·)
  match indexGroups? (cs.dropWhile (!isBracket ·)) with
  | some groups => if key.isEmpty && groups.isEmpty then none else some (key, groups)
  | none => none

def keySegments (key : List Char) : Path :=
  if key.isEmpty then [] else [.key (String.ofList key)]

/-- The most digits a position may have. -/
def indexDigitLimit : Nat := 4300

def indexSegment (digits : List Char) : Except PathError Segment :=
  if digits.length > indexDigitLimit then .error (.longIndex digits.length)
  else .ok (.index (Text.natOfDigits digits))

def partSegments (path part : List Char) : Except PathError Path :=
  match part? part with
  | none => .error (.malformed (String.ofList path) (String.ofList part))
  | some (key, groups) => do
    let positions ← groups.mapM indexSegment
    return keySegments key ++ positions

/-- Reads a path from trimmed text. -/
def parseTrimmed (cs : List Char) : Except PathError Path :=
  if cs.isEmpty then .ok []
  else (splitAt '.' cs).foldlM (fun segments part => do
    return segments ++ (← partSegments cs part)) []

/-- Reads a path; blanks around it do not count and a blank text is the root. -/
def parse (text : String) : Except PathError Path :=
  parseTrimmed (Text.trimChars Text.isBlank text.toList)

def joined (sep : String) : List String → String
  | [] => ""
  | [s] => s
  | s :: rest => s ++ sep ++ joined sep rest

def dotted (p : Path) : String := joined "." (p.map Segment.dotted)

/-- The path in brackets, behind what has been shown already. -/
def displayFrom (shown : String) : Path → String
  | [] => shown
  | .key name :: rest => displayFrom (if shown.isEmpty then name else shown ++ "." ++ name) rest
  | .index position :: rest => displayFrom (shown ++ s!"[{position}]") rest

/-- The path in brackets, or a word for the root. -/
def display (p : Path) : String :=
  let shown := displayFrom "" p
  if shown.isEmpty then "<root>" else shown

theorem splitAt_ne_nil (sep : Char) (cs : List Char) : splitAt sep cs ≠ [] := by
  induction cs with
  | nil => simp [splitAt]
  | cons c cs ih =>
    by_cases h : c = sep
    · simp [splitAt, h]
    · cases hs : splitAt sep cs with
      | nil => exact absurd hs ih
      | cons piece pieces => simp [splitAt, h, hs]

end Path

end RowIngest
