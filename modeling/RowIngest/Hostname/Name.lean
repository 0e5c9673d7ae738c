import RowIngest.Hostname.Label
/-!
Names of hosts: labels with points between them, and perhaps a point at the end. They are sent
in ASCII and shown as they are meant.
-/
namespace RowIngest.Hostname

/-- The points between labels, those of other scripts among them. -/
def isPoint (n : Nat) : Bool := n = 0x2E || n = 0x3002 || n = 0xFF0E || n = 0xFF61

/-- The parts between points. -/
def labelsOf : List Nat → List Label
  | [] => [[]]
  | n :: rest =>
    match labelsOf rest with
    | [] => [[n]]
    | label :: labels => if isPoint n then [] :: label :: labels else (n :: label) :: labels

/-- The most characters of a name, and of one with a point at its end. -/
def nameLimit (isEnded : Bool) : Nat := if isEnded then 254 else 253

/-- The labels of a name, and whether a point ends it. -/
def split (name : List Nat) : Except Flaw (List Label × Bool) :=
  let labels := labelsOf name
  if name.length > nameLimit true then .error .longName
  else if labels = [[]] then .error .emptyName
  else if labels.getLast? = some [] then .ok (labels.dropLast, true)
  else .ok (labels, false)

/-- Labels with points between them, and behind them if the name has one there. -/
def join (labels : List String) (isEnded : Bool) : String :=
  ".".intercalate (labels ++ if isEnded then [""] else [])

/-- The name in ASCII. -/
def encode (name : String) : Except Flaw String := do
  let (labels, isEnded) ← split (name.toList.map Char.toNat)
  let written ← labels.mapM Label.ascii
  let joined := join (written.map String.ofList) isEnded
  if joined.length > nameLimit isEnded then throw .longName
  return joined

/-- The name that is meant by one in ASCII. -/
def decode (name : String) : Except Flaw String := do
  let (labels, isEnded) ← split (name.toList.map Char.toNat)
  let meant ← labels.mapM Label.meant
  return join (meant.map fun label => String.ofList (label.map Char.ofNat)) isEnded

/-- The name as it is shown. One that does not begin with Punycode is shown as it is. -/
def shown (name : String) : Except Flaw String :=
  if Label.codeMark.isPrefixOf name.toList then decode name else .ok name

end RowIngest.Hostname
