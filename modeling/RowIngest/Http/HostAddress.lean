import RowIngest.Json.Reader
/-!
Hosts that are written as numbers: four bytes with points between them, or eight groups of
hexadecimal digits with colons between them. A run of groups that are zero may be left out, and
the last two groups may be written as four bytes.
-/
namespace RowIngest.Http.HostAddress

/-- A number without zeros at the front. -/
def byte? (part : String) : Option Nat :=
  let cs := part.toList
  let isPlain := !cs.isEmpty && cs.length ≤ 3 && cs.all Char.isDigit
    && (cs.length = 1 || cs.head? ≠ some '0')
  let n := Json.natOfAscii cs
  if isPlain && n ≤ 255 then some n else none

def isDotted (text : String) : Bool :=
  let parts := text.splitOn "."
  parts.length = 4 && parts.all fun part => (byte? part).isSome

/-- Text that is taken for four numbers: digits with three points between them. -/
def looksDotted (text : String) : Bool :=
  let parts := text.splitOn "."
  parts.length = 4 && parts.all fun part => !part.isEmpty && part.toList.all Char.isDigit

def isGroup (part : String) : Bool :=
  0 < part.length && part.length ≤ 4 && part.toList.all fun c => (Json.hexValue? c).isSome

/-- The groups of an address, with two of them in place of four bytes at the end. -/
def groups? (text : String) : Option (List String) :=
  let parts := text.splitOn ":"
  let last := parts.getLast?.getD ""
  if parts.length < 3 then none
  else if !last.contains '.' then some parts
  else if isDotted last then some (parts.dropLast ++ ["0", "0"])
  else none

/-- Groups between which at most one place is empty. An empty group at an end belongs to it. -/
def areGroups (parts : List String) : Bool :=
  let inner := parts.drop 1 |>.dropLast
  let written := parts.filter (· ≠ "")
  let opensWell := parts.head? ≠ some "" || inner.head? = some ""
  let endsWell := parts.getLast? ≠ some "" || inner.getLast? = some ""
  written.all isGroup
    && match inner.count "" with
      | 0 => parts.length = 8 && written.length = 8
      | 1 => opensWell && endsWell && written.length ≤ 7
      | _ => false

/-- An address of groups; behind a percent sign it may name a zone. -/
def isGrouped (text : String) : Bool :=
  let cs := text.toList
  let zone := (cs.dropWhile (· ≠ '%')).drop 1
  let isZone := !cs.contains '%' || (!zone.isEmpty && !zone.contains '%')
  isZone && (groups? (String.ofList (cs.takeWhile (· ≠ '%')))).any areGroups

end RowIngest.Http.HostAddress
