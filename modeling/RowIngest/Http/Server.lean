import RowIngest.Fault
import RowIngest.Hostname.Name
import RowIngest.Http.HostAddress
import RowIngest.Http.Percent
import RowIngest.Text.Blank
import RowIngest.Text.Digit
import RowIngest.Text.Lower
/-!
Where a server is: the name of a host, and a port unless it is the usual one. A client names
the server it means in a header; what does not look like a server is passed over.
-/
namespace RowIngest.Http

structure Server where
  host : String
  port : Option Int
  deriving DecidableEq

namespace Server

/-- The host, in brackets if it is an address with colons. -/
def hostText (s : Server) : String := if s.host.contains ':' then "[" ++ s.host ++ "]" else s.host

def text (s : Server) : String :=
  match s.port with
  | none => s.hostText
  | some port => s!"{s.hostText}:{port}"

/-- The ports that clients need not write. -/
def usualPorts : List (String × Int) :=
  [("ftp", 21), ("http", 80), ("https", 443), ("ws", 80), ("wss", 443)]

/-- The ports that a service need not tell. It is reached by these schemes only. -/
def ownPorts : List (String × Int) := [("http", 80), ("https", 443), ("ws", 80), ("wss", 443)]

/-- The server as it is told where a header names none; nothing is known of other schemes than
those of a service. -/
def fallbackText? (scheme : String) (s : Server) : Option String :=
  (ownPorts.lookup scheme).map fun usual =>
    if s.port = some usual then s.hostText
    else s.hostText ++ ":" ++ (s.port.map toString).getD "None"

def portLimit : Nat := 65535

/-- A port, behind a colon, or nothing. -/
def isPort : List Char → Bool
  | [] => true
  | c :: digits =>
    c = ':' && !digits.isEmpty && digits.all Char.isDigit && Json.natOfAscii digits ≤ portLimit

def isUnreserved (c : Char) : Bool := c.isAlphanum || "-._~".toList.contains c

def isDelimiter (c : Char) : Bool := "!$&'()*+,;=".toList.contains c

/-- A character that may stand in the name of a host; percent codes need not be complete. -/
def isNameChar (c : Char) : Bool := isUnreserved c || isDelimiter c || c = '%'

/-- A name of a host, and a port behind it if there is one. -/
def isNameAndPort (cs : List Char) : Bool :=
  cs.head?.any isNameChar && isPort (cs.dropWhile isNameChar)

/-- An address of a kind to come: a version, and anything behind a point. -/
def isFutureAddress (cs : List Char) : Bool :=
  let isHex (c : Char) : Bool := (Json.hexValue? c).isSome
  match cs with
  | 'v' :: version =>
    match version.takeWhile isHex, version.dropWhile isHex with
    | _ :: _, '.' :: c :: more =>
      (c :: more).all fun c => isUnreserved c || isDelimiter c || c = ':'
    | _, _ => false
  | _ => false

/-- A header that names a server. -/
def isNamedBy (header : String) : Bool :=
  match header.toList with
  | '[' :: rest =>
    let inside := rest.takeWhile (· ≠ ']')
    let isAddress := !inside.contains '%' && HostAddress.isGrouped (String.ofList inside)
    match rest.dropWhile (· ≠ ']') with
    | ']' :: port => (isAddress || isFutureAddress inside) && isPort port
    | _ => false
  | cs => isNameAndPort cs

def isSymbol (c : Char) : Bool := "-._~!$&'()*+,;=\"`\x7b\x7d%|\\".toList.contains c

def refuseHost (kind : String) (cs : List Char) : Except ForeignError String :=
  .error ⟨.badAddress, "Invalid " ++ kind ++ ": " ++ Text.quoted (String.ofList cs)⟩

/-- The host of a written address: a number of either kind, or a name. Names are in lower case.
In a name of ASCII what cannot stand there is written in codes; any other name is written in
the ASCII form of its labels. -/
def hostOf (cs : List Char) : Except ForeignError String :=
  let written := String.ofList cs
  let inner := String.ofList (cs.drop 1).dropLast
  if HostAddress.looksDotted written then
    if HostAddress.isDotted written then .ok written else refuseHost "IPv4 address" cs
  else if cs.head? = some '[' && cs.getLast? = some ']' then
    if HostAddress.isGrouped inner then .ok inner else refuseHost "IPv6 address" cs
  else if cs.all (·.toNat < 0x80) then
    .ok (Percent.encode (fun c => c.isAlphanum || isSymbol c) written.toLower)
  else
    match Hostname.encode (Text.lower written) with
    | .ok name => .ok name
    | .error _ => refuseHost "IDNA hostname" cs

/-- Digits of any script, with single underscores between them. -/
def isNumeral (cs : List Char) : Bool :=
  let doubled := (cs.zip cs.tail).any fun (a, b) => a = '_' && b = '_'
  !cs.isEmpty && cs.all (fun c => Text.isDigit c || c = '_') && !doubled
    && cs.head? ≠ some '_' && cs.getLast? ≠ some '_'

/-- A whole number as a port is written: with blanks around it and a sign in front, perhaps. -/
def wholeNumber? (cs : List Char) : Option Int :=
  let (negative, numeral) : Bool × List Char :=
    match Text.trimChars Text.isBlank cs with
    | '-' :: rest => (true, rest)
    | '+' :: rest => (false, rest)
    | trimmed => (false, trimmed)
  let digits := numeral.filter (· ≠ '_')
  if isNumeral numeral && digits.length ≤ Json.integerDigitLimit then
    let n : Int := Text.natOfDigits digits
    some (if negative then -n else n)
  else none

/-- A port as it is written, none if it is missing or the usual one of the scheme as written. -/
def portOf (scheme : String) (cs : List Char) : Except ForeignError (Option Int) :=
  if cs.isEmpty then .ok none
  else
    match wholeNumber? cs with
    | none => .error ⟨.badAddress, "Invalid port: " ++ Text.quoted (String.ofList cs)⟩
    | some n => .ok (if usualPorts.contains (scheme, n) then none else some n)

/-- The characters of a host up to the colon in front of the port. -/
def hostPart (cs : List Char) : List Char × List Char :=
  let bracketed := (cs.reverse.dropWhile (· ≠ ']')).reverse
  if cs.head? = some '[' && !bracketed.isEmpty then (bracketed, cs.drop bracketed.length)
  else
    (cs.takeWhile (· ≠ ':'), cs.dropWhile (· ≠ ':'))

/-- A server as it is written in an address, and what stands in front of the last at sign. -/
structure Written where
  user : List Char
  host : List Char
  port : List Char

def Written.ofAuthority (cs : List Char) : Written :=
  let named := (cs.reverse.takeWhile (· ≠ '@')).reverse
  let user := cs.take (cs.length - named.length - 1)
  match hostPart named with
  | (host, ':' :: port) => ⟨user, host, port⟩
  | (host, port) => ⟨user, host, port⟩

def Written.read (scheme : String) (w : Written) : Except ForeignError Server := do
  return ⟨← hostOf w.host, ← portOf scheme w.port⟩

end Server

end RowIngest.Http
