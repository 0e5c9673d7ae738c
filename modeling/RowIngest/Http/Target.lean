import RowIngest.Http.Server
/-!
Where a request goes. A target is written as an address, of which all but the path may be
missing; what is missing is taken from a base. The query is kept as it is sent, and the path is
read without percent codes.
-/
namespace RowIngest.Http

/-- The parts of an address as they are written. -/
structure Written where
  scheme : String
  authority : List Char
  path : String
  query : String
  fragment : String

namespace Written

def isSchemeChar (c : Char) : Bool := c.isAlphanum || c = '+' || c = '-' || c = '.'

/-- The scheme in front of a colon, and what follows it. -/
def schemeOf (cs : List Char) : String × List Char :=
  let name := cs.takeWhile isSchemeChar
  match cs.dropWhile isSchemeChar with
  | ':' :: rest => if name.head?.all Char.isAlpha then (String.ofList name, rest) else ("", cs)
  | _ => ("", cs)

/-- Two slashes introduce a server. -/
def authorityOf (cs : List Char) : List Char × List Char :=
  let isInside (c : Char) : Bool := !(['/', '?', '#'].contains c)
  match cs with
  | '/' :: '/' :: rest => (rest.takeWhile isInside, rest.dropWhile isInside)
  | _ => ([], cs)

def ofChars (cs : List Char) : Written :=
  let (scheme, rest) := schemeOf cs
  let (authority, rest) := authorityOf rest
  let whole := rest.takeWhile (· ≠ '#')
  ⟨scheme, authority, String.ofList (whole.takeWhile (· ≠ '?')),
    String.ofList ((whole.dropWhile (· ≠ '?')).drop 1),
    String.ofList ((rest.dropWhile (· ≠ '#')).drop 1)⟩

end Written

/-- An address that was read: its path has no codes resolved, its query and its fragment are as
they are sent and as they are meant. -/
structure Address where
  scheme : String
  server : Server
  path : String
  query : String
  fragment : String

namespace Address

/-- Takes a part of a path; two dots take the part before them back. -/
def addPart (parts : List String) (part : String) : List String :=
  if part = "." then parts
  else if part = ".." then (if parts = [""] then parts else parts.dropLast)
  else parts ++ [part]

def withoutDots (path : String) : String :=
  "/".intercalate ((path.splitOn "/").foldl addPart [])

def isQueryChar (c : Char) : Bool :=
  0x20 < c.toNat && c.toNat < 0x7F && !"\"#<>".toList.contains c

def isPathChar (c : Char) : Bool := isQueryChar c && !"?`\x7b\x7d".toList.contains c

/-- The longest address that is read, and the longest part of one. -/
def lengthLimit : Nat := 65536

def isControl (c : Char) : Bool := c.toNat < 0x20 || c.toNat = 0x7F

/-- What is wrong with the characters of an address, or of a part of it. -/
def controlComplaint? (place : String) (cs : List Char) : Option String :=
  (cs.find? isControl).map fun c =>
    "Invalid non-printable ASCII character in URL" ++ place ++ ", "
      ++ Text.quoted (String.singleton c) ++ s!" at position {cs.findIdx isControl}."

/-- What is wrong with an address as a whole. -/
def complaint? (cs : List Char) : Option String :=
  if cs.length > lengthLimit then some "URL too long" else controlComplaint? "" cs

/-- What is wrong with a path that has nothing before it. -/
def pathComplaint? (path : String) : Option String :=
  if path.startsWith "//" then some "Relative URLs cannot have a path starting with '//'"
  else if path.startsWith ":" then some "Relative URLs cannot have a path starting with ':'"
  else none

/-- What is wrong with a part that is put into another address. -/
def lengthComplaint? (name part : String) : Option String :=
  if part.length > lengthLimit then some ("URL component '" ++ name ++ "' too long") else none

def refuse (complaint : Option String) : Except ForeignError Unit :=
  match complaint with
  | none => .ok ()
  | some message => .error ⟨.badAddress, message⟩

/-- Reads an address. -/
def read (text : String) : Except ForeignError Address := do
  refuse (complaint? text.toList)
  let w := Written.ofChars text.toList
  let named := Server.Written.ofAuthority w.authority
  let server ← named.read w.scheme
  let isBare := w.scheme.isEmpty && named.user.isEmpty && server.host.isEmpty
    && server.port.isNone
  refuse (if isBare then pathComplaint? w.path else none)
  let path := if isBare then w.path else withoutDots w.path
  return ⟨w.scheme.toLower, server, path, Percent.encode isQueryChar w.query,
    Percent.decode w.fragment⟩

end Address

/-- Where a request goes. -/
structure Target where
  scheme : String
  server : Server
  path : String
  query : String
  /-- What the client means beyond the request. -/
  fragment : String
  deriving DecidableEq

namespace Target

/-- The path of an address behind the slash of a base. -/
def pathBelow (path : String) : String := String.ofList ('/' :: path.toList.dropWhile (· = '/'))

/-- The target of an address. The address stands for itself only if it has a scheme and a host;
otherwise its path and its query are used with the base. -/
def ofAddress (base : Target) (a : Address) : Except ForeignError Target := do
  if a.scheme.isEmpty || a.server.host.isEmpty then
    let below := pathBelow a.path
    Address.refuse (Address.lengthComplaint? "path" (Percent.encode Address.isPathChar below))
    Address.refuse (Address.lengthComplaint? "query" a.query)
    return { base with path := Percent.decode (Address.withoutDots below), query := a.query }
  return ⟨a.scheme, a.server, if a.path.isEmpty then "/" else Percent.decode a.path, a.query,
    a.fragment⟩

def ofText (base : Target) (text : String) : Except ForeignError Target := do
  base.ofAddress (← Address.read text)

end Target

end RowIngest.Http
