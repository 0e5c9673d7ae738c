import RowIngest.Http.Target
import RowIngest.Value
/-!
Requests and responses. The names of headers are in lower case.
-/
namespace RowIngest.Http

structure Request where
  method : String
  target : Target
  headers : List (String × String)
  body : List UInt8

namespace Request

def header? (r : Request) (name : String) : Option String := Fields.get? r.headers name

/-- The server that a request names, or else the one that it reached, with the scheme in front.
A service knows of no other server by a scheme that is not its own. -/
def site? (r : Request) : Option String :=
  let reached? := r.target.server.fallbackText? r.target.scheme
  let name? :=
    match r.header? "host" with
    | some name => if Server.isNamedBy name then some name else reached?
    | none => reached?
  name?.map fun name => r.target.scheme ++ "://" ++ name

/-- The characters of a path that stand for themselves in an address. -/
def isPathChar (c : Char) : Bool := c ≠ '?' && c ≠ '#' && c ≠ '\\'

/-- The address of a path at a site, with the query of the request. -/
def addressAt (r : Request) (site path : String) : String :=
  let query := if r.target.query.isEmpty then "" else "?" ++ r.target.query
  site ++ Percent.encode isPathChar path ++ query

def isLineBreaker (c : Char) : Bool := c = '\t' || c = '\n' || c = '\x0d'

/-- The path of a request on one line. -/
def linePath (r : Request) : String :=
  String.ofList ((Percent.encode isPathChar r.target.path).toList.filter (!isLineBreaker ·))

/-- Why the text of a header cannot be sent, if it cannot: only ASCII can. -/
def unsendable? (text : String) : Option ForeignError :=
  let isSendable (c : Char) : Bool := c.toNat < 0x80
  let cs := text.toList
  let start := (cs.takeWhile isSendable).length
  let refused := (cs.drop start).takeWhile (!isSendable ·)
  let place? : Option String :=
    match refused with
    | [] => none
    | [c] => some ("character '" ++ String.ofList (Text.escapedCode c) ++ s!"' in position {start}")
    | _ => some s!"characters in position {start}-{start + refused.length - 1}"
  place?.map fun place =>
    ⟨.unencodable, "'ascii' codec can't encode " ++ place ++ ": ordinal not in range(128)"⟩

/-- The text of a header, if it can be sent. -/
def sendable : Value → Except Fault String
  | .str text =>
    match unsendable? text with
    | none => .ok text
    | some e => .error (.foreign e)
  | v =>
    .error (.ofForeign .wrongType
      s!"Header value must be str or bytes, not <class '{v.typeName}'>")

end Request

inductive Content where
  | empty
  | json (fields : Fields)
  | text (s : String)

structure Response where
  status : Nat
  headers : List (String × String)
  content : Content

namespace Response

def json (status : Nat) (fields : Fields) : Response :=
  ⟨status, [("content-type", "application/json")], .json fields⟩

def text (status : Nat) (s : String) : Response :=
  ⟨status, [("content-type", "text/plain; charset=utf-8")], .text s⟩

/-- The characters that stand for themselves in an address. -/
def isAddressChar (c : Char) : Bool :=
  c.isAlphanum || "_.-~:/%#?=@[]!$&'()*+,;".toList.contains c

/-- Sends the client elsewhere, with the same method and body. -/
def redirect (address : String) : Response :=
  ⟨307, [("location", Percent.encode isAddressChar address)], .empty⟩

/-- The response of a service that cannot say what went wrong. -/
def failed : Response := ⟨500, [], .empty⟩

def header? (r : Response) (name : String) : Option String := Fields.get? r.headers name

def withHeader (r : Response) (name value : String) : Response :=
  { r with headers := r.headers ++ [(name, value)] }

/-- The response to a request for the headers alone. -/
def withoutContent (r : Response) : Response := { r with content := .empty }

end Response

end RowIngest.Http
