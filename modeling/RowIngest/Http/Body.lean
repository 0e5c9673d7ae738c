import RowIngest.Check.Scalar
import RowIngest.Http.Message
import RowIngest.Text.Charset.Unicode
/-!
The rows that a request brings. A body is read as JSON if its content type says so; the zero
bytes at its beginning, or a byte order mark, tell which encoding it is in. An object with a
list of rows is wanted.
-/
namespace RowIngest.Http.Body

/-- What a request brings: nothing, a value, or something that is not JSON. -/
inductive Received where
  | nothing
  | value (v : Value)
  | other

/-- Why a body cannot be read. -/
inductive Unreadable where
  | malformed (position : Nat)
  | undecodable

/-- A content type of JSON, or of a format that is written in JSON. -/
def isJson (contentType : String) : Bool :=
  let plain := (Text.trim (String.ofList (contentType.toList.takeWhile (· ≠ ';')))).toLower
  match plain.splitOn "/" with
  | ["application", kind] => kind = "json" || kind.endsWith "+json"
  | _ => false

inductive Encoding where
  | utf8
  | utf16 (order : Text.ByteOrder)
  | utf32 (order : Text.ByteOrder)

/-- The encoding of JSON text, with the text behind the byte order mark. -/
def detect (bytes : List UInt8) : Encoding × List UInt8 :=
  match bytes with
  | 0 :: 0 :: 0xFE :: 0xFF :: rest => (.utf32 .big, rest)
  | 0xFF :: 0xFE :: 0 :: 0 :: rest => (.utf32 .little, rest)
  | 0xFE :: 0xFF :: rest => (.utf16 .big, rest)
  | 0xFF :: 0xFE :: rest => (.utf16 .little, rest)
  | 0xEF :: 0xBB :: 0xBF :: rest => (.utf8, rest)
  | 0 :: 0 :: _ :: _ :: _ => (.utf32 .big, bytes)
  | 0 :: _ :: _ :: _ :: _ => (.utf16 .big, bytes)
  | _ :: 0 :: 0 :: 0 :: _ => (.utf32 .little, bytes)
  | _ :: 0 :: _ :: _ :: _ => (.utf16 .little, bytes)
  | [0, _] => (.utf16 .big, bytes)
  | [_, 0] => (.utf16 .little, bytes)
  | _ => (.utf8, bytes)

/-- The numbers that pairs of bytes stand for; no byte may be left over. -/
def units? (order : Text.ByteOrder) : List UInt8 → Option (List Nat)
  | [] => some []
  | a :: b :: rest => (units? order rest).map (Text.Charset.unit order a b :: ·)
  | [_] => none

/-- The characters of UTF-16 units. Half a surrogate pair is replaced. -/
def charsOfUnits : List Nat → List Char
  | [] => []
  | [u] => [Json.unitChar u]
  | u :: v :: rest =>
    if Json.isHighSurrogate u && Json.isLowSurrogate v then
      Json.joinSurrogates u v :: charsOfUnits rest
    else Json.unitChar u :: charsOfUnits (v :: rest)

/-- The characters of pairs of units, each of which makes one code point. -/
def charsOfPairs? (order : Text.ByteOrder) : List Nat → Option (List Char)
  | [] => some []
  | [_] => none
  | u :: v :: rest =>
    let point :=
      match order with
      | .big => u * 0x10000 + v
      | .little => v * 0x10000 + u
    if point < 0x110000 then
      (charsOfPairs? order rest).map ((if point < 0x10000 then Json.unitChar point
        else Char.ofNat point) :: ·)
    else none

def decode? (bytes : List UInt8) : Option (List Char) :=
  match detect bytes with
  | (.utf8, bytes) => (Text.Utf8.decodeHalves bytes).toOption
  | (.utf16 order, bytes) => (units? order bytes).map charsOfUnits
  | (.utf32 order, bytes) => (units? order bytes).bind (charsOfPairs? order)

def read (r : Request) : Except Unreadable Received :=
  if r.body.isEmpty then .ok .nothing
  else if !((r.header? "content-type").any isJson) then .ok .other
  else
    match decode? r.body with
    | none => .error .undecodable
    | some cs =>
      match Json.read (String.ofList cs) with
      | .ok v => .ok (.value v)
      | .error (.malformed _ _ _ position) => .error (.malformed position)
      | .error (.longInteger _) => .error .undecodable

def checkRow : Value → Checked Row
  | .obj fields => .valid fields
  | _ => .issue .notDictionary

/-- The rows of a body, one at least. -/
def checkRows : Received → Checked (List Row)
  | .nothing => .issue .missing
  | .value (.obj fields) =>
    Check.required fields "rows" (Check.nonemptyList .handed checkRow)
  | .value _ | .other => .issue .notFields

end RowIngest.Http.Body
