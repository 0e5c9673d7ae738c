import RowIngest.Http.Message
import RowIngest.Text.Upper
/-!
The client's part of a request. It reads the address, names the server it means unless told how,
and finds out what the server is called. Of a response it reads where that leads, even if it
does not go there.
-/
namespace RowIngest.Http

/-- What a client is asked to send. -/
structure Errand where
  method : String
  address : String
  headers : Fields
  body : List UInt8

namespace Errand

/-- The request of an errand, unless it cannot be sent. -/
def request (base : Target) (e : Errand) : Except Fault Request := do
  let target ← (base.ofText e.address).mapError Fault.foreign
  let given ← e.headers.mapM fun (name, value) => do
    return ((← Request.sendable (.str name)).toLower, ← Request.sendable value)
  let named := (Fields.names given).contains "host"
  let meant ← if named then pure [] else do
    pure [("host", ← Request.sendable (.str target.server.text))]
  let host ← (Hostname.shown target.server.host).mapError fun flaw => .foreign flaw.error
  return ⟨Text.upper e.method, { target with server.host := host }, given ++ meant, e.body⟩

end Errand

namespace Response

/-- Reads where a response leads, if it leads elsewhere. What the client meant beyond the request
it means there, too. -/
def followable (r : Response) (t : Target) : Except ForeignError Unit :=
  match r.header? "location" with
  | none => .ok ()
  | some location => do
    let address ← (Address.read location).mapError fun e =>
      ⟨.wrongProtocol, "Invalid URL in location header: " ++ e.message ++ "."⟩
    let _ ← (Hostname.shown address.server.host).mapError (·.error)
    Address.refuse (Address.controlComplaint? " fragment component" t.fragment.toList)

end Response

end RowIngest.Http
