import RowIngest.Http.Message
/-!
The addresses that are served. An address belongs to an endpoint and allows some methods. A
path that differs from an address only by the slashes at its end is sent on to it, whatever
the method.
-/
namespace RowIngest.Http

inductive Endpoint where
  | load
  | health
  /-- A page that describes the service. -/
  | manual
  deriving DecidableEq

structure Route where
  path : String
  methods : List String
  endpoint : Endpoint

/-- What a request comes upon. -/
inductive Destination where
  | endpoint (e : Endpoint)
  | elsewhere (path : String)
  | wrongMethod
  | nowhere
  deriving DecidableEq

namespace Route

def manual (path : String) : Route := ⟨path, ["GET", "HEAD"], .manual⟩

/-- The addresses of the service. Pages are served only where the service is developed. -/
def all (development : Bool) : List Route :=
  [manual "/openapi.json"]
    ++ (if development then ["/docs", "/docs/oauth2-redirect", "/redoc"].map manual else [])
    ++ [⟨"/api/v1/load/", ["POST"], .load⟩, ⟨"/health", ["GET"], .health⟩]

/-- A path may have a line feed behind it. -/
def matchesPath (r : Route) (path : String) : Bool := path = r.path || path = r.path ++ "\n"

def withoutSlashes (path : String) : String :=
  String.ofList (path.toList.reverse.dropWhile (· = '/')).reverse

/-- The path with a slash at its end if it has none, and without if it has one. -/
def sibling (path : String) : String :=
  if path.endsWith "/" then withoutSlashes path else path ++ "/"

/-- Where a method on a path leads. -/
def find (routes : List Route) (method path : String) : Destination :=
  let here := routes.filter (·.matchesPath path)
  match here.find? (·.methods.contains method) with
  | some r => .endpoint r.endpoint
  | none =>
    if !here.isEmpty then .wrongMethod
    else if path ≠ "/" && routes.any (·.matchesPath (sibling path)) then
      .elsewhere (sibling path)
    else .nowhere

end Route

end RowIngest.Http
