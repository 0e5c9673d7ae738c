import RowIngest.Http.Message
/-!
Requests from pages of other origins. A browser tells the origin of the page, asks beforehand
whether a method may be used, and hands a response to the page only if its header names the
origin.
-/
namespace RowIngest.Http.Origin

/-- Methods that pages may use. -/
def methods : List String := ["DELETE", "GET", "HEAD", "OPTIONS", "PATCH", "POST", "PUT", "QUERY"]

/-- An origin is allowed if it is listed, or if a star stands for all. -/
def isAllowed (origins : List String) (origin : String) : Bool :=
  origins.contains "*" || origins.contains origin

/-- Names an allowed origin in a response. -/
def named (origins : List String) (origin : String) (response : Response) : Response :=
  if isAllowed origins origin then response.withHeader "access-control-allow-origin" origin
  else response

/-- What a browser asks about. -/
structure Question where
  origin : String
  method : String
  /-- The service is asked for on behalf of a page outside of its network. -/
  privateNetwork : Bool

def question? (r : Request) : Option Question := do
  let origin ← r.header? "origin"
  let method ← r.header? "access-control-request-method"
  let privateNetwork := (r.header? "access-control-request-private-network").isSome
  if r.method = "OPTIONS" then some ⟨origin, method, privateNetwork⟩ else none

/-- The answer to a browser that asks. -/
def answer (origins : List String) (q : Question) : Response :=
  let refused := (if isAllowed origins q.origin then [] else ["origin"])
    ++ (if methods.contains q.method then [] else ["method"])
    ++ (if q.privateNetwork then ["private-network"] else [])
  named origins q.origin
    (if refused.isEmpty then .text 200 "OK"
    else .text 400 ("Disallowed CORS " ++ ", ".intercalate refused))

end RowIngest.Http.Origin
