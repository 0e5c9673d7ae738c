import RowIngest.Http.Body
import RowIngest.Http.Failure
import RowIngest.Http.Origin
import RowIngest.Http.Route
import RowIngest.Run.Service
import RowIngest.Settings
/-!
Loads over the network. Every request has a name, which its response and all that is logged
for it carry; the beginning and the end of a request are logged. A load is asked for with the
rows in the body. The load itself is configured by the service and not by the client.
-/
namespace RowIngest.Http

/-- A service: its settings, and what a load uses. The configuration is read for each load. -/
structure Service (σ : Type) where
  settings : Settings
  loadConfig : Except Fault LoadConfig
  surroundings : LoadConfig → Surroundings σ
  connect : LoadConfig → Action σ Unit

/-- What a request finds: the name it gets if it brings none, the times that are told, and how
an error came about. -/
structure Circumstances where
  name : String
  completedAt : String
  duration : Value
  trace : String

/-- A log entry, with the name of the request it was written in. -/
abbrev NamedEntry := Option String × Log.Entry

/-- What comes of a request. -/
structure Exchange (σ : Type) where
  response : Response
  entries : List NamedEntry
  events : List Event
  surroundings : σ

namespace Service

variable {σ : Type}

/-- A service describes itself, for which it must have a name and a version. -/
def describable (s : Settings) : Except Fault Unit :=
  let lacks (part sample : String) : Except Fault Unit :=
    .error (.ofForeign .failedAssertion
      ("A " ++ part ++ " must be provided for OpenAPI, e.g.: '" ++ sample ++ "'"))
  if s.appName.isEmpty then lacks "title" "My API"
  else if s.version.isEmpty then lacks "version" "2.1.0"
  else .ok ()

/-- How a request is dealt with inside the service. A surprise leaves it without a result. -/
structure Dealing (σ : Type) where
  result : Except Surprise (Except Failure Response)
  events : List Event
  surroundings : σ

namespace Dealing

def ofResult (result : Except Failure Response) (surroundings : σ) : Dealing σ :=
  ⟨.ok result, [], surroundings⟩

def ofFault (f : Fault) (events : List Event) (surroundings : σ) : Dealing σ :=
  match Failure.ofFault f with
  | .inl failure => ⟨.ok (.error failure), events, surroundings⟩
  | .inr surprise => ⟨.error surprise, events, surroundings⟩

end Dealing

def unreadable : Body.Unreadable → Failure
  | .malformed position => .rows [⟨[.field "body", .item position], .badJson⟩]
  | .undecodable => .refused 400 "There was an error parsing the body"

/-- Loads rows and answers with what was done. -/
def runLoad (service : Service σ) (c : Circumstances) (config : LoadConfig) (rows : List Row)
    (state : σ) : Dealing σ :=
  let loader : Loader σ := ⟨config, service.surroundings config, false⟩
  let action := RowIngest.Service.load loader (service.connect config)
  let (result, after) := action.run.run (.begin state (rows.map .obj))
  let events := after.history.toList
  match result with
  | .ok done => ⟨.ok (.ok (.json 200 (done.toFields c.completedAt))), events, after.surroundings⟩
  | .error f => .ofFault f events after.surroundings

/-- Serves a load. A body that cannot be read is told first, then a problem of the
configuration, and last what is wrong with the rows. -/
def load (service : Service σ) (c : Circumstances) (r : Request) (state : σ) : Dealing σ :=
  match Body.read r with
  | .error e => .ofResult (.error (unreadable e)) state
  | .ok received =>
    match service.loadConfig with
    | .error f => .ofFault f [] state
    | .ok config =>
      match (Body.checkRows received).within (.field "body") with
      | .valid rows => service.runLoad c config rows state
      | .issues issues => .ofResult (.error (.rows issues)) state
      | .fault f => .ofFault f [] state

def health (s : Settings) : Response :=
  .json 200
    [("status", .str "healthy"), ("app", .str s.appName), ("version", .str s.version)]

/-- Pages are left to whoever writes the manual. -/
def manual : Response := ⟨200, [("content-type", "text/html; charset=utf-8")], .empty⟩

/-- Serves what a request to a site comes upon. -/
def serveDestination (service : Service σ) (c : Circumstances) (r : Request) (site : String)
    (state : σ) : Dealing σ :=
  match Route.find (Route.all service.settings.isDevelopment) r.method r.target.path with
  | .endpoint .load => service.load c r state
  | .endpoint .health => .ofResult (.ok (health service.settings)) state
  | .endpoint .manual => .ofResult (.ok manual) state
  | .elsewhere path => .ofResult (.ok (.redirect (r.addressAt site path))) state
  | .wrongMethod => .ofResult (.error (.refused 405 "Method Not Allowed")) state
  | .nowhere => .ofResult (.error (.refused 404 "Not Found")) state

/-- Deals with a request, or with the question of a browser about one. -/
def deal (service : Service σ) (c : Circumstances) (r : Request) (site : String) (state : σ) :
    Dealing σ :=
  match Origin.question? r with
  | some question =>
    .ofResult (.ok (Origin.answer service.settings.origins question)) state
  | none => service.serveDestination c r site state

/-- The response to the origin that asked. The answer to a browser's question has the origin
in it. -/
def forOrigin (service : Service σ) (r : Request) (response : Response) : Response :=
  match Origin.question? r, r.header? "origin" with
  | none, some origin => Origin.named service.settings.origins origin response
  | _, _ => response

def started (r : Request) : Log.Record :=
  ⟨.info, .requests, "Request started",
    [("method", .str r.method), ("path", .str r.linePath)]⟩

def completed (c : Circumstances) (r : Request) (id : String) (status : Nat) : Log.Record :=
  ⟨.info, .requests, "Request completed",
    [("request_id", .str id), ("method", .str r.method), ("path", .str r.linePath),
     ("status_code", .int status), ("duration_ms", c.duration)]⟩

/-- The failure of a request, if there is one, as it is logged. -/
def failureRecord (context : Fields) :
    Except Surprise (Except Failure Response) → List Log.Record
  | .ok (.error failure) => [failure.record context]
  | _ => []

/-- The response to a request, unless there is a surprise on the way to it. -/
def settle (id : String) : Except Surprise (Except Failure Response) → Except Surprise Response
  | .ok (.ok response) => .ok response
  | .ok (.error failure) => failure.response id
  | .error surprise => .error surprise

/-- Serves a request to a site. A response without surprise carries the name of the request. -/
def serveAt (service : Service σ) (c : Circumstances) (r : Request) (site : String)
    (state : σ) : Exchange σ :=
  let id := (r.header? "x-request-id").getD c.name
  let context := r.context id site
  let dealing := service.deal c r site state
  let during := started r :: dealing.events.filterMap (·.record?)
    ++ failureRecord context dealing.result
  let entries : List NamedEntry := during.map fun record => (some id, record.entry)
  let (response, last) : Response × Log.Entry :=
    match settle id dealing.result with
    | .ok response =>
      ((service.forOrigin r response).withHeader "x-request-id" id,
        (completed c r id response.status).entry)
    | .error surprise => (Surprise.response id, surprise.entry context c.trace)
  let sent := if r.method = "HEAD" then response.withoutContent else response
  ⟨sent, entries ++ [(none, last)], dealing.events, dealing.surroundings⟩

/-- Serves a request. Without a site it can neither be told of nor dealt with. -/
def serve (service : Service σ) (c : Circumstances) (r : Request) (state : σ) : Exchange σ :=
  match r.site? with
  | some site => service.serveAt c r site state
  | none => ⟨.failed, [], [], state⟩

end Service

end RowIngest.Http
