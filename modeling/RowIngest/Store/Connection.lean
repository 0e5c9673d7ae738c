import RowIngest.Settings
/-!
Connecting to a document store. The options follow from the settings; credentials are part of
them only if there is a user to authenticate. Options that the driver finds fault with are a
problem of the configuration.
-/
namespace RowIngest

structure Credentials where
  userName : String
  password : String
  authDatabase : String

structure ConnectionOptions where
  hosts : List String
  port : Int
  /-- In milliseconds, for connecting and for choosing a server alike. -/
  timeout : Int
  credentials : Option Credentials

namespace ConnectionOptions

def ofSettings (s : Settings) : ConnectionOptions where
  hosts := if s.hosts.isEmpty then ["localhost"] else s.hosts
  port := s.storePort
  timeout := s.connectTimeout
  credentials :=
    if s.userName.isEmpty then none else some ⟨s.userName, s.password, s.authDatabase⟩

def hostsValue (o : ConnectionOptions) : Value := .list (o.hosts.map .str)

def toFields (o : ConnectionOptions) : Fields :=
  let authentication : Fields :=
    match o.credentials with
    | none => []
    | some c =>
      [("username", .str c.userName), ("password", .str c.password),
       ("authSource", .str c.authDatabase)]
  [("host", o.hostsValue), ("port", .int o.port), ("connectTimeoutMS", .int o.timeout),
   ("serverSelectionTimeoutMS", .int o.timeout)] ++ authentication

end ConnectionOptions

namespace Connection

def authenticating (c : Credentials) : Log.Record :=
  ⟨.info, .store, "Authenticating to document store", [("username", .str c.userName)]⟩

def created (o : ConnectionOptions) (database collection : String) : Log.Record :=
  ⟨.info, .store, "Document store client created",
    [("hosts", o.hostsValue), ("port", .int o.port), ("database", .str database),
     ("collection", .str collection)]⟩

/-- What a fault of the driver means when it is given its options. -/
def optionsFault (o : ConnectionOptions) (f : Fault) : Fault :=
  match f with
  | .foreign e => if e.kind.isOptions then .config (.connection o.hosts e) else f
  | _ => f

/-- Connects with a driver that accepts the options or raises a fault. The records are those
that are logged on the way. -/
def connect (o : ConnectionOptions) (database collection : String)
    (accept : ConnectionOptions → Except Fault Unit) : Except Fault Unit × List Log.Record :=
  let before := (o.credentials.map authenticating).toList
  match accept o with
  | .ok _ => (.ok (), before ++ [created o database collection])
  | .error f => (.error (optionsFault o f), before)

end Connection

end RowIngest
