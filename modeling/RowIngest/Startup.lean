import RowIngest.Settings
/-!
How the service starts and ends. It opens the log and reads the configuration of its loads;
without a configuration it does not start.
-/
namespace RowIngest

structure Startup where
  /-- Where the log goes; there is none if the settings of the log are wrong. -/
  output : Option Log.Output
  entries : List Log.Entry
  result : Except Fault Unit

namespace Startup

def invalid (report : Report) : Log.Record :=
  ⟨.error, .service, "Invalid load configuration",
    [("error_message", .str report.message), ("details", .obj report.details)]⟩

def starting (s : Settings) (c : LoadConfig) : Log.Record :=
  ⟨.info, .service, "Application starting",
    [("app", .str s.appName), ("version", .str s.version), ("env", .str s.purpose.name),
     ("database", .str c.database), ("collection", .str c.collection),
     ("fields", .int c.fields.length), ("indexes", .int c.indexes.length),
     ("mode", .str (if c.upsert then "upsert" else "insert"))]⟩

def stopping : Log.Record := ⟨.info, .service, "Application shut down gracefully.", []⟩

/-- What is logged about a fault at the start: a problem of the configuration, and no other. -/
def refusal (f : Fault) : List Log.Record :=
  if f.isConfiguration then (f.report?.map invalid).toList else []

/-- The start of a service with these settings and this configuration, if it has one, and its
end after serving. -/
def of (s : Settings) (config : Except Fault LoadConfig) : Startup :=
  match Log.Output.make s.logLevel s.logFormat.name with
  | .error f => ⟨none, [], .error f⟩
  | .ok output =>
    let opened := Log.Output.announcement s.logLevel s.logFormat.name
    match config with
    | .error f => ⟨some output, opened :: (refusal f).map (·.entry), .error f⟩
    | .ok c =>
      ⟨some output, opened :: [starting s c, stopping].map (·.entry), .ok ()⟩

end Startup

end RowIngest
