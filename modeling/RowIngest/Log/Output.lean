import RowIngest.Fault
import RowIngest.Log
import RowIngest.Text.Blank
import RowIngest.Text.Upper
import RowIngest.Value.Shown
/-!
Writing the log. An output has a threshold and a format. Entries of a level below the
threshold are left out; some libraries that talk a lot have a threshold of their own. An
entry is written as named values or as one line for the console.
-/
namespace RowIngest.Log

/-- An entry of the log: any level, any writer. -/
structure Entry where
  level : Int
  logger : String
  /-- What the entry says. It may say it by named values alone. -/
  message : Value
  extra : Fields
  /-- How the error that is reported came about. -/
  trace : Option String

def Record.entry (r : Record) : Entry :=
  ⟨r.level.rank, r.logger.name, .str r.message, r.extra, none⟩

/-- The verbosity names of this program, for levels with usual names. -/
def aliases : List (String × String) :=
  [("BASIC", "INFO"), ("DETAILED", "DEBUG"), ("ROWLEVEL", "DEBUG"), ("MINIMAL", "WARNING")]

/-- The usual name of a level that is named in any case, with blanks around it, or by alias. -/
def usualLevel (name : String) : String :=
  let plain := Text.upper (Text.trim name)
  (Fields.get? aliases plain).getD plain

def thresholds : List (String × Nat) :=
  [("NOTSET", 0), ("DEBUG", 10), ("INFO", 20), ("WARN", 30), ("WARNING", 30), ("ERROR", 40),
   ("FATAL", 50), ("CRITICAL", 50)]

/-- The name of a level as it is written. -/
def levelText (level : Int) : String :=
  match level with
  | 0 => "NOTSET"
  | 10 => "DEBUG"
  | 20 => "INFO"
  | 30 => "WARNING"
  | 40 => "ERROR"
  | 50 => "CRITICAL"
  | n => s!"Level {n}"

inductive Format where
  | json
  | console
  deriving DecidableEq

def Format.name : Format → String
  | .json => "json"
  | .console => "console"

def Format.ofName (name : String) : Format := if name = "json" then .json else .console

structure Output where
  threshold : Nat
  format : Format

/-- One line of output. -/
inductive Line where
  | fields (fs : Fields)
  | text (s : String)

/-- Writers that are heard from warnings on. -/
def talkative : List String := ["pymongo", "httpcore", "httpx", "uvicorn.access", "asyncio"]

def talkativeThreshold : Nat := Level.warning.rank

/-- A writer is the one of the name, or a part of it. -/
def isPartOf (logger name : String) : Bool := logger = name || logger.startsWith (name ++ ".")

/-- The names of values that every entry has, and which no other value may take. -/
def reservedNames : List String :=
  ["message", "asctime", "name", "msg", "args", "levelname", "levelno", "pathname", "filename",
   "module", "exc_info", "exc_text", "stack_info", "lineno", "funcName", "created", "msecs",
   "relativeCreated", "thread", "threadName", "processName", "process"]

/-- The name of a value that takes the place of what tells the message. An entry that has it
cannot be written. -/
def muteName : String := "getMessage"

namespace Output

/-- Sets up an output by the names of a level and a format. -/
def make (level format : String) : Except Fault Output :=
  let resolved := usualLevel level
  match Fields.get? thresholds resolved with
  | some threshold => .ok ⟨threshold, .ofName format⟩
  | none => .error (.ofForeign .wrongValue ("Unknown level: " ++ Text.quoted resolved))

/-- The first entry of an output, which says how it was set up. -/
def announcement (level format : String) : Entry :=
  ⟨Level.info.rank, "root", .str "Logging initialised",
    [("log_level", .str (usualLevel level)), ("log_format", .str format)], none⟩

def thresholdFor (o : Output) (logger : String) : Nat :=
  if talkative.any (isPartOf logger) then talkativeThreshold else o.threshold

def accepts (o : Output) (e : Entry) : Bool := 0 < e.level && o.thresholdFor e.logger ≤ e.level

/-- The values of an entry that are written besides the usual ones. A request that is being
served is named unless the entry names one itself. -/
def extras (requestId : Option String) (e : Entry) : Fields :=
  let named := (Fields.names e.extra).contains "request_id"
  let request : Fields :=
    match requestId with
    | some id => if named then [] else [("request_id", .str id)]
    | none => []
  (e.extra ++ request).filter fun (name, _) => !name.startsWith "_"

/-- The names under which some of the usual values are written. -/
def writtenNames : List (String × String) :=
  [("asctime", "timestamp"), ("levelname", "level"), ("name", "logger")]

/-- What an entry says as a text, and what it says by named values. -/
def said (e : Entry) : String × Fields :=
  match e.message with
  | .obj told => ("", told.map fun (name, v) => ((Fields.get? writtenNames name).getD name, v))
  | v => (v.text, [])

/-- The values of an entry. Those it says come before the usual ones of the same name, and those
it brings along come before both. -/
def fields (time : String) (requestId : Option String) (e : Entry) : Fields :=
  let (message, told) := said e
  let usual : Fields :=
    [("timestamp", .str time), ("level", .str (levelText e.level)), ("logger", .str e.logger),
     ("message", .str message)]
  let trace : Fields := (e.trace.map fun t => ("exc_info", Value.str t)).toList
  Fields.merge (Fields.merge (Fields.merge usual trace) told) (extras requestId e)

def padded (width : Nat) (s : String) : String :=
  s ++ String.ofList (List.replicate (width - s.length) ' ')

def text (time : String) (e : Entry) : String :=
  " | ".intercalate [time, padded 8 (levelText e.level), e.logger, e.message.text]

/-- Writes an entry, if its level is high enough for its writer and for the output. -/
def write (o : Output) (time : String) (requestId : Option String) (e : Entry) :
    Except Fault (Option Line) :=
  if !o.accepts e then .ok none
  else
    match (Fields.names e.extra).find? (reservedNames.contains ·) with
    | some name =>
      .error (.ofForeign .missingKey
        ("Attempt to overwrite " ++ Text.quoted name ++ " in LogRecord"))
    | none =>
      if e.level < o.threshold || (Fields.names e.extra).contains muteName then .ok none
      else
        match o.format with
        | .json => .ok (some (.fields (fields time requestId e)))
        | .console => .ok (some (.text (text time e)))

end Output

end RowIngest.Log
