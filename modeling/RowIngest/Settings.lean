import RowIngest.Check.Scalar
import RowIngest.Config
import RowIngest.Log.Output
import RowIngest.Settings.Reading
/-!
The settings of the program. They are given directly, or come from the environment, or from a
file of variables in the working directory, or from secrets, or are left at their defaults, in
this order of precedence. Names may be written in any case, and names that mean nothing are
passed over. How the sources are read may be given along with the settings.
-/
namespace RowIngest

/-- What the program is run for. -/
inductive Purpose where
  | development
  | staging
  | production
  deriving DecidableEq

def Purpose.name : Purpose → String
  | .development => "development"
  | .staging => "staging"
  | .production => "production"

structure Settings where
  appName : String
  purpose : Purpose
  debug : Bool
  version : String
  host : String
  port : Int
  /-- The hosts of the document store, with commas between them. -/
  storeHosts : String
  storePort : Int
  userName : String
  password : String
  authDatabase : String
  database : String
  collection : String
  connectTimeout : Int
  batchSize : Nat
  retries : Nat
  retryDelay : Binary64
  truncate : Bool
  upsert : Bool
  modifierUpdate : Bool
  multi : Bool
  mappingFile : Option FilePath
  logLevel : String
  logFormat : Log.Format
  /-- The origins that browsers may call from, with commas between them. -/
  allowedOrigins : String

namespace Settings

/-- The parts of a list with commas between them; blank parts do not count. -/
def listed (text : String) : List String :=
  ((text.splitOn ",").map Text.trim).filter (· ≠ "")

def hosts (s : Settings) : List String := listed s.storeHosts

def origins (s : Settings) : List String := listed s.allowedOrigins

def isDevelopment (s : Settings) : Bool := s.purpose = .development

def checkPath : Value → Checked (Option FilePath)
  | .null => .valid none
  | .str text => .valid (some (.ofString text))
  | _ => .issue .notPath

def checkPurpose : Value → Checked Purpose :=
  Check.among
    [("development", .development), ("staging", .staging), ("production", .production)]
    "'development', 'staging' or 'production'"

def checkFormat : Value → Checked Log.Format :=
  Check.among [("json", .json), ("console", .console)] "'json' or 'console'"

def checkFields (fs : Fields) : Checked Settings :=
  Settings.mk <$> Check.optional fs "app_name" "docloader" Check.string
    <*> Check.optional fs "app_env" .development checkPurpose
    <*> Check.optional fs "app_debug" false Check.bool
    <*> Check.optional fs "app_version" "1.0.0" Check.string
    <*> Check.optional fs "host" "0.0.0.0" Check.string
    <*> Check.optional fs "port" 8000 Check.integer
    <*> Check.optional fs "mongo_host" "localhost" Check.string
    <*> Check.optional fs "mongo_port" 27017 Check.integer
    <*> Check.optional fs "mongo_username" "" Check.string
    <*> Check.optional fs "mongo_password" "" Check.string
    <*> Check.optional fs "mongo_auth_database" "admin" Check.string
    <*> Check.optional fs "mongo_database" "" Check.string
    <*> Check.optional fs "mongo_collection" "" Check.string
    <*> Check.optional fs "mongo_connect_timeout_ms" 10000 Check.integer
    <*> Check.optional fs "batch_insert_size" LoadConfig.defaultBatchSize (Check.natAtLeast 1)
    <*> Check.optional fs "write_retries" LoadConfig.defaultRetries (Check.natAtLeast 0)
    <*> Check.optional fs "write_retry_delay" LoadConfig.defaultRetryDelay Check.nonnegative
    <*> Check.optional fs "truncate" false Check.bool
    <*> Check.optional fs "upsert" false Check.bool
    <*> Check.optional fs "modifier_update" false Check.bool
    <*> Check.optional fs "multi" false Check.bool
    <*> Check.optional fs "mapping_file" none checkPath
    <*> Check.optional fs "log_level" "INFO" Check.string
    <*> Check.optional fs "log_format" .json checkFormat
    <*> Check.optional fs "allowed_origins" "http://localhost:3000,http://localhost:8000"
      Check.string

/-- Every setting by its name. -/
def toFields (s : Settings) : Fields :=
  [("app_name", .str s.appName), ("app_env", .str s.purpose.name), ("app_debug", .bool s.debug),
   ("app_version", .str s.version), ("host", .str s.host), ("port", .int s.port),
   ("mongo_host", .str s.storeHosts), ("mongo_port", .int s.storePort),
   ("mongo_username", .str s.userName), ("mongo_password", .str s.password),
   ("mongo_auth_database", .str s.authDatabase), ("mongo_database", .str s.database),
   ("mongo_collection", .str s.collection), ("mongo_connect_timeout_ms", .int s.connectTimeout),
   ("batch_insert_size", .int s.batchSize), ("write_retries", .int s.retries),
   ("write_retry_delay", .float s.retryDelay), ("truncate", .bool s.truncate),
   ("upsert", .bool s.upsert), ("modifier_update", .bool s.modifierUpdate),
   ("multi", .bool s.multi), ("mapping_file", .ofOption (s.mappingFile.map FilePath.text)),
   ("log_level", .str s.logLevel), ("log_format", .str s.logFormat.name),
   ("allowed_origins", .str s.allowedOrigins)]

/-- All settings by their names, with what they hold. -/
def named : List (String × Holds) :=
  [("app_name", .text), ("app_env", .text), ("app_debug", .truth), ("app_version", .text),
   ("host", .text), ("port", .text), ("mongo_host", .text), ("mongo_port", .text),
   ("mongo_username", .text), ("mongo_password", .text), ("mongo_auth_database", .text),
   ("mongo_database", .text), ("mongo_collection", .text), ("mongo_connect_timeout_ms", .text),
   ("batch_insert_size", .text), ("write_retries", .text), ("write_retry_delay", .text),
   ("truncate", .truth), ("upsert", .truth), ("modifier_update", .truth), ("multi", .truth),
   ("mapping_file", .nullable), ("log_level", .text), ("log_format", .text),
   ("allowed_origins", .text)]

def read (sources : Sources) (files : Files) : Except Stop Settings := do
  (checkFields (← Reading.collect named sources files)).toExcept

/-- The mapping in what was read from a path. -/
def mappingFrom (path : FilePath) (read : Except ForeignError (List UInt8)) :
    Except Fault Mapping := do
  let bytes ← read.mapError fun e =>
    if e.kind.isReading then .config (.unreadableMapping path.text e) else .foreign e
  let text ← (Files.textOf bytes).mapError .foreign
  match Mapping.ofText text with
  | .valid m => return m
  | .issues is => throw (.config (.invalidMapping path.text is))
  | .fault f => throw f

/-- Reads the mapping that the settings name. -/
def readMapping (s : Settings) (files : Files) : Except Fault Mapping := do
  let some path := s.mappingFile | throw (.config .noMappingFile)
  mappingFrom path (files.readBytes path)

/-- The configuration of a load with a mapping. -/
def configWith (s : Settings) (m : Mapping) : Except Fault LoadConfig :=
  LoadConfig.assemble ⟨s.database, s.collection, s.batchSize, s.retries, s.retryDelay, s.truncate,
    s.upsert, s.modifierUpdate, s.multi, m.fields, m.indexes⟩

def loadConfig (s : Settings) (files : Files) : Except Fault LoadConfig := do
  s.configWith (← s.readMapping files)

end Settings

end RowIngest
