import RowIngest.Check.Issue
import RowIngest.Json.Error
import RowIngest.Text.Quoted
import RowIngest.Value.Shown
/-!
Everything that can go wrong. A fault is a cause: a problem this library finds, an error a
collaborator states in the library's own terms, or a foreign error that passes through. From
the cause follow the category, the message, the codes, the details and the underlying error.
That the program ends, or that nobody waits for a load any more, is no error and no fault.
-/
namespace RowIngest

/-- The families of errors that are reported, each below a more general one. -/
inductive Category where
  | application
  | configuration
  | fieldMismatch
  | transformation
  | mappingField
  | documentRejected
  | store
  | storeWrite
  | writeFailure
  deriving DecidableEq

namespace Category

def all : List Category :=
  [.application, .configuration, .fieldMismatch, .transformation, .mappingField,
   .documentRejected, .store, .storeWrite, .writeFailure]

def name : Category → String
  | .application => "AppException"
  | .configuration => "ConfigurationException"
  | .fieldMismatch => "FieldMismatchException"
  | .transformation => "TransformationException"
  | .mappingField => "MappingFieldException"
  | .documentRejected => "DocumentRejectedException"
  | .store => "StoreException"
  | .storeWrite => "StoreWriteException"
  | .writeFailure => "WriteFailureException"

def ofName? (s : String) : Option Category := all.find? (·.name == s)

/-- The categories between a category and the root. -/
def family : Category → List Category
  | .application => []
  | .fieldMismatch => [.configuration]
  | .mappingField | .documentRejected => [.transformation]
  | .storeWrite | .writeFailure => [.store]
  | .configuration | .transformation | .store => []

/-- The category with the more general ones above it, ending with the root of all errors. -/
def lineage (c : Category) : List String :=
  let above := if c = .application then [] else c.family ++ [.application]
  (c :: above).map name ++ ["Exception"]

def statusCode : Category → Int
  | .application | .configuration | .fieldMismatch => 500
  | .transformation | .mappingField | .documentRejected => 422
  | .store | .storeWrite | .writeFailure => 502

def errorCode : Category → String
  | .application => "INTERNAL_ERROR"
  | .configuration => "CONFIGURATION_ERROR"
  | .fieldMismatch => "FIELD_MISMATCH"
  | .transformation => "TRANSFORMATION_ERROR"
  | .mappingField => "MAPPING_FIELD_ERROR"
  | .documentRejected => "DOCUMENT_REJECTED"
  | .store => "STORE_ERROR"
  | .storeWrite => "STORE_WRITE_ERROR"
  | .writeFailure => "WRITE_FAILED"

/-- What is said where nothing more particular is known. -/
def defaultMessage : Category → String
  | .application => "An unexpected error occurred."
  | .configuration => "Invalid configuration."
  | .fieldMismatch => "Fields not found in incoming rows: "
  | .transformation => "Data transformation failed."
  | .mappingField => "Field mapping failed."
  | .documentRejected => "Document rejected by the store."
  | .store => "Document store operation failed."
  | .storeWrite => "Write to the document store failed."
  | .writeFailure => "Write failed after exhausting retries."

end Category

/-- Errors of the store's driver. -/
inductive DriverError where
  | driver
  | autoReconnect
  | operationFailure
  | duplicateKey
  | selectionTimeout
  | write
  | collectionInvalid
  | configuration
  | invalidUri
  | invalidOperation
  deriving DecidableEq

/-- Errors of the names of hosts: in their form, in a character, in its place, in the directions. -/
inductive HostnameError where
  | form
  | character
  | context
  | direction
  deriving DecidableEq

/-- The kinds of errors that come from outside the library. -/
inductive ForeignKind where
  | driver (e : DriverError)
  | invalidDocument
  | wrongType
  | wrongValue
  | runtime
  | missingKey
  /-- An object has nothing at a place of a list. -/
  | missingPlace
  | missingItem
  | missingPart
  | undecodable
  | noSuchFile
  | isDirectory
  | notDirectory
  | system
  | badJson
  | outOfMemory
  | overflow
  | failedAssertion
  | badAddress
  | badHostname (e : HostnameError)
  | wrongProtocol
  | unencodable
  | unmarkedUnits
  | unknownName
  | settings
  | badOption
  deriving DecidableEq

namespace ForeignKind

def name : ForeignKind → String
  | .driver .driver => "PyMongoError"
  | .driver .autoReconnect => "AutoReconnect"
  | .driver .operationFailure => "OperationFailure"
  | .driver .duplicateKey => "DuplicateKeyError"
  | .driver .selectionTimeout => "ServerSelectionTimeoutError"
  | .driver .write => "WriteError"
  | .driver .collectionInvalid => "CollectionInvalid"
  | .driver .configuration => "ConfigurationError"
  | .driver .invalidUri => "InvalidURI"
  | .driver .invalidOperation => "InvalidOperation"
  | .invalidDocument => "InvalidDocument"
  | .wrongType => "TypeError"
  | .wrongValue => "ValueError"
  | .runtime => "RuntimeError"
  | .missingKey | .missingPlace => "KeyError"
  | .missingItem => "IndexError"
  | .missingPart => "AttributeError"
  | .undecodable => "UnicodeDecodeError"
  | .noSuchFile => "FileNotFoundError"
  | .isDirectory => "IsADirectoryError"
  | .notDirectory => "NotADirectoryError"
  | .system => "OSError"
  | .badJson => "JSONDecodeError"
  | .outOfMemory => "MemoryError"
  | .overflow => "OverflowError"
  | .failedAssertion => "AssertionError"
  | .badAddress => "InvalidURL"
  | .badHostname .form => "IDNAError"
  | .badHostname .character => "InvalidCodepoint"
  | .badHostname .context => "InvalidCodepointContext"
  | .badHostname .direction => "IDNABidiError"
  | .wrongProtocol => "RemoteProtocolError"
  | .unencodable => "UnicodeEncodeError"
  | .unmarkedUnits => "UnicodeError"
  | .unknownName => "LookupError"
  | .settings => "SettingsError"
  | .badOption => "ArgumentError"

/-- The kinds a collaborator may raise. -/
def raisable : List ForeignKind :=
  [.driver .driver, .driver .autoReconnect, .driver .operationFailure, .driver .duplicateKey,
   .driver .selectionTimeout, .driver .write, .driver .collectionInvalid,
   .driver .configuration, .driver .invalidUri, .driver .invalidOperation, .invalidDocument,
   .wrongType, .wrongValue, .runtime, .missingKey]

def ofName? (s : String) : Option ForeignKind := raisable.find? (·.name == s)

def isDriver : ForeignKind → Bool
  | .driver _ => true
  | _ => false

/-- The driver refuses to encode a document with one of these. -/
def isEncoding : ForeignKind → Bool
  | .wrongType | .invalidDocument => true
  | _ => false

/-- A file cannot be read. -/
def isReading : ForeignKind → Bool
  | .noSuchFile | .isDirectory | .notDirectory | .system => true
  | _ => false

/-- The driver finds fault with the options it is given. -/
def isOptions : ForeignKind → Bool
  | .driver .configuration | .driver .invalidUri => true
  | _ => false

end ForeignKind

structure ForeignError where
  kind : ForeignKind
  message : String

namespace ForeignError

/-- The error in words; a missing key is shown quoted. -/
def text (e : ForeignError) : String :=
  if e.kind = .missingKey then Text.quoted e.message else e.message

def ofJson : Json.Error → ForeignError
  | .malformed complaint line column position =>
    ⟨.badJson, Json.Error.message (.malformed complaint line column position)⟩
  | .longInteger digits => ⟨.wrongValue, Json.longIntegerMessage digits⟩

end ForeignError

/-- The kinds of writes. -/
inductive Operation where
  | insertMany
  | updateOne
  | updateMany
  | replaceOne
  deriving DecidableEq

def Operation.name : Operation → String
  | .insertMany => "insert_many"
  | .updateOne => "update_one"
  | .updateMany => "update_many"
  | .replaceOne => "replace_one"

/-- An index is known by its paths and directions. -/
abbrev IndexKeys := List (String × Int)

def IndexKeys.value (keys : IndexKeys) : Value :=
  .list (keys.map fun (path, direction) => .list [.str path, .int direction])

/-- Why a mapping or the settings of a load cannot be used. -/
inductive ConfigProblem where
  | malformedPath (path part : String)
  | noDatabase
  | noCollection
  | invalid (issues : List Check.Issue)
  | multiReplacement
  | noMatchKey
  | mixedRoots
  | arrayRoots
  | mixedDocuments
  | unplaced (field : String)
  | severalDocuments (fields : List String)
  | documentWithOthers (document : String) (fields : List String)
  | overlap (first second firstPath secondPath : String)
  | batchSize (asked : Value)
  | replacementOfMany
  | sparseKeys (keys : IndexKeys)
  | noMappingFile
  | unreadableMapping (path : String) (cause : ForeignError)
  | invalidMapping (path : String) (issues : List Check.Issue)
  | connection (hosts : List String) (cause : ForeignError)

/-- Why a field of a row cannot be mapped. -/
inductive FieldProblem where
  | notText (type : String)
  | badJson (e : Json.Error)
  | notArray (path : String)
  | notObject (path : String)
  | keyInArray (key path : String)
  | positionInObject (position : Nat) (path : String)
  | documentNotContainer
  | matchNotObject

/-- Store operations other than writes, as failures name them. -/
inductive StoreProblem where
  | createCollection (name : String)
  | dropCollection (name : String)
  | createIndex (keys : IndexKeys)
  | dropIndex (keys : IndexKeys)

inductive Fault where
  | config (problem : ConfigProblem)
  | missingFields (names : List String)
  | field (name : String) (problem : FieldProblem)
  /-- A collaborator's statement in the library's own terms. -/
  | stated (category : Category) (message : String) (details : Fields)
  /-- A write the store took and did not apply. -/
  | notApplied (operation : Operation) (reason : Option String) (server : Option String)
  /-- A write that was given up; `inTime` tells that attempts were left. -/
  | gaveUp (operation : Operation) (attempts : Nat) (inTime cancelled : Bool) (last : Fault)
  | driverWrite (operation : Operation) (cause : ForeignError)
  | rejected (operation : Operation) (cause : ForeignError)
  | storeFailed (problem : StoreProblem) (cause : ForeignError)
  | foreign (e : ForeignError)
  | invalid (issues : List Check.Issue)

/-- How an error of the library's own is reported. -/
structure Report where
  category : Category
  message : String
  statusCode : Int
  errorCode : String
  details : Fields

namespace Report

def ofCategory (category : Category) (message : String) (details : Fields) : Report :=
  ⟨category, message, category.statusCode, category.errorCode, details⟩

/-- The report as an object; details are left out where there are none. -/
def toValue (r : Report) : Fields :=
  [("error", .bool true), ("error_code", .str r.errorCode), ("message", .str r.message)]
    ++ if r.details.isEmpty then [] else [("details", .obj r.details)]

/-- Fields a row schema lacks. -/
def missingFields (names : List String) (details : Fields) : Report :=
  let quotedNames := names.map fun name => "'" ++ name ++ "'"
  .ofCategory .fieldMismatch
    (Category.defaultMessage .fieldMismatch ++ ", ".intercalate quotedNames)
    (Fields.set details "missing_fields" (.list (names.map .str)))

/-- One field that cannot be mapped. -/
def mappingField (name reason : String) (details : Fields) : Report :=
  .ofCategory .mappingField s!"Failed to map field '{name}': {reason}"
    (Fields.set details "field" (.str name))

end Report

/-- Issues as they stand in the details of a report. -/
def Check.Issue.toFields (i : Check.Issue) : Value :=
  .obj [("field", .str (i.placeText ".")), ("message", .str i.complaint.message)]

/-- The issues of a model, below a line that counts them. -/
def Check.Issue.reportText (model : String) (issues : List Check.Issue) : String :=
  let plural := if issues.length = 1 then "" else "s"
  s!"{issues.length} validation error{plural} for {model}\n"
    ++ "\n".intercalate (issues.map fun i => i.placeText "." ++ ": " ++ i.complaint.message)

def Check.Issue.listText (issues : List Check.Issue) : String :=
  "; ".intercalate (issues.map fun i => i.placeText "." ++ ": " ++ i.complaint.message)

namespace ConfigProblem

def message : ConfigProblem → String
  | .malformedPath path _ => s!"Malformed document path '{path}'."
  | .noDatabase => "No database specified."
  | .noCollection => "No collection specified."
  | .invalid _ => "Invalid pipeline configuration."
  | .multiReplacement => "Multi-document updates require modifier updates; "
      ++ "a full replacement can only target one document."
  | .noMatchKey => "Upsert requires at least one match key field."
  | .mixedRoots => "Mapped fields disagree on whether the document root "
      ++ "is an object or an array."
  | .arrayRoots => "Mapped fields build array-rooted documents, which the "
      ++ "document store cannot hold; map them under an object key."
  | .mixedDocuments => "Cannot build documents with an inconsistent top-level structure."
  | .unplaced field => s!"Field '{field}' has no document path; "
      ++ "only a JSON sub-document can be mapped to the root."
  | .severalDocuments _ => "Only one field can supply the whole document."
  | .documentWithOthers _ _ => "A whole-document field cannot be combined with other "
      ++ "inserted fields."
  | .overlap first second firstPath secondPath => s!"Fields '{first}' and '{second}' map to "
      ++ s!"overlapping paths '{firstPath}' and '{secondPath}'."
  | .batchSize asked => "Batch size must be at least 1, got " ++ asked.text ++ "."
  | .replacementOfMany => "A replacement document cannot update multiple matches."
  | .sparseKeys _ => "Sparse indexes can only cover a single field."
  | .noMappingFile => "No mapping file configured (MAPPING_FILE)."
  | .unreadableMapping path _ => s!"Cannot read mapping file '{path}'."
  | .invalidMapping path _ => s!"Invalid mapping file '{path}'."
  | .connection _ _ => "Invalid document store connection settings."

def details : ConfigProblem → Fields
  | .malformedPath path part => [("path", .str path), ("part", .str part)]
  | .invalid issues => [("errors", .list (issues.map (·.toFields)))]
  | .severalDocuments fields => [("fields", .list (fields.map .str))]
  | .documentWithOthers document fields =>
    [("document_field", .str document), ("fields", .list (fields.map .str))]
  | .sparseKeys keys => [("keys", keys.value)]
  | .unreadableMapping _ cause => [("reason", .str cause.text)]
  | .invalidMapping _ issues => [("reason", .str (Check.Issue.reportText "MappingFile" issues))]
  | .connection hosts cause =>
    [("hosts", .list (hosts.map .str)), ("reason", .str cause.text)]
  | _ => []

end ConfigProblem

def FieldProblem.reason : FieldProblem → String
  | .notText type => s!"Expected JSON text, got {type}."
  | .badJson e => s!"Value is not valid JSON: {e.message}"
  | .notArray path => s!"Path '{path}' crosses a value that is not an array."
  | .notObject path => s!"Path '{path}' crosses a value that is not an object."
  | .keyInArray key path => s!"Key '{key}' of '{path}' addresses an array."
  | .positionInObject position path => s!"Index [{position}] of '{path}' addresses an object."
  | .documentNotContainer => "A whole-document value must be a JSON object or array."
  | .matchNotObject => "A root-level match value must be a JSON object."

namespace StoreProblem

def message : StoreProblem → String
  | .createCollection name => s!"Cannot create collection '{name}'."
  | .dropCollection name => s!"Cannot drop collection '{name}'."
  | .createIndex _ => "Index creation failed."
  | .dropIndex _ => "Dropping index failed."

def details (cause : ForeignError) : StoreProblem → Fields
  | .createCollection _ | .dropCollection _ => [("reason", .str cause.text)]
  | .createIndex keys | .dropIndex keys =>
    [("keys", keys.value), ("reason", .str cause.text)]

end StoreProblem

namespace Fault

def driverDetails (operation : Operation) (cause : ForeignError) : Fields :=
  [("operation", .str operation.name), ("error_type", .str cause.kind.name)]

/-- What a fault says, in one line. -/
def message : Fault → String
  | .config problem => problem.message
  | .missingFields names => (Report.missingFields names []).message
  | .field name problem => (Report.mappingField name problem.reason []).message
  | .stated _ message _ => message
  | .notApplied operation reason _ =>
    match reason with
    | some r => if r.isEmpty then s!"{operation.name} was not applied." else r
    | none => s!"{operation.name} was not applied."
  | .gaveUp operation attempts inTime _ last =>
    let reason := if inTime then "cancelled" else s!"failed after {attempts} attempt(s)"
    s!"{operation.name} {reason}: {last.message}"
  | .driverWrite operation cause => s!"{operation.name} failed: {cause.text}"
  | .rejected operation cause => s!"{operation.name} rejected the document: {cause.text}"
  | .storeFailed problem _ => problem.message
  | .foreign e => e.text
  | .invalid issues => Check.Issue.listText issues

def category? : Fault → Option Category
  | .config _ => some .configuration
  | .missingFields _ => some .fieldMismatch
  | .field _ _ => some .mappingField
  | .stated category _ _ => some category
  | .notApplied _ _ _ => some .storeWrite
  | .gaveUp _ _ _ _ _ => some .writeFailure
  | .driverWrite _ _ => some .storeWrite
  | .rejected _ _ => some .documentRejected
  | .storeFailed _ _ => some .store
  | .foreign _ | .invalid _ => none

def details : Fault → Fields
  | .config problem => problem.details
  | .missingFields names => (Report.missingFields names []).details
  | .field name problem => (Report.mappingField name problem.reason []).details
  | .stated _ _ details => details
  | .notApplied operation _ server =>
    [("operation", .str operation.name), ("server", .ofOption server)]
  | .gaveUp operation attempts _ cancelled _ =>
    [("operation", .str operation.name), ("attempts", .int attempts),
     ("cancelled", .bool cancelled)]
  | .driverWrite operation cause | .rejected operation cause => driverDetails operation cause
  | .storeFailed problem cause => problem.details cause
  | .foreign _ | .invalid _ => []

/-- The report of a fault; foreign errors and issues have none. -/
def report? (f : Fault) : Option Report :=
  f.category?.map fun category => .ofCategory category f.message f.details

/-- The error underneath. -/
def cause? : Fault → Option Fault
  | .config (.invalid issues) | .config (.invalidMapping _ issues) => some (.invalid issues)
  | .config (.unreadableMapping _ cause) | .config (.connection _ cause) =>
    some (.foreign cause)
  | .field _ (.badJson e) => some (.foreign (.ofJson e))
  | .gaveUp _ _ _ _ last => some last
  | .driverWrite _ cause | .rejected _ cause | .storeFailed _ cause => some (.foreign cause)
  | _ => none

/-- A failed attempt at a write, which may be tried again. -/
def isRetryable (f : Fault) : Bool := f.category? == some .storeWrite

def isConfiguration (f : Fault) : Bool :=
  f.category? == some .configuration || f.category? == some .fieldMismatch

/-- The name of the kind of error. -/
def kindName : Fault → String
  | .foreign e => e.kind.name
  | .invalid _ => "ValidationError"
  | f => (f.category?.map Category.name).getD ""

def ofForeign (kind : ForeignKind) (message : String) : Fault := .foreign ⟨kind, message⟩

/-- A collaborator's answer lacks a part that every such answer has. -/
def lacks (answer : Value) (part : String) : Fault :=
  .ofForeign .missingPart s!"'{answer.typeName}' object has no attribute '{part}'"

end Fault

end RowIngest
