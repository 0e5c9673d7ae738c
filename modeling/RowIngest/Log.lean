import RowIngest.Value
/-!
Log records: a level, the logger that writes, a message and named values.
-/
namespace RowIngest.Log

inductive Level where
  | debug
  | info
  | warning
  | error
  | critical
  deriving DecidableEq

namespace Level

def rank : Level → Nat
  | .debug => 10
  | .info => 20
  | .warning => 30
  | .error => 40
  | .critical => 50

def name : Level → String
  | .debug => "DEBUG"
  | .info => "INFO"
  | .warning => "WARNING"
  | .error => "ERROR"
  | .critical => "CRITICAL"

end Level

/-- The parts of the program that write to the log. -/
inductive Logger where
  | service
  | requests
  | failures
  | loads
  | rows
  | writes
  | indexes
  | store
  | documents
  | queries
  | shapes
  deriving DecidableEq

def Logger.name : Logger → String
  | .service => "docloader.main"
  | .requests => "docloader.core.middleware"
  | .failures => "docloader.core.error_handlers"
  | .loads => "docloader.services.load_service"
  | .rows => "docloader.services.pipeline"
  | .writes => "docloader.services.writers"
  | .indexes => "docloader.services.index_manager"
  | .store => "docloader.services.store_client"
  | .documents => "docloader.mappers.document_mapper"
  | .queries => "docloader.mappers.query_mapper"
  | .shapes => "docloader.mappers.shape"

structure Record where
  level : Level
  logger : Logger
  message : String
  extra : Fields

end RowIngest.Log
