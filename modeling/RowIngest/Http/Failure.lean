import RowIngest.Http.Message
import RowIngest.Json.Finite
import RowIngest.Log.Output
/-!
Requests that fail. A failure is logged and answered with an object that has a code, a message
and the name of the request. What no rule foresees is answered like that too, but outside of
the request, with nothing told about it.
-/
namespace RowIngest.Http

inductive Failure where
  /-- A load failed. -/
  | load (report : Report)
  /-- The rows of a request are not as they have to be. -/
  | rows (issues : List Check.Issue)
  | refused (status : Nat) (detail : String)

/-- An error that no rule foresees. -/
structure Surprise where
  kind : String
  message : String

/-- An error that has a report is a failure of the load. -/
def Failure.ofFault (f : Fault) : Failure ⊕ Surprise :=
  match f.report? with
  | some report => .inl (.load report)
  | none => .inr ⟨f.kindName, f.message⟩

/-- The values by which a failure is logged: the request, its address and its method. -/
def Request.context (r : Request) (id site : String) : Fields :=
  [("request_id", .str id), ("path", .str (r.addressAt site r.target.path)),
   ("method", .str r.method)]

/-- The object that answers a request that failed. -/
def errorFields (code message id : String) : Fields :=
  [("error", .bool true), ("error_code", .str code), ("message", .str message),
   ("request_id", .str id)]

namespace Failure

/-- Issues are placed in the body, with the steps to them joined by arrows. -/
def issueValue (i : Check.Issue) : Value :=
  .obj [("field", .str (i.placeText " → ")), ("message", .str i.complaint.message),
    ("type", .str i.complaint.tag)]

def issuesValue (issues : List Check.Issue) : Value := .list (issues.map issueValue)

/-- Problems of the configuration and of the store stop every load; those of rows are left to
the client. -/
def level (c : Category) : Log.Level :=
  if (c :: c.family).any [.configuration, .store].contains then .error else .warning

def record (context : Fields) : Failure → Log.Record
  | .load report =>
    ⟨level report.category, .failures, "Load failed",
      context ++ [("error_code", .str report.errorCode), ("status_code", .int report.statusCode),
        ("error_message", .str report.message), ("details", .obj report.details)]⟩
  | .rows issues =>
    ⟨.warning, .failures, "Request validation failed",
      context ++ [("validation_errors", issuesValue issues)]⟩
  | .refused status detail =>
    ⟨.warning, .failures, "HTTP error",
      context ++ [("status_code", .int status), ("detail", .str detail)]⟩

/-- The response to a failure, unless JSON has no numbers for its details. -/
def response (id : String) : Failure → Except Surprise Response
  | .load report =>
    if Json.allFieldsFinite report.details then
      .ok (.json report.statusCode.toNat (report.toValue ++ [("request_id", .str id)]))
    else .error ⟨ForeignKind.wrongValue.name, Json.notFiniteMessage⟩
  | .rows issues =>
    .ok (.json 422 (errorFields "VALIDATION_ERROR" "Request validation failed." id
      ++ [("details", .obj [("errors", issuesValue issues)])]))
  | .refused status detail => .ok (.json status (errorFields "HTTP_ERROR" detail id))

end Failure

namespace Surprise

def entry (context : Fields) (trace : String) (s : Surprise) : Log.Entry :=
  ⟨Log.Level.critical.rank, Log.Logger.failures.name, .str "Unhandled exception",
    context ++ [("exception_type", .str s.kind), ("exception_message", .str s.message)],
    some trace⟩

def response (id : String) : Response :=
  .json 500 (errorFields "INTERNAL_ERROR" "An unexpected internal error occurred." id)

end Surprise

end RowIngest.Http
