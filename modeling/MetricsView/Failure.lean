import MetricsView.Catalog.Locator
import MetricsView.Catalog.Object
import MetricsView.Query.Filter
import MetricsView.Row

/-!
# Failures

Why the catalog or the service cannot answer, with the text and the status of each cause.
-/
namespace MetricsView

inductive Subject where
  | tenant | object | metricsView
  deriving DecidableEq, Repr

def Subject.name : Subject → String
  | .tenant => "tenant"
  | .object => "object"
  | .metricsView => "metrics view"

inductive StorageFault where
  | duplicateKey
  | unknownKind (code : Int)
  | locator (error : LocatorError)
  /-- A path with a zero octet at the position. -/
  | zeroOctet (position : Nat)
  | cannotOpen (path : String)
  /-- The file that guards the writing can not be made. -/
  | cannotGuard
  | readOnly
  | notADatabase
  | noTable
  | device
  deriving DecidableEq, Repr

def StorageFault.message : StorageFault → String
  | .duplicateKey => "UNIQUE constraint failed: catalog.tenant_id, catalog.name"
  | .unknownKind code => s!"Integer {code} out of range at index 1"
  | .locator error => error.message
  | .zeroOctet position => s!"nul byte found in provided data at position: {position}"
  | .cannotOpen path => s!"unable to open database file: {path}"
  | .cannotGuard => "unable to open database file"
  | .readOnly => "attempt to write a readonly database"
  | .notADatabase => "file is not a database"
  | .noTable => "no such table: catalog"
  | .device => "disk I/O error"

inductive Failure where
  | notFound (subject : Subject) (name : String)
  | wrongKind (name : String) (expected actual : ObjectKind)
  | invalidRequest (reason : String)
  | schema (error : CodecError)
  | storage (fault : StorageFault)
  | storageUnavailable (reason : String)
  | degenerateResult (reason : String)
  | conversion (reason : String)
  | execution (reason : String)
  deriving DecidableEq, Repr

namespace Failure

def message : Failure → String
  | .notFound subject name => s!"{subject.name} not found: {name}"
  | .wrongKind name expected actual =>
    s!"object '{name}' is a {actual.name}, not a {expected.name}"
  | .invalidRequest reason => s!"invalid request: {reason}"
  | .schema error => s!"schema encoding error: {error.message}"
  | .storage fault => s!"storage error: {fault.message}"
  | .storageUnavailable reason => s!"storage error: {reason}"
  | .degenerateResult reason => s!"degenerate result: {reason}"
  | .conversion reason => s!"result conversion error: {reason}"
  | .execution reason => s!"query execution failed: {reason}"

/-- Whether the caller is at fault, and not the system. -/
def isClientFault : Failure → Bool
  | .notFound .. | .wrongKind .. | .invalidRequest _ | .execution _ => true
  | .schema _ | .storage _ | .storageUnavailable _ | .degenerateResult _ | .conversion _ => false

def status : Failure → String
  | .notFound .. | .wrongKind .. => "NOT_FOUND"
  | .invalidRequest _ | .execution _ => "INVALID_ARGUMENT"
  | .schema _ | .storage _ | .storageUnavailable _ | .degenerateResult _ | .conversion _ =>
    "INTERNAL"

def ofCompileError (e : CompileError) : Failure := .invalidRequest e.message

def ofConversionError (e : ConversionError) : Failure := .conversion e.message

end Failure
end MetricsView
