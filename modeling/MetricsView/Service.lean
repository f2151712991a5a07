import MetricsView.Catalog.Store
import MetricsView.Query.Compile

/-!
# The metrics view service

A request is answered in steps, each of which may fail: the tenant is looked up, then the view,
then the request is compiled, and only then is one statement sent to the executor.
-/
namespace MetricsView

abbrev Registry := String → Except Failure Bool

namespace Registry

def ofList (tenants : List String) : Registry := fun tenant => .ok (tenants.contains tenant)

def unavailable (reason : String) : Registry := fun _ => .error (.storageUnavailable reason)

end Registry

structure Statement where
  query : String
  args : List Arg
  priority : Int

/-- A statement together with the tenant for whom it runs. -/
structure Call where
  tenant : String
  statement : Statement

abbrev Executor := Call → Except Failure ResultSet

/-- An answer, with the calls of the executor that were made for it. -/
structure Reply (α : Type) where
  calls : List Call
  answer : Except Failure α

structure ViewMeta where
  name : String
  sql : Option String
  columns : List ColumnMeta

structure Response where
  columns : List ColumnMeta
  rows : List Row

structure TotalsResponse where
  columns : List ColumnMeta
  row : Row

structure Service where
  registry : Registry
  codec : Codec
  store : Store
  executor : Executor
  options : CompileOptions
  priority : Int

namespace Service

/-- A service with the options and the priority of the settings. -/
def ofSettings (registry : Registry) (codec : Codec) (store : Store) (executor : Executor)
    (settings : QuerySettings) : Service :=
  ⟨registry, codec, store, executor, .ofSettings settings, settings.priority⟩

/-- The metrics view of that name in any case. -/
def resolve (s : Service) (tenant name : String) : Except Failure CatalogObject := do
  if !(← s.registry tenant) then throw (.notFound .tenant tenant)
  match ← s.store.find s.codec tenant name with
  | none => throw (.notFound .metricsView name)
  | some o => if o.isMetricsView then return o else throw (.wrongKind o.name .metricsView o.kind)

def viewMeta (s : Service) (tenant name : String) : Except Failure ViewMeta := do
  let o ← s.resolve tenant name
  return ⟨o.name, o.sql, (o.schema.map Schema.info).getD []⟩

/-- Resolves the view and compiles the request. -/
def prepare (s : Service) (tenant view : String) (query : CompileResult Fragment) :
    Except Failure Fragment := do
  let _ ← s.resolve tenant view
  match query with
  | .ok f => return f
  | .error e => throw (.ofCompileError e)

def respond (r : ResultSet) : Except Failure Response :=
  match r.shape with
  | .ok rows => .ok ⟨r.schema.info, rows⟩
  | .error e => .error (.ofConversionError e)

/-- Executes a prepared query and shapes its result. -/
def run (s : Service) (tenant : String) (prepared : Except Failure Fragment) : Reply Response :=
  match prepared with
  | .error e => ⟨[], .error e⟩
  | .ok f =>
    let call : Call := ⟨tenant, ⟨f.sql, f.args, s.priority⟩⟩
    ⟨[call], s.executor call >>= respond⟩

def toplist (s : Service) (tenant : String) (r : Toplist) : Reply Response :=
  s.run tenant (s.prepare tenant r.view (r.compile s.options))

def timeSeries (s : Service) (tenant : String) (r : TimeSeries) : Reply Response :=
  s.run tenant (s.prepare tenant r.view (r.compile s.options))

/-- Totals are the first row of a result that has one. -/
def firstRow (r : Response) : Except Failure TotalsResponse :=
  match r.rows with
  | row :: _ => .ok ⟨r.columns, row⟩
  | [] => .error (.degenerateResult "no rows received from totals query")

def totals (s : Service) (tenant : String) (r : Totals) : Reply TotalsResponse :=
  let reply := s.run tenant (s.prepare tenant r.view (r.compile s.options))
  ⟨reply.calls, reply.answer >>= firstRow⟩

end Service
end MetricsView
