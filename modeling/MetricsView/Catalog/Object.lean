import MetricsView.Schema
import MetricsView.Text.Lowercase
import MetricsView.Time

/-!
# Catalog objects

The named definitions in the catalog of a tenant.
-/
namespace MetricsView

inductive ObjectKind where
  | unspecified | table | view | metricsView
  deriving DecidableEq, Repr

namespace ObjectKind

def name : ObjectKind → String
  | unspecified => "unspecified"
  | table => "table"
  | view => "view"
  | metricsView => "metrics_view"

def code : ObjectKind → Int
  | unspecified => 0
  | table => 1
  | view => 2
  | metricsView => 3

def all : List ObjectKind := [unspecified, table, view, metricsView]

theorem mem_all (k : ObjectKind) : k ∈ all := by cases k <;> decide

def ofCode? (code : Int) : Option ObjectKind := all.find? fun k => k.code = code

theorem ofCode?_code (k : ObjectKind) : ofCode? k.code = some k := by cases k <;> decide

def named : List (String × ObjectKind) := all.map fun k => (k.name, k)

/-- Reads a name in any case. A metrics view may be written as one word. -/
def parse : String → Except UnknownName ObjectKind :=
  choose "object type" (named ++ [("metricsview", metricsView)])

def toJson (k : ObjectKind) : Json := .text k.name

def ofJson? : Json → Option ObjectKind := Json.choice? named

end ObjectKind

structure CatalogObject where
  name : String
  kind : ObjectKind
  sql : Option String
  schema : Option Schema
  /-- Whether the system owns the object, and not the user. -/
  managed : Bool
  createdOn : Instant
  updatedOn : Instant
  refreshedOn : Instant
  deriving DecidableEq, Repr

namespace CatalogObject

/-- An object that has not been stored. -/
def ofName (name : String) (kind : ObjectKind) : CatalogObject :=
  ⟨name, kind, none, none, false, .epoch, .epoch, .epoch⟩

def isMetricsView (o : CatalogObject) : Bool := o.kind = .metricsView

def toJson (o : CatalogObject) : Json :=
  .record [("name", .text o.name), ("type", o.kind.toJson), ("sql", .option Json.text o.sql),
    ("schema", .option Schema.toJson o.schema), ("managed", .bool o.managed),
    ("created_on", .text o.createdOn.text), ("updated_on", .text o.updatedOn.text),
    ("refreshed_on", .text o.refreshedOn.text)]

def instantOfJson? (v : Json) : Option Instant := v.string?.bind Instant.ofText?

def ofJson? (v : Json) : Option CatalogObject := do
  match ← v.fields? ["name", "type", "sql", "schema", "managed", "created_on", "updated_on",
      "refreshed_on"] with
  | [name, kind, sql, schema, managed, createdOn, updatedOn, refreshedOn] =>
    return ⟨← Json.required? Json.string? name, ← Json.required? ObjectKind.ofJson? kind,
      ← Json.default? none (Json.option? Json.string?) sql,
      ← Json.default? none (Json.option? Schema.ofJson?) schema,
      ← Json.required? Json.bool? managed, ← Json.required? instantOfJson? createdOn,
      ← Json.required? instantOfJson? updatedOn, ← Json.required? instantOfJson? refreshedOn⟩
  | _ => none

end CatalogObject
end MetricsView
