import MetricsView.Command.Run
import MetricsView.Proofs.Catalog.Run
import MetricsView.Proofs.Schema

/-! # What is printed can be read

The text that a command prints of objects is JSON, and all that it shows of each object is read back
from it. -/
namespace MetricsView

open Json (fields?_record list?_list choice?_text option?_option string?_text)

/-- What is shown of an object: all of it, with its times as texts. -/
structure Shown where
  name : String
  kind : ObjectKind
  sql : Option String
  schema : Option Schema
  managed : Bool
  createdOn : String
  updatedOn : String
  refreshedOn : String
  deriving DecidableEq

namespace Shown

def ofJson? (v : Json) : Option Shown := do
  match ← v.fields? ["name", "type", "sql", "schema", "managed", "created_on", "updated_on",
      "refreshed_on"] with
  | [name, kind, sql, schema, managed, createdOn, updatedOn, refreshedOn] =>
    return ⟨← Json.required? Json.string? name, ← Json.required? ObjectKind.ofJson? kind,
      ← Json.required? (Json.option? Json.string?) sql,
      ← Json.required? (Json.option? Schema.ofJson?) schema,
      ← Json.required? Json.bool? managed, ← Json.required? Json.string? createdOn,
      ← Json.required? Json.string? updatedOn, ← Json.required? Json.string? refreshedOn⟩
  | _ => none

/-- What a text shows of one object. -/
def ofText? (text : String) : Option Shown := (Json.ofString? text).bind ofJson?

/-- What a text shows of a list of objects. -/
def listOfText? (text : String) : Option (List Shown) :=
  (Json.ofString? text).bind (Json.list? ofJson?)

end Shown

namespace CatalogObject

def shown (o : CatalogObject) : Shown :=
  ⟨o.name, o.kind, o.sql, o.schema, o.managed, o.createdOn.text, o.updatedOn.text,
    o.refreshedOn.text⟩

theorem ofJson?_toJson (o : CatalogObject) : Shown.ofJson? o.toJson = some o.shown := by
  have hfields : o.toJson.fields? ["name", "type", "sql", "schema", "managed", "created_on",
      "updated_on", "refreshed_on"] =
      some [some (.text o.name), some o.kind.toJson, some (.option Json.text o.sql),
        some (.option Schema.toJson o.schema), some (.bool o.managed),
        some (.text o.createdOn.text), some (.text o.updatedOn.text),
        some (.text o.refreshedOn.text)] := fields?_record (by simp)
  have hkind : ObjectKind.ofJson? o.kind.toJson = some o.kind :=
    choice?_text (by decide) (List.mem_map.2 ⟨o.kind, o.kind.mem_all, rfl⟩)
  have hsql : Json.option? Json.string? (Json.option Json.text o.sql) = some o.sql :=
    option?_option (by simp [Json.text]) fun s _ => string?_text s
  have hschema : Json.option? Schema.ofJson? (Json.option Schema.toJson o.schema) =
      some o.schema :=
    option?_option (by simp [Schema.toJson, Json.record]) fun s _ => s.ofJson?_toJson
  simp [Shown.ofJson?, hfields, Json.required?, hkind, hsql, hschema, string?_text, Json.bool?,
    shown]

theorem ofText?_printed (o : CatalogObject) : Shown.ofText? (printed o.toJson) = some o.shown := by
  rw [Shown.ofText?, printed, Json.ofString?_renderLines]
  exact o.ofJson?_toJson

theorem listOfText?_printed (os : List CatalogObject) :
    Shown.listOfText? (printed (.list toJson os)) = some (os.map shown) := by
  have hlist : (Json.list toJson os).list? Shown.ofJson? = some (os.map shown) := by
    rw [Json.list, Json.list?, List.mapM_map]
    induction os with
    | nil => rfl
    | cons o os ih => simp [ofJson?_toJson, ih]
  rw [Shown.listOfText?, printed, Json.ofString?_renderLines]
  exact hlist

end CatalogObject

/-- The program ends with what a call of the store came to: the objects of the answer can be read
from its output, and a failure is told instead. Not to find the object of a name is a failure. -/
inductive Outcome.Tells (name : String) : Store.Outcome → Outcome → Prop where
  | failed (e : Failure) : Tells name (.error e) ⟨1, "", s!"Error: {e.message}\n"⟩
  | done : Tells name (.ok .done) ⟨0, "", ""⟩
  | object {o : CatalogObject} {output : String} (h : Shown.ofText? output = some o.shown) :
    Tells name (.ok (.object o)) ⟨0, output, ""⟩
  | found {o : CatalogObject} {output : String} (h : Shown.ofText? output = some o.shown) :
    Tells name (.ok (.found (some o))) ⟨0, output, ""⟩
  | absent : Tells name (.ok (.found none)) ⟨1, "", s!"Error: object not found: {name}\n"⟩
  | listed {os : List CatalogObject} {output : String}
    (h : Shown.listOfText? output = some (os.map CatalogObject.shown)) :
    Tells name (.ok (.listed os)) ⟨0, output, ""⟩

end MetricsView
