import MetricsView.Decimal
import MetricsView.Json.Printer
import MetricsView.Schema
import MetricsView.Text.Basic
import MetricsView.Text.Quoted
import MetricsView.Time

/-!
# Rows

The rows of the executor become response rows, which map column names to values in the order in
which the names first occurred. Each cell is converted under the declared type and nullability of
its column, and one bad cell fails the whole result.
-/
namespace MetricsView

inductive Scalar where
  | null
  | bool (b : Bool)
  | int (i : Int)
  | float (x : Float)
  | string (s : String)
  | timestamp (t : Instant)
  | bytes (b : Text.Octets)

namespace Scalar

/-- Floats are shown positionally from `0.0001` to below `10^16`. -/
def floatLayout : Layout where
  plainFrom := -4
  plainBelow := 16
  exponentSign := .ifNegative
  tie := .up

def floatText (x : Float) : String :=
  if x.isNaN then "NaN"
  else if x.isInf then if x < 0 then "-inf" else "inf"
  else String.ofList (floatLayout.text x)

def describe : Scalar → String
  | .null => "Null"
  | .bool b => s!"Bool({b})"
  | .int i => s!"Int({i})"
  | .float x => s!"Float({floatText x})"
  | .string s => s!"String({Text.quoted s})"
  | .timestamp t => s!"Timestamp({t.text})"
  | .bytes b => "Bytes([" ++ ", ".intercalate (b.map fun o => toString o.toNat) ++ "])"

end Scalar

inductive Datum where
  | null
  | bool (b : Bool)
  | int (i : Int)
  | float (x : Float)
  | string (s : String)

namespace Datum

def toJson : Datum → Json
  | .null => .null
  | .bool b => .bool b
  | .int i => .int i
  | .float x => .float x
  | .string s => .text s

/-- A float as a value. Infinities and what is not a number have no JSON form and become null. -/
def ofFloat (x : Float) : Datum := if x.isFinite then .float x else .null

end Datum

/-- Values by name, each name once. -/
structure Row where
  cells : List (String × Datum)

namespace Row

def empty : Row := ⟨[]⟩

def insertInto (name : String) (d : Datum) : List (String × Datum) → List (String × Datum)
  | [] => [(name, d)]
  | c :: cs => if c.1 = name then (name, d) :: cs else c :: insertInto name d cs

/-- A new name goes to the end; the value of a present name is replaced where it stands. -/
def insert (r : Row) (name : String) (d : Datum) : Row := ⟨insertInto name d r.cells⟩

def names (r : Row) : List String := r.cells.map (·.1)

def get? (r : Row) (name : String) : Option Datum :=
  (r.cells.find? fun c => c.1 = name).map (·.2)

def toJson (r : Row) : Json := .record (r.cells.map fun c => (c.1, c.2.toJson))

end Row

inductive ConversionError where
  | width (row values columns : Nat)
  | nullNotAllowed (column : String)
  | inexact (i : Int) (column : String) (code : TypeCode)
  | mismatch (column : String) (code : TypeCode) (value : Scalar)

namespace ConversionError

def message : ConversionError → String
  | .width row values columns =>
    s!"row {row} has {values} values but the result has {columns} columns"
  | .nullNotAllowed column => s!"null in non-nullable column '{column}'"
  | .inexact i column code =>
    s!"integer {i} in column '{column}' of type {code.canonicalName} cannot be represented exactly"
  | .mismatch column code value =>
    s!"column '{column}' of type {code.canonicalName} cannot hold {value.describe}"

end ConversionError

structure ResultSet where
  schema : Schema
  rows : List (List Scalar)

namespace Column

/-- The types that hold a given text as it is. -/
def holdsText : TypeCode → Bool
  | .bool | .bytes | .array | .struct | .map | .float32 | .float64 => false
  | code => !code.isInteger

/-- The conversion of a cell. Integers of magnitude up to `2^53` are exact as floats. -/
def convert (c : Column) (value : Scalar) : Except ConversionError Datum :=
  let code := c.type.code
  let mismatch : Except ConversionError Datum := .error (.mismatch c.name code value)
  match value with
  | .null => if c.type.nullable then .ok .null else .error (.nullNotAllowed c.name)
  | .bool b => if code = .bool ∨ code = .unspecified then .ok (.bool b) else mismatch
  | .int i =>
    if code = .bool then .ok (.bool (i ≠ 0))
    else if code.isFloat then
      if 9007199254740992 < i.natAbs then .error (.inexact i c.name code)
      else .ok (.ofFloat (Float.ofInt i))
    else if code.isInteger ∨ code = .unspecified then .ok (.int i)
    else mismatch
  | .float x => if code.isFloat ∨ code = .unspecified then .ok (.ofFloat x) else mismatch
  | .string s => if holdsText code then .ok (.string s) else mismatch
  | .timestamp t =>
    if code = .timestamp ∨ code = .date ∨ code = .time ∨ code = .unspecified then
      .ok (.string t.text)
    else mismatch
  | .bytes b => if code = .bytes ∨ code = .unspecified then .ok (.string (Text.hex b)) else mismatch

end Column

namespace ResultSet

/-- Converts the cells of a row from left to right into `row`. -/
def shapeCells (row : Row) : List (Column × Scalar) → Except ConversionError Row
  | [] => .ok row
  | (c, value) :: rest => do
    let d ← c.convert value
    shapeCells (row.insert c.name d) rest

def shapeRow (s : Schema) (index : Nat) (values : List Scalar) : Except ConversionError Row :=
  if values.length ≠ s.size then .error (.width index values.length s.size)
  else shapeCells .empty (s.columns.zip values)

/-- The response rows; the first fault fails the result. -/
def shape (r : ResultSet) : Except ConversionError (List Row) :=
  r.rows.zipIdx.mapM fun (values, index) => shapeRow r.schema index values

end ResultSet
end MetricsView
