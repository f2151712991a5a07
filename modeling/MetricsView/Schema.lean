import MetricsView.Json.Printer
import MetricsView.Json.Reader

/-!
# Schemas

The ordered output columns of a table or view; names may repeat. The catalog stores a schema as an
opaque blob, which a codec makes of it and reads again; the usual one writes compact JSON.
-/
namespace MetricsView

inductive TypeCode where
  | unspecified | bool
  | int8 | int16 | int32 | int64 | int128
  | uint8 | uint16 | uint32 | uint64 | uint128
  | float32 | float64
  | timestamp | date | time
  | string | bytes | array | struct | map | decimal | json | uuid
  deriving DecidableEq, Repr

namespace TypeCode

def name : TypeCode → String
  | unspecified => "UNSPECIFIED"
  | bool => "BOOL"
  | int8 => "INT8"
  | int16 => "INT16"
  | int32 => "INT32"
  | int64 => "INT64"
  | int128 => "INT128"
  | uint8 => "UINT8"
  | uint16 => "UINT16"
  | uint32 => "UINT32"
  | uint64 => "UINT64"
  | uint128 => "UINT128"
  | float32 => "FLOAT32"
  | float64 => "FLOAT64"
  | timestamp => "TIMESTAMP"
  | date => "DATE"
  | time => "TIME"
  | string => "STRING"
  | bytes => "BYTES"
  | array => "ARRAY"
  | struct => "STRUCT"
  | map => "MAP"
  | decimal => "DECIMAL"
  | json => "JSON"
  | uuid => "UUID"

def all : List TypeCode :=
  [unspecified, bool, int8, int16, int32, int64, int128, uint8, uint16, uint32, uint64, uint128,
    float32, float64, timestamp, date, time, string, bytes, array, struct, map, decimal, json, uuid]

theorem mem_all (c : TypeCode) : c ∈ all := by cases c <;> decide

/-- The name by which responses report the type. -/
def canonicalName (c : TypeCode) : String := "CODE_" ++ c.name

def isInteger : TypeCode → Bool
  | int8 | int16 | int32 | int64 | int128 | uint8 | uint16 | uint32 | uint64 | uint128 => true
  | _ => false

def isFloat : TypeCode → Bool
  | float32 | float64 | decimal => true
  | _ => false

end TypeCode

structure ColumnType where
  code : TypeCode
  nullable : Bool
  deriving DecidableEq, Repr

structure Column where
  name : String
  type : ColumnType
  deriving DecidableEq, Repr

structure Schema where
  columns : List Column
  deriving DecidableEq, Repr

namespace Schema

def empty : Schema := ⟨[]⟩

def size (s : Schema) : Nat := s.columns.length

def isEmpty (s : Schema) : Bool := s.columns.isEmpty

/-- The first column with exactly this name. -/
def find? (s : Schema) (name : String) : Option Column := s.columns.find? fun c => c.name = name

end Schema

structure ColumnMeta where
  name : String
  type : String
  nullable : Bool
  deriving DecidableEq, Repr

def Column.info (c : Column) : ColumnMeta := ⟨c.name, c.type.code.canonicalName, c.type.nullable⟩

def Schema.info (s : Schema) : List ColumnMeta := s.columns.map Column.info

open Text (Octets)

namespace TypeCode

def toJson (c : TypeCode) : Json := .text c.name

def ofJson? : Json → Option TypeCode := Json.choice? (all.map fun c => (c.name, c))

end TypeCode

namespace ColumnType

def toJson (t : ColumnType) : Json :=
  .record [("code", t.code.toJson), ("nullable", .bool t.nullable)]

def ofJson? (v : Json) : Option ColumnType := do
  match ← v.fields? ["code", "nullable"] with
  | [code, nullable] =>
    return ⟨← Json.required? TypeCode.ofJson? code, ← Json.required? Json.bool? nullable⟩
  | _ => none

end ColumnType

namespace Column

def toJson (c : Column) : Json := .record [("name", .text c.name), ("type", c.type.toJson)]

def ofJson? (v : Json) : Option Column := do
  match ← v.fields? ["name", "type"] with
  | [name, type] =>
    return ⟨← Json.required? Json.string? name, ← Json.required? ColumnType.ofJson? type⟩
  | _ => none

end Column

namespace Schema

def toJson (s : Schema) : Json := .record [("fields", .list Column.toJson s.columns)]

def ofJson? (v : Json) : Option Schema := do
  match ← v.fields? ["fields"] with
  | [columns] => return ⟨← Json.required? (Json.list? Column.ofJson?) columns⟩
  | _ => none

end Schema

namespace ColumnMeta

def toJson (m : ColumnMeta) : Json :=
  .record [("name", .text m.name), ("type", .text m.type), ("nullable", .bool m.nullable)]

def ofJson? (v : Json) : Option ColumnMeta := do
  match ← v.fields? ["name", "type", "nullable"] with
  | [name, type, nullable] =>
    return ⟨← Json.required? Json.string? name, ← Json.required? Json.string? type,
      ← Json.required? Json.bool? nullable⟩
  | _ => none

end ColumnMeta

inductive CodecError where
  | encode (reason : String)
  | decode (reason : String)
  deriving DecidableEq, Repr

def CodecError.message : CodecError → String
  | .encode reason => s!"failed to encode schema: {reason}"
  | .decode reason => s!"failed to decode schema: {reason}"

/-- Turns schemas into blobs and back; either may be absent. -/
structure Codec where
  encode : Option Schema → Except CodecError (Option Octets)
  decode : Option Octets → Except CodecError (Option Schema)

namespace Codec

/-- Schemas as compact JSON. An absent schema has no blob, and an absent or empty blob holds no
schema. -/
def json : Codec where
  encode s := .ok (s.map fun s => Text.utf8 s.toJson.compact)
  decode
    | none | some [] => .ok none
    | some blob =>
      match (Json.ofOctets? blob).bind Schema.ofJson? with
      | some s => .ok (some s)
      | none => .error (.decode "the blob holds no schema")

end Codec
end MetricsView
