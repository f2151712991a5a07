import MetricsView.Json.Reader
import MetricsView.Query.Filter
import MetricsView.Text.Lowercase

/-!
# Requests

The three questions that a metrics view answers, and their JSON form. Time bounds are milliseconds
since the epoch.
-/
namespace MetricsView

inductive TimeGrain where
  | millisecond | second | minute | hour | day | week | month | quarter | year
  deriving DecidableEq, Repr

namespace TimeGrain

def name : TimeGrain → String
  | millisecond => "millisecond"
  | second => "second"
  | minute => "minute"
  | hour => "hour"
  | day => "day"
  | week => "week"
  | month => "month"
  | quarter => "quarter"
  | year => "year"

def all : List TimeGrain := [millisecond, second, minute, hour, day, week, month, quarter, year]

theorem mem_all (g : TimeGrain) : g ∈ all := by cases g <;> decide

def named : List (String × TimeGrain) := all.map fun g => (g.name, g)

/-- Reads a name in any case. -/
def parse : String → Except UnknownName TimeGrain := choose "time grain" named

end TimeGrain

structure SortSpec where
  name : String
  ascending : Bool
  deriving DecidableEq, Repr

/-- The top values of one dimension. A bound of zero is no bound, and a limit of zero leaves the
limit to the options. -/
structure Toplist where
  view : String
  dimension : String
  measures : List String
  timeStart : Int
  timeEnd : Int
  limit : Nat
  sort : List SortSpec
  filter : Option Filter

/-- Measures for each bucket of time from `timeStart` to before `timeEnd`. -/
structure TimeSeries where
  view : String
  measures : List String
  timeStart : Int
  timeEnd : Int
  grain : TimeGrain
  filter : Option Filter

/-- Measures over all the time from `timeStart` to before `timeEnd`. -/
structure Totals where
  view : String
  measures : List String
  timeStart : Int
  timeEnd : Int
  filter : Option Filter

namespace FilterValue

def toJson : FilterValue → Json
  | .null => .null
  | .bool b => .bool b
  | .number x => .float x
  | .string s => .text s

def ofJson? : Json → Option FilterValue
  | .null => some .null
  | .bool b => some (.bool b)
  | .number n => n.approximate.map .number
  | .string s => s.map .string
  | .array _ | .object _ => none

end FilterValue

namespace Condition

def toJson (c : Condition) : Json :=
  .record [("name", .text c.name), ("in", .list FilterValue.toJson c.values),
    ("like", .list FilterValue.toJson c.patterns)]

def ofJson? (v : Json) : Option Condition := do
  match ← v.fields? ["name", "in", "like"] with
  | [name, values, patterns] =>
    return ⟨← Json.required? Json.string? name,
      ← Json.default? [] (Json.list? FilterValue.ofJson?) values,
      ← Json.default? [] (Json.list? FilterValue.ofJson?) patterns⟩
  | _ => none

end Condition

namespace Filter

def toJson (f : Filter) : Json :=
  .record [("include", .list Condition.toJson f.included),
    ("exclude", .list Condition.toJson f.excluded)]

def ofJson? (v : Json) : Option Filter := do
  match ← v.fields? ["include", "exclude"] with
  | [included, excluded] =>
    return ⟨← Json.default? [] (Json.list? Condition.ofJson?) included,
      ← Json.default? [] (Json.list? Condition.ofJson?) excluded⟩
  | _ => none

end Filter

namespace TimeGrain

def toJson (g : TimeGrain) : Json := .text g.name

def ofJson? : Json → Option TimeGrain := Json.choice? named

end TimeGrain

namespace SortSpec

def toJson (s : SortSpec) : Json :=
  .record [("name", .text s.name), ("ascending", .bool s.ascending)]

def ofJson? (v : Json) : Option SortSpec := do
  match ← v.fields? ["name", "ascending"] with
  | [name, ascending] =>
    return ⟨← Json.required? Json.string? name, ← Json.default? false Json.bool? ascending⟩
  | _ => none

end SortSpec

namespace Toplist

def toJson (r : Toplist) : Json :=
  .record [("metrics_view_name", .text r.view), ("dimension_name", .text r.dimension),
    ("measure_names", .list Json.text r.measures), ("time_start", .int r.timeStart),
    ("time_end", .int r.timeEnd), ("limit", .int r.limit), ("sort", .list SortSpec.toJson r.sort),
    ("filter", .option Filter.toJson r.filter)]

def ofJson? (v : Json) : Option Toplist := do
  match ← v.fields? ["metrics_view_name", "dimension_name", "measure_names", "time_start",
      "time_end", "limit", "sort", "filter"] with
  | [view, dimension, measures, timeStart, timeEnd, limit, sort, filter] =>
    return ⟨← Json.default? "" Json.string? view, ← Json.default? "" Json.string? dimension,
      ← Json.default? [] (Json.list? Json.string?) measures,
      ← Json.default? 0 Json.int64? timeStart, ← Json.default? 0 Json.int64? timeEnd,
      ← Json.default? 0 Json.nat64? limit,
      ← Json.default? [] (Json.list? SortSpec.ofJson?) sort,
      ← Json.default? none (Json.option? Filter.ofJson?) filter⟩
  | _ => none

end Toplist

namespace TimeSeries

def toJson (r : TimeSeries) : Json :=
  .record [("metrics_view_name", .text r.view), ("measure_names", .list Json.text r.measures),
    ("time_start", .int r.timeStart), ("time_end", .int r.timeEnd),
    ("time_granularity", r.grain.toJson), ("filter", .option Filter.toJson r.filter)]

def ofJson? (v : Json) : Option TimeSeries := do
  match ← v.fields? ["metrics_view_name", "measure_names", "time_start", "time_end",
      "time_granularity", "filter"] with
  | [view, measures, timeStart, timeEnd, grain, filter] =>
    return ⟨← Json.default? "" Json.string? view,
      ← Json.default? [] (Json.list? Json.string?) measures,
      ← Json.default? 0 Json.int64? timeStart, ← Json.default? 0 Json.int64? timeEnd,
      ← Json.default? .day TimeGrain.ofJson? grain,
      ← Json.default? none (Json.option? Filter.ofJson?) filter⟩
  | _ => none

end TimeSeries

namespace Totals

def toJson (r : Totals) : Json :=
  .record [("metrics_view_name", .text r.view), ("measure_names", .list Json.text r.measures),
    ("time_start", .int r.timeStart), ("time_end", .int r.timeEnd),
    ("filter", .option Filter.toJson r.filter)]

def ofJson? (v : Json) : Option Totals := do
  match ← v.fields? ["metrics_view_name", "measure_names", "time_start", "time_end", "filter"] with
  | [view, measures, timeStart, timeEnd, filter] =>
    return ⟨← Json.default? "" Json.string? view,
      ← Json.default? [] (Json.list? Json.string?) measures,
      ← Json.default? 0 Json.int64? timeStart, ← Json.default? 0 Json.int64? timeEnd,
      ← Json.default? none (Json.option? Filter.ofJson?) filter⟩
  | _ => none

end Totals
end MetricsView
