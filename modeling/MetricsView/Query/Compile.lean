import MetricsView.Query.Request
import MetricsView.Settings.Basic

/-!
# Compiling requests

Each kind of request becomes one SELECT statement. Names are written as they are; every value
is bound to a placeholder.
-/
namespace MetricsView

structure CompileOptions where
  /-- The limit of a toplist that leaves it at zero. -/
  defaultLimit : Nat
  timeseriesLimit : Nat
  timeColumn : String
  /-- The time column for the bounds of a toplist. Without one they are ignored. -/
  toplistTimeColumn : Option String
  deriving DecidableEq, Repr

namespace CompileOptions

def default : CompileOptions where
  defaultLimit := 100
  timeseriesLimit := 1000
  timeColumn := "timestamp"
  toplistTimeColumn := none

def ofSettings (s : QuerySettings) : CompileOptions where
  defaultLimit := s.defaultLimit
  timeseriesLimit := s.timeseriesLimit
  timeColumn := s.timeColumn
  toplistTimeColumn := if s.toplistTimeColumn.isEmpty then none else some s.toplistTimeColumn

end CompileOptions

abbrev CompileResult := Except CompileError

def checkMeasures (measures : List String) : CompileResult Unit :=
  if measures.isEmpty then .error .emptyMeasures else .ok ()

def commaSeparated (names : List String) : String := ", ".intercalate names

def filterClause : Option Filter → CompileResult Fragment
  | none => .ok .empty
  | some f => f.clause

namespace Toplist

/-- A bound as a conjunct; zero is no bound. -/
def bound (comparison : String) (millis : Int) : CompileResult Fragment :=
  if millis = 0 then .ok .empty
  else match Instant.ofMillis? millis with
    | some t => .ok (.text comparison ++ .bind (.timestamp t))
    | none => .error (.invalidTimeBound millis)

def bounds (r : Toplist) : Option String → CompileResult Fragment
  | none => .ok .empty
  | some column => do
    let lower ← bound (" AND " ++ column ++ " >= ") r.timeStart
    let upper ← bound (" AND " ++ column ++ " < ") r.timeEnd
    return lower ++ upper

def orderBy : List SortSpec → String
  | [] => ""
  | sort => "ORDER BY " ++ commaSeparated (sort.map fun s =>
      if s.ascending then s.name else s.name ++ " DESC")

def effectiveLimit (r : Toplist) (options : CompileOptions) : Nat :=
  if r.limit = 0 then options.defaultLimit else r.limit

def compile (r : Toplist) (options : CompileOptions) : CompileResult Fragment := do
  if r.dimension.isEmpty then throw .missingDimension
  checkMeasures r.measures
  let bounds ← r.bounds options.toplistTimeColumn
  let filter ← filterClause r.filter
  let filter := if filter.isEmpty then filter else .text " " ++ filter
  let columns := commaSeparated (r.dimension :: r.measures)
  return .text ("SELECT " ++ columns ++ " FROM " ++ r.view ++ " ")
    ++ .text "WHERE 1=1" ++ bounds ++ filter
    ++ .text (" " ++ orderBy r.sort ++ " LIMIT " ++ toString (r.effectiveLimit options))

end Toplist

def timeRange (column : String) (timeStart timeEnd : Int) (filter : Option Filter) :
    CompileResult Fragment := do
  let filter ← filterClause filter
  return .text (column ++ " >= epoch(") ++ .bind (.int timeStart)
    ++ .text (") AND " ++ column ++ " < epoch(") ++ .bind (.int timeEnd) ++ .text ") " ++ filter

namespace TimeSeries

/-- The truncated time column, under its own name. -/
def bucket (r : TimeSeries) (column : String) : String :=
  "DATE_TRUNC('" ++ r.grain.name ++ "', " ++ column ++ ") AS " ++ column

def compile (r : TimeSeries) (options : CompileOptions) : CompileResult Fragment := do
  checkMeasures r.measures
  let column := options.timeColumn
  let range ← timeRange column r.timeStart r.timeEnd r.filter
  return .text ("SELECT " ++ commaSeparated (r.bucket column :: r.measures) ++ " FROM " ++ r.view
      ++ " WHERE ")
    ++ range
    ++ .text (" GROUP BY " ++ column ++ " LIMIT " ++ toString options.timeseriesLimit)

end TimeSeries

namespace Totals

def compile (r : Totals) (options : CompileOptions) : CompileResult Fragment := do
  checkMeasures r.measures
  let range ← timeRange options.timeColumn r.timeStart r.timeEnd r.filter
  return .text ("SELECT " ++ commaSeparated r.measures ++ " FROM " ++ r.view ++ " WHERE ") ++ range

end Totals
end MetricsView
