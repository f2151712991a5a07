import MetricsView.Proofs.Query.Clause

/-! # What a query tells of its question

Two questions agree when they ask for the same: the same names in the same order, the limit and the
bounds that apply, and filters that agree. Exactly these compile to the same query. -/
namespace MetricsView

open Sql Fragment

namespace Toplist

/-- Nothing that the query is made of differs: the bounds count where there is a column to compare
with, and a limit of zero counts as the default. -/
structure Agrees (options : CompileOptions) (r s : Toplist) : Prop where
  view : r.view = s.view
  dimension : r.dimension = s.dimension
  measures : r.measures = s.measures
  sort : r.sort = s.sort
  limit : r.effectiveLimit options = s.effectiveLimit options
  bounds : options.toplistTimeColumn ≠ none → r.timeStart = s.timeStart ∧ r.timeEnd = s.timeEnd
  filter : (Filter.content r.filter).Agrees (Filter.content s.filter)

/-- The names that the toplist itself gives are words. -/
structure WellNamed (r : Toplist) : Prop where
  view : IsWord r.view
  columns : ∀ n ∈ r.dimension :: r.measures, IsWord n
  sort : ∀ s ∈ r.sort, IsWord s.name
  filter : (Filter.content r.filter).WellNamed

end Toplist

namespace TimeSeries

structure Agrees (r s : TimeSeries) : Prop where
  view : r.view = s.view
  measures : r.measures = s.measures
  grain : r.grain = s.grain
  timeStart : r.timeStart = s.timeStart
  timeEnd : r.timeEnd = s.timeEnd
  filter : (Filter.content r.filter).Agrees (Filter.content s.filter)

structure WellNamed (r : TimeSeries) : Prop where
  view : IsWord r.view
  measures : ∀ n ∈ r.measures, IsWord n
  filter : (Filter.content r.filter).WellNamed

end TimeSeries

namespace Totals

structure Agrees (r s : Totals) : Prop where
  view : r.view = s.view
  measures : r.measures = s.measures
  timeStart : r.timeStart = s.timeStart
  timeEnd : r.timeEnd = s.timeEnd
  filter : (Filter.content r.filter).Agrees (Filter.content s.filter)

structure WellNamed (r : Totals) : Prop where
  view : IsWord r.view
  measures : ∀ n ∈ r.measures, IsWord n
  filter : (Filter.content r.filter).WellNamed

end Totals

namespace Question

/-- Questions of one kind that ask for the same. -/
def Agrees (options : CompileOptions) : Question → Question → Prop
  | toplist r, toplist s => r.Agrees options s
  | timeSeries r, timeSeries s => r.Agrees s
  | totals r, totals s => r.Agrees s
  | _, _ => False

def WellNamed : Question → Prop
  | toplist r => r.WellNamed
  | timeSeries r => r.WellNamed
  | totals r => r.WellNamed

end Question
end MetricsView
