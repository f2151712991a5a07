import MetricsView.Proofs.Query.Arguments

/-! # What is wrong with a question

A question that does not compile may have several faults: names that are missing, bounds that have
no date, patterns that are null. They have an order, and compilation reports the first. -/
namespace MetricsView

open Instant (Representable)
open Traversal

namespace Condition

/-- A null among the patterns, whatever the values are. Each further one is the same fault. -/
def faults (c : Condition) : List CompileError :=
  if c.patterns.any FilterValue.isNull then
    [.unsupportedFilterValue c.name "null is not a valid like pattern"]
  else []

private theorem patternTest_reportsFirst (side : Side) (c : Condition) (p : FilterValue) :
    ReportsFirst (c.patternTest side p) (if p.isNull then
      [.unsupportedFilterValue c.name "null is not a valid like pattern"] else []) := by
  cases p <;> rfl

private theorem tests_reportsFirst (side : Side) (c : Condition) :
    ReportsFirst (c.tests side) c.faults := by
  have hpatterns := ReportsFirst.mapM fun p (_ : p ∈ c.patterns) => c.patternTest_reportsFirst side p
  refine (hpatterns.of_head?_eq ?_).bind_pure
  unfold faults
  induction c.patterns with
  | nil => rfl
  | cons p ps ih =>
    rw [List.flatMap_cons, List.any_cons]
    cases p.isNull with
    | true => rfl
    | false => exact ih

private theorem clause?_reportsFirst (side : Side) (c : Condition) :
    ReportsFirst (c.clause? side) c.faults := by
  rw [← List.append_nil c.faults]
  refine (c.tests_reportsFirst side).bind fun ts _ => ?_
  match ts with
  | [] | [_] | _ :: _ :: _ => rfl

end Condition

namespace Filter

/-- What is wrong with what is included counts before what is wrong with what is excluded. -/
def faults (f : Filter) : List CompileError :=
  (f.included ++ f.excluded).flatMap Condition.faults

theorem sideClause_reportsFirst (side : Side) (cs : List Condition) :
    ReportsFirst (sideClause side cs) (cs.flatMap Condition.faults) := by
  have hclauses := ReportsFirst.mapM fun c (_ : c ∈ cs) => c.clause?_reportsFirst side
  rw [← List.append_nil (cs.flatMap Condition.faults)]
  refine hclauses.bind fun ps _ => ?_
  cases ps.filterMap id <;> rfl

private theorem clause_reportsFirst (f : Filter) : ReportsFirst f.clause f.faults := by
  rw [faults, List.flatMap_append]
  exact (sideClause_reportsFirst .included f.included).bind fun _ _ =>
    (sideClause_reportsFirst .excluded f.excluded).bind_pure

theorem filterClause_reportsFirst (f : Option Filter) :
    ReportsFirst (filterClause f) (content f).faults := by
  cases f with
  | none => rfl
  | some f => exact f.clause_reportsFirst

end Filter

/-- There has to be a measure. -/
def measureFaults (measures : List String) : List CompileError :=
  if measures = [] then [.emptyMeasures] else []

theorem checkMeasures_reportsFirst (measures : List String) :
    ReportsFirst (checkMeasures measures) (measureFaults measures) := by
  cases measures <;> rfl

namespace Toplist

/-- The bounds that a toplist compares with but that have no date. -/
def boundFaults (r : Toplist) (options : CompileOptions) : List CompileError :=
  ((r.applicableBounds options).filter (¬ Representable ·)).map .invalidTimeBound

theorem bound_reportsFirst (comparison : String) (millis : Int) :
    ReportsFirst (bound comparison millis)
      ((([millis].filter (· ≠ 0)).filter (¬ Representable ·)).map .invalidTimeBound) := by
  unfold bound
  by_cases hz : millis = 0
  · simp [hz, ReportsFirst, fault?]
  · cases ht : Instant.ofMillis? millis with
    | none => simp [hz, Instant.ofMillis?_eq_none_iff.1 ht, ReportsFirst, fault?]
    | some t => simp [hz, (Instant.ofMillis?_eq_some_iff.1 ht).1, ReportsFirst, fault?]

private theorem bounds_reportsFirst (r : Toplist) (options : CompileOptions) :
    ReportsFirst (r.bounds options.toplistTimeColumn) (r.boundFaults options) := by
  unfold bounds boundFaults applicableBounds
  cases options.toplistTimeColumn with
  | none => rfl
  | some column =>
    have hsplit : [r.timeStart, r.timeEnd].filter (· ≠ 0) =
        [r.timeStart].filter (· ≠ 0) ++ [r.timeEnd].filter (· ≠ 0) :=
      List.filter_append [r.timeStart] [r.timeEnd]
    rw [if_neg (by simp), hsplit, List.filter_append, List.map_append]
    exact (bound_reportsFirst _ _).bind fun _ _ => (bound_reportsFirst _ _).bind_pure

/-- The dimension counts first, then the measures, the bounds and the filter. -/
def faults (r : Toplist) (options : CompileOptions) : List CompileError :=
  (if r.dimension = "" then [.missingDimension] else []) ++ (measureFaults r.measures
    ++ (r.boundFaults options ++ (Filter.content r.filter).faults))

theorem compile_reportsFirst (r : Toplist) (options : CompileOptions) :
    ReportsFirst (r.compile options) (r.faults options) := by
  unfold compile faults
  by_cases hd : r.dimension = ""
  · simp [hd, ReportsFirst, fault?, bind, Except.bind, throw, throwThe, MonadExceptOf.throw]
  · rw [if_neg (by simpa using hd), if_neg hd, List.nil_append]
    exact (checkMeasures_reportsFirst _).bind fun _ _ => (r.bounds_reportsFirst options).bind
      fun _ _ => (Filter.filterClause_reportsFirst _).bind_pure

end Toplist

theorem timeRange_reportsFirst (column : String) (timeStart timeEnd : Int)
    (filter : Option Filter) :
    ReportsFirst (timeRange column timeStart timeEnd filter) (Filter.content filter).faults :=
  (Filter.filterClause_reportsFirst filter).bind_pure

namespace TimeSeries

/-- Any bounds will do. -/
def faults (r : TimeSeries) : List CompileError :=
  measureFaults r.measures ++ (Filter.content r.filter).faults

theorem compile_reportsFirst (r : TimeSeries) (options : CompileOptions) :
    ReportsFirst (r.compile options) r.faults :=
  (checkMeasures_reportsFirst _).bind fun _ _ => (timeRange_reportsFirst _ _ _ _).bind_pure

end TimeSeries

namespace Totals

def faults (r : Totals) : List CompileError :=
  measureFaults r.measures ++ (Filter.content r.filter).faults

theorem compile_reportsFirst (r : Totals) (options : CompileOptions) :
    ReportsFirst (r.compile options) r.faults :=
  (checkMeasures_reportsFirst _).bind fun _ _ => (timeRange_reportsFirst _ _ _ _).bind_pure

end Totals

namespace Question

/-- All that is wrong with a question, in the order in which it counts. -/
def faults : Question → CompileOptions → List CompileError
  | toplist r, options => r.faults options
  | timeSeries r, _ => r.faults
  | totals r, _ => r.faults

theorem compile_reportsFirst (q : Question) (options : CompileOptions) :
    ReportsFirst (q.compile options) (q.faults options) := by
  cases q with
  | toplist r => exact r.compile_reportsFirst options
  | timeSeries r => exact r.compile_reportsFirst options
  | totals r => exact r.compile_reportsFirst options

/-- A question compiles if nothing is wrong with it, and otherwise fails with the first of its
faults. -/
theorem compile_eq_error_iff_first_fault (q : Question) (options : CompileOptions) :
    (∀ e, q.compile options = .error e ↔ (q.faults options).head? = some e) ∧
      ((∃ f, q.compile options = .ok f) ↔ q.faults options = []) :=
  ⟨fun _ => (q.compile_reportsFirst options).eq_error_iff,
    (q.compile_reportsFirst options).exists_ok_iff⟩

/-- A bound without a date counts before a null pattern. -/
example : (toplist ⟨"bids", "site", ["n"], 0, 8210266876800000, 0, [],
      some ⟨[], [⟨"os", [], [.string "%", .null]⟩]⟩⟩).compile sampleOptions =
    .error (.invalidTimeBound 8210266876800000) := by rfl

/-- A null that is listed as a value is no fault, but one among the patterns beside it is. -/
example : (totals ⟨"bids", ["n"], 0, 0, some ⟨[⟨"os", [.null], []⟩],
      [⟨"region", [.null], [.null]⟩]⟩⟩).compile sampleOptions =
    .error (.unsupportedFilterValue "region" "null is not a valid like pattern") := by rfl

end Question
end MetricsView
