import MetricsView.Proofs.Query.Statement

/-! # The rows that a question is about

What a request asks of a row is said without regard to any text. The condition of the compiled
query asks just that of it, also where columns are null. -/
namespace MetricsView

open Sql Fragment

universe u

variable {Value : Type u} (I : Interpretation Value) (row : Assignment Value)

namespace Condition

def matchesValue (c : Condition) (v : FilterValue) : Truth :=
  match v.arg? with
  | some a => .strict (I.compare .equal) (row c.name) (some (I.argument a))
  | none => .ofBool (row c.name).isNone

def matchesPattern (c : Condition) (a : Arg) : Truth :=
  .strict I.ilike (row c.name) (some (I.argument a))

/-- The column has one of the values or matches one of the patterns. -/
def holds (c : Condition) : Truth :=
  .or (.any (c.values.map (c.matchesValue I row)))
    (.any ((c.patterns.filterMap FilterValue.arg?).map (c.matchesPattern I row)))

end Condition

/-- One of the include conditions holds, if any of them says anything, and none of the exclude
conditions does. -/
def Filter.admits (f : Filter) : Truth :=
  .and (if f.included.all Condition.isEmpty then .yes
      else .any (f.included.map (Condition.holds I row)))
    (.all (f.excluded.map fun c => (c.holds I row).not))

/-- A bound of zero is no bound, and there is none without a column. -/
def Toplist.withinBounds (r : Toplist) : Option String → Truth
  | none => .yes
  | some column =>
    let bounded (op : Comparison) (millis : Int) : Truth :=
      if millis = 0 then .yes
      else .strict (I.compare op) (row column) (some (I.argument (.timestamp (.ofMillis millis))))
    .and (bounded .greaterOrEqual r.timeStart) (bounded .less r.timeEnd)

/-- Both bounds apply, also when they are zero. -/
def withinRange (column : String) (timeStart timeEnd : Int) : Truth :=
  let bounded (op : Comparison) (time : Int) : Truth :=
    .strict (I.compare op) (row column) (I.function "epoch" (some (I.argument (.int time))))
  .and (bounded .greaterOrEqual timeStart) (bounded .less timeEnd)

def Question.asksFor (options : CompileOptions) : Question → Truth
  | toplist r => .and (r.withinBounds I row options.toplistTimeColumn)
      ((Filter.content r.filter).admits I row)
  | timeSeries r => .and (withinRange I row options.timeColumn r.timeStart r.timeEnd)
      ((Filter.content r.filter).admits I row)
  | totals r => .and (withinRange I row options.timeColumn r.timeStart r.timeEnd)
      ((Filter.content r.filter).admits I row)

namespace Side

def combine : Side → List Truth → Truth
  | included => .any
  | excluded => .all

theorem value_join (side : Side) (e : Expr) (es : List Expr) :
    (side.join e es).value I row = side.combine ((e :: es).map (Expr.value I row)) := by
  cases side with
  | included => exact Expr.value_disjoin I row e es
  | excluded => exact Expr.value_conjoin I row e es

/-- The tests of an exclude condition are negated one by one. -/
theorem combine_negate (side : Side) (ts : List Truth) :
    side.combine (ts.map (.negate side.negated)) = .negate side.negated (.any ts) := by
  cases side with
  | included =>
    have hid : Truth.negate Side.included.negated = id := rfl
    rw [hid, List.map_id]
    rfl
  | excluded => exact (Truth.not_any ts).symm

/-- What holds of no row adds nothing to its side. -/
theorem combine_negate_no (side : Side) (ts : List Truth) :
    side.combine (.negate side.negated .no :: ts) = side.combine ts := by
  cases side with
  | included => exact Truth.no_or _
  | excluded => exact Truth.yes_and _

private theorem combine_cons_congr (side : Side) {ts us : List Truth}
    (h : side.combine ts = side.combine us) (t : Truth) :
    side.combine (t :: ts) = side.combine (t :: us) := by
  cases side with
  | included => exact congrArg (Truth.or t) h
  | excluded => exact congrArg (Truth.and t) h

end Side

namespace Condition

/-- The value tests, each null counted once. -/
theorem any_matchesValue (c : Condition) (vs : List FilterValue) :
    .any (vs.map (c.matchesValue I row)) =
      Truth.or (.any ((vs.filterMap FilterValue.arg?).map fun a =>
          .strict (I.compare .equal) (row c.name) (some (I.argument a))))
        (if vs.any fun v => v.arg?.isNone then .ofBool (row c.name).isNone else .no) := by
  induction vs with
  | nil => rfl
  | cons v vs ih =>
    rw [List.map_cons, Truth.any_cons, ih]
    cases hv : v.arg? with
    | some a =>
      simp only [matchesValue, List.filterMap_cons, hv, List.map_cons, Truth.any_cons,
        List.any_cons, Option.isNone_some, Bool.false_or, Truth.or_assoc]
    | none =>
      simp only [matchesValue, List.filterMap_cons, hv, List.any_cons, Option.isNone_none,
        Bool.true_or, if_true]
      rw [Truth.or_left_comm]
      split
      · rw [Truth.or_self]
      · rw [Truth.or_no]

private theorem any_among (column : String) (as : List Arg) :
    .any ((among as).map (Test.value I row (.column column))) =
      Truth.any (as.map fun a => .strict (I.compare .equal) (row column) (some (I.argument a))) := by
  cases as with
  | nil => rfl
  | cons a as =>
    rw [among, List.map_singleton, Truth.any_cons, Truth.any_nil, Truth.or_no, Test.value,
      List.map_map]
    rfl

private theorem any_nullPredicates (c : Condition) :
    .any (c.nullPredicates.map (Test.value I row (.column c.name))) =
      if c.values.any fun v => v.arg?.isNone then Truth.ofBool (row c.name).isNone else .no := by
  unfold nullPredicates
  split
  · exact Truth.or_no _
  · rfl

theorem any_predicates (c : Condition) :
    .any (c.predicates.map (Test.value I row (.column c.name))) = c.holds I row := by
  rw [predicates, List.map_append, List.map_append, Truth.any_append, Truth.any_append, any_among,
    any_nullPredicates, holds, any_matchesValue, List.map_map]
  rfl

theorem combine_expressions (side : Side) (c : Condition) :
    side.combine ((c.expressions side).map (Expr.value I row)) =
      .negate side.negated (c.holds I row) := by
  rw [← any_predicates, ← side.combine_negate, expressions, List.map_map, List.map_map]
  rfl

private theorem among_eq_nil_iff {as : List Arg} : among as = [] ↔ as = [] := by
  cases as <;> simp [among]

/-- Only an empty condition asks nothing. -/
theorem predicates_eq_nil_iff {c : Condition} (h : c.Supported) :
    c.predicates = [] ↔ c.isEmpty := by
  have hpatterns : c.patterns.filterMap FilterValue.arg? = [] ↔ c.patterns = [] := by
    rw [← List.length_eq_zero_iff, FilterValue.length_filterMap_arg?,
      FilterValue.filter_isNull_of_forall_ne_null h, List.length_eq_zero_iff]
  have hvalues : c.values.filterMap FilterValue.arg? = [] ∧ c.nullPredicates = [] ↔
      c.values = [] := by
    unfold nullPredicates
    cases c.values with
    | nil => simp
    | cons v vs => cases v <;> simp [FilterValue.arg?]
  rw [predicates, List.append_eq_nil_iff, List.append_eq_nil_iff, among_eq_nil_iff, hvalues,
    List.map_eq_nil_iff, hpatterns, isEmpty, Bool.and_eq_true, List.isEmpty_iff, List.isEmpty_iff]

/-- The expression of a condition, when it has one, says whether the condition holds. -/
theorem value_of_mem_expression? {side : Side} {c : Condition} {e : Expr}
    (h : e ∈ c.expression? side) : e.value I row = .negate side.negated (c.holds I row) := by
  rw [← combine_expressions]
  unfold expression? at h
  cases hes : c.expressions side with
  | nil => simp [hes, Side.join?] at h
  | cons f fs =>
    rw [hes, Side.join?] at h
    obtain rfl := Option.some.inj h
    exact side.value_join I row f fs

theorem expression?_eq_none_iff {side : Side} {c : Condition} :
    c.expression? side = none ↔ c.predicates = [] := by
  unfold expression? expressions
  cases c.predicates <;> simp [Side.join?]

/-- A condition without tests holds of no row. -/
theorem holds_of_predicates_eq_nil {c : Condition} (h : c.predicates = []) :
    c.holds I row = .no := by
  rw [← any_predicates, h]
  rfl

end Condition

namespace Filter

theorem combine_expressions (side : Side) (cs : List Condition) :
    side.combine ((expressions side cs).map (Expr.value I row)) =
      side.combine (cs.map fun c => .negate side.negated (c.holds I row)) := by
  induction cs with
  | nil => rfl
  | cons c cs ih =>
    rw [List.map_cons, expressions, List.filterMap_cons]
    cases he : c.expression? side with
    | none =>
      have hno := Condition.holds_of_predicates_eq_nil I row (Condition.expression?_eq_none_iff.1 he)
      rw [hno, side.combine_negate_no]
      exact ih
    | some e =>
      rw [List.map_cons, Condition.value_of_mem_expression? I row he]
      exact side.combine_cons_congr ih _

/-- A side has a conjunct unless all its conditions are empty. -/
theorem expressions_eq_nil_iff {side : Side} {cs : List Condition} (h : ∀ c ∈ cs, c.Supported) :
    expressions side cs = [] ↔ cs.all Condition.isEmpty := by
  rw [expressions, List.filterMap_eq_nil_iff, List.all_eq_true]
  refine forall₂_congr fun c hc => ?_
  rw [Condition.expression?_eq_none_iff, Condition.predicates_eq_nil_iff (h c hc)]

theorem all_toList_join? (side : Side) (es : List Expr) :
    .all ((side.join? es).toList.map (Expr.value I row)) =
      if es = [] then Truth.yes else side.combine (es.map (Expr.value I row)) := by
  cases es with
  | nil => rfl
  | cons e es =>
    rw [if_neg (List.cons_ne_nil _ _), ← side.value_join]
    exact Truth.and_yes _

theorem all_conjuncts {f : Filter} (h : f.Supported) :
    .all (f.conjuncts.map (Expr.value I row)) = f.admits I row := by
  have hexcluded : (if expressions .excluded f.excluded = [] then Truth.yes
      else Side.excluded.combine ((expressions .excluded f.excluded).map (Expr.value I row))) =
      Side.excluded.combine ((expressions .excluded f.excluded).map (Expr.value I row)) := by
    split
    · next hnil =>
      rw [hnil]
      rfl
    · rfl
  rw [conjuncts, List.map_append, Truth.all_append, all_toList_join?, all_toList_join?, hexcluded,
    combine_expressions, combine_expressions, admits]
  simp only [expressions_eq_nil_iff h.1]
  rfl

end Filter

namespace Toplist

theorem all_boundExpressions (column : String) (op : Comparison) (millis : Int) :
    .all ((boundExpressions column op millis).map (Expr.value I row)) =
      if millis = 0 then Truth.yes
      else .strict (I.compare op) (row column) (some (I.argument (.timestamp (.ofMillis millis)))) := by
  unfold boundExpressions
  split
  · rfl
  · exact Truth.and_yes _

private theorem all_boundsExpressions (r : Toplist) (column : Option String) :
    .all ((r.boundsExpressions column).map (Expr.value I row)) = r.withinBounds I row column := by
  cases column with
  | none => rfl
  | some column =>
    rw [boundsExpressions, List.map_append, Truth.all_append, all_boundExpressions,
      all_boundExpressions]
    rfl

theorem value_condition {r : Toplist} {options : CompileOptions} (h : r.Compiles options) :
    (r.condition options).value I row = (Question.toplist r).asksFor I row options := by
  have hone : Expr.value I row (.test (.number 1) false (.compare .equal (.number 1))) = .yes := rfl
  rw [condition, Expr.value_conjoin, List.map_cons, Truth.all_cons, hone, Truth.yes_and,
    List.map_append, Truth.all_append, all_boundsExpressions, Filter.all_conjuncts I row h.filter]
  rfl

end Toplist

theorem value_rangeCondition {filter : Option Filter} (h : (Filter.content filter).Supported)
    (column : String) (timeStart timeEnd : Int) :
    (rangeCondition column timeStart timeEnd filter).value I row =
      .and (withinRange I row column timeStart timeEnd) ((Filter.content filter).admits I row) := by
  rw [rangeCondition, Expr.value_conjoin, List.map_cons, List.map_cons, Truth.all_cons,
    Truth.all_cons, Filter.all_conjuncts I row h, ← Truth.and_assoc]
  rfl

namespace Question

theorem value_condition {q : Question} {options : CompileOptions} (h : q.Compiles options) :
    (q.condition options).value I row = q.asksFor I row options := by
  cases q with
  | toplist r => exact Toplist.value_condition I row h
  | timeSeries r => exact value_rangeCondition I row h.filter _ _ _
  | totals r => exact value_rangeCondition I row h.filter _ _ _

/-- With plain names, what stands after WHERE in a compiled query reads as one expression in one
way, and its value in every row is what the question asks for. -/
theorem compile_condition {q : Question} {options : CompileOptions} {f : Fragment}
    (hnames : ∀ n ∈ q.names options, IsPlain n) (h : q.compile options = .ok f) :
    ∃ e, f.ReadsCondition e ∧ (∀ e', f.ReadsCondition e' → e' = e) ∧
      ∀ (Value : Type u) (I : Interpretation Value) (row : Assignment Value),
        e.value I row = q.asksFor I row options := by
  obtain ⟨hcompiles, rfl⟩ := compile_eq_ok_iff.1 h
  have hreads := readsCondition hnames
  refine ⟨q.condition options, hreads, fun e' he' => he'.unique hreads, ?_⟩
  intro Value I row
  exact value_condition I row hcompiles

theorem compile_condition_sample : (∀ n ∈ sample.names sampleOptions, IsPlain n) ∧
    sample.compile sampleOptions = .ok sampleFragment ∧
    ∃ e, sampleFragment.ReadsCondition e ∧ (∀ e', sampleFragment.ReadsCondition e' → e' = e) ∧
      ∀ (Value : Type) (I : Interpretation Value) (row : Assignment Value),
        e.value I row = sample.asksFor I row sampleOptions := by
  have hnames : ∀ n ∈ sample.names sampleOptions, IsPlain n := by decide
  exact ⟨hnames, compile_sample, compile_condition hnames compile_sample⟩

end Question
end MetricsView
