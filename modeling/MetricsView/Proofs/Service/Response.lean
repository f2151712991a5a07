import MetricsView.Proofs.Row.Conversion
import MetricsView.Proofs.Row.Shaping
import MetricsView.Proofs.Schema
import MetricsView.Proofs.Service.Guard

/-! # Totals and nulls in answers

Totals are the first row of a result. All rows are shaped before one is taken, so a fault in a row
that is not reported fails the totals too, as it fails any other question. A column that is not
nullable takes no null from the executor. But a float that is not finite has no form in an answer
and becomes null, in such a column too. No other value does. -/
namespace MetricsView

open ResultSet

/-- The executor was called for the reply, and this is what it returned. -/
def Reply.Received {α : Type} (reply : Reply α) (executor : Executor) (result : ResultSet) : Prop :=
  ∃ call ∈ reply.calls, executor call = .ok result

namespace Service

variable {s : Service} {tenant : String} {result : ResultSet}

/-- Nothing but the result decides how a question is answered that has reached the executor. -/
theorem run_answer_eq {prepared : Except Failure Fragment}
    (h : (s.run tenant prepared).Received s.executor result) :
    (s.run tenant prepared).answer = respond result := by
  obtain ⟨call, hcall, hresult⟩ := h
  cases prepared with
  | error e => cases hcall
  | ok f =>
    obtain rfl := List.mem_singleton.1 hcall
    change s.executor _ >>= respond = respond result
    rw [hresult]
    rfl

theorem totals_answer_eq {r : Totals} (h : (s.totals tenant r).Received s.executor result) :
    (s.totals tenant r).answer = respond result >>= firstRow := by
  change (s.run tenant _).answer >>= firstRow = _
  rw [run_answer_eq h]

theorem respond_eq_error {e : ConversionError} (h : result.shape = .error e) :
    respond result = .error (.conversion e.message) := by
  rw [respond, h]
  rfl

theorem firstRow_respond_eq_ok_iff {a : TotalsResponse} :
    respond result >>= firstRow = .ok a ↔
      ∃ row rows, result.shape = .ok (row :: rows) ∧ a = ⟨result.schema.info, row⟩ := by
  rw [respond]
  cases result.shape with
  | error e => simp [bind, Except.bind]
  | ok rows =>
    cases rows with
    | nil => simp [bind, Except.bind, firstRow]
    | cons row rows => simp [bind, Except.bind, firstRow, eq_comm]

private theorem exists_shape_cons_iff : (∃ row rows, result.shape = .ok (row :: rows)) ↔
    result.rows ≠ [] ∧ ∀ values ∈ result.rows, Fits result.schema values := by
  constructor
  · rintro ⟨row, rows, hshape⟩
    refine ⟨fun hempty => ?_, exists_shape_iff.1 ⟨_, hshape⟩⟩
    have hrows := shape_eq_ok_iff.1 hshape
    rw [hempty] at hrows
    cases hrows
  · rintro ⟨hrows, hfits⟩
    obtain ⟨shaped, hshape⟩ := exists_shape_iff.2 hfits
    cases shaped with
    | nil => exact absurd (List.forall₂_nil_right_iff.1 (shape_eq_ok_iff.1 hshape)) hrows
    | cons row rows => exact ⟨row, rows, hshape⟩

/-- Rows that do not all fit have a first that does not. -/
theorem exists_faulty (h : ∃ values ∈ result.rows, ¬ Fits result.schema values) :
    ∃ e, result.Faulty e := by
  obtain ⟨values, hvalues, hunfit⟩ := h
  cases hshape : result.shape with
  | ok rows => exact absurd (exists_shape_iff.1 ⟨rows, hshape⟩ values hvalues) hunfit
  | error e => exact ⟨e, shape_eq_error_iff.1 hshape⟩

/-- A toplist and a time series for which this is the result fail with the fault. -/
structure FailsElsewhere (result : ResultSet) (e : ConversionError) : Prop where
  toplist : ∀ (s : Service) (tenant : String) (r : Toplist),
    (s.toplist tenant r).Received s.executor result →
      (s.toplist tenant r).answer = .error (.conversion e.message)
  timeSeries : ∀ (s : Service) (tenant : String) (r : TimeSeries),
    (s.timeSeries tenant r).Received s.executor result →
      (s.timeSeries tenant r).answer = .error (.conversion e.message)

private theorem failsElsewhere {e : ConversionError} (h : result.shape = .error e) :
    FailsElsewhere result e where
  toplist _ _ _ hreceived := (run_answer_eq hreceived).trans (respond_eq_error h)
  timeSeries _ _ _ hreceived := (run_answer_eq hreceived).trans (respond_eq_error h)

/-- The answer to totals tells of the whole result: it is the first row if there is one and all
rows fit, and what is wrong with the first row that does not fit is wrong with the totals. -/
structure TakenFromWhole (result : ResultSet) (answer : Except Failure TotalsResponse) : Prop where
  ok_iff : (∃ a, answer = .ok a) ↔
    result.rows ≠ [] ∧ ∀ values ∈ result.rows, Fits result.schema values
  first : ∀ a, answer = .ok a → a.columns = result.schema.info ∧
    ∃ values rest, result.rows = values :: rest ∧ shapeRow result.schema 0 values = .ok a.row ∧
      Whole result.schema values a.row
  /-- What the answer tells of the columns, it tells of no other schema. -/
  columns : ∀ a, answer = .ok a → ∀ schema : Schema,
    a.columns = schema.info ↔ schema = result.schema
  empty : result.rows = [] →
    answer = .error (.degenerateResult "no rows received from totals query")
  faulty : (∃ values ∈ result.rows, ¬ Fits result.schema values) →
    ∃ e, result.Faulty e ∧ result.shape = .error e ∧ answer = .error (.conversion e.message) ∧
      FailsElsewhere result e

/-- Totals that reach the executor are taken from the whole of what it returns. -/
theorem totals_takenFromWhole (s : Service) (tenant : String) (r : Totals) (result : ResultSet)
    (h : (s.totals tenant r).Received s.executor result) :
    TakenFromWhole result (s.totals tenant r).answer := by
  rw [totals_answer_eq h]
  refine ⟨?_, fun a ha => ?_, fun a ha schema => ?_, fun hempty => ?_, fun hunfit => ?_⟩
  · rw [← exists_shape_cons_iff]
    simp only [firstRow_respond_eq_ok_iff]
    exact ⟨fun ⟨_, row, rows, hshape, _⟩ => ⟨row, rows, hshape⟩,
      fun ⟨row, rows, hshape⟩ => ⟨_, row, rows, hshape, rfl⟩⟩
  · obtain ⟨row, rows, hshape, rfl⟩ := firstRow_respond_eq_ok_iff.1 ha
    obtain ⟨values, rest, hrow, -, hrows⟩ :=
      List.forall₂_cons_right_iff.1 (shape_eq_ok_iff.1 hshape)
    exact ⟨rfl, values, rest, hrows, shapeRow_eq_ok_iff.2 hrow, hrow.whole⟩
  · obtain ⟨row, rows, -, rfl⟩ := firstRow_respond_eq_ok_iff.1 ha
    exact Schema.info_injective.eq_iff.trans eq_comm
  · obtain ⟨schema, rows⟩ := result
    obtain rfl : rows = [] := hempty
    rfl
  · obtain ⟨e, hfaulty⟩ := exists_faulty hunfit
    have hshape := shape_eq_error_iff.2 hfaulty
    refine ⟨e, hfaulty, hshape, ?_, failsElsewhere hshape⟩
    rw [respond_eq_error hshape]
    rfl

/-- The row that would be reported fits, and the one after it has a text for a number. -/
def sampleTail : ResultSet where
  schema := ⟨[⟨"n", .int64, false⟩]⟩
  rows := [[.int 7], [.string "x"]]

def sampleRequest : Totals :=
  { view := "sales", measures := ["n"], timeStart := 0, timeEnd := 0, filter := none }

def sampleTotaller : Service := { sampleService with executor := fun _ => .ok sampleTail }

theorem totals_takenFromWhole_sample :
    (sampleTotaller.totals "acme" sampleRequest).Received sampleTotaller.executor sampleTail ∧
      ¬ Fits sampleTail.schema [.string "x"] ∧
      (sampleTotaller.totals "acme" sampleRequest).answer =
        .error (.conversion "column 'n' of type CODE_INT64 cannot hold String(\"x\")") := by
  have hadmits : Admits sampleTotaller.registry sampleTotaller.codec sampleTotaller.store "acme"
      "sales" sampleView := ⟨by decide, sampleService_find, rfl⟩
  have hreceived :
      (sampleTotaller.totals "acme" sampleRequest).Received sampleTotaller.executor sampleTail := by
    have hcalls : (sampleTotaller.totals "acme" sampleRequest).calls =
        [callFor "acme" sampleTotaller.priority sampleQuery] :=
      (sampleTotaller.serve_failsFast "acme" (.ask (.totals sampleRequest))).called _ _
        ⟨rfl, ⟨sampleView, hadmits⟩, compile_sampleTotals⟩
    exact ⟨_, hcalls ▸ List.mem_singleton_self _, rfl⟩
  have hunfit : ¬ Fits sampleTail.schema [.string "x"] := by
    intro hfits
    obtain ⟨d, hd⟩ := hfits.cells (⟨"n", .int64, false⟩, .string "x") (by simp [sampleTail])
    cases hd
  have htaken := totals_takenFromWhole sampleTotaller "acme" sampleRequest sampleTail hreceived
  obtain ⟨e, -, hshape, hanswer, -⟩ := htaken.faulty ⟨_, by simp [sampleTail], hunfit⟩
  have he : sampleTail.shape = .error (.mismatch "n" .int64 (.string "x")) := by rfl
  obtain rfl := Except.error.inj (hshape.symm.trans he)
  exact ⟨hreceived, hunfit, hanswer⟩

end Service

open Traversal

/-- An infinite float, or one that is no number. -/
def Scalar.IsNotFinite (v : Scalar) : Prop := ∃ x, v = .float x ∧ ¬ x.isFinite

/-- Integers are finite as floats, so the only other source of a null is a null. -/
theorem Column.Converts.eq_null_iff {c : Column} {v : Scalar} {d : Datum} (h : c.Converts v d) :
    d = .null ↔ v = .null ∨ v.IsNotFinite := by
  cases h with
  | null h => simp
  | notFinite h hx => exact ⟨fun _ => .inr ⟨_, rfl, hx⟩, fun _ => rfl⟩
  | float h hx =>
    constructor
    · rintro ⟨⟩
    · rintro (⟨⟨⟩⟩ | ⟨_, ⟨⟩, hno⟩)
      exact absurd hx hno
  | _ => simp [Scalar.IsNotFinite]

private theorem Column.Converts.eq_null_iff_of_required {c : Column} {v : Scalar} {d : Datum}
    (h : c.Converts v d) (hreq : c.type.nullable = false) : d = .null ↔ v.IsNotFinite := by
  rw [h.eq_null_iff]
  constructor
  · rintro (rfl | hv)
    · cases h with
      | null hnull => rw [hreq] at hnull; cases hnull
    · exact hv
  · exact .inr

/-- Under a column that is not nullable, the row has null exactly where the executor has a float
that is not finite. -/
def Row.NullsFrom (s : Schema) (values : List Scalar) (row : Row) : Prop :=
  ∀ c v, (c, v) ∈ s.columns.zip values → c.type.nullable = false →
    ∃ d, row.get? c.name = some d ∧ (d = .null ↔ v.IsNotFinite)

theorem ResultSet.Shapes.nullsFrom {s : Schema} {values : List Scalar} {row : Row}
    (h : Shapes s values row) (hnames : (s.columns.map Column.name).Nodup) :
    row.NullsFrom s values := by
  intro c v hcell hreq
  obtain ⟨d, hd, hrow⟩ := h.get?_eq hnames hcell
  exact ⟨d, hrow, (Column.convert_eq_ok_iff.1 hd).eq_null_iff_of_required hreq⟩

namespace Service

/-- The columns of which an answer tells. -/
def Answer.columns : Answer → List ColumnMeta
  | viewMeta m => m.columns
  | rows r => r.columns
  | totals r => r.columns

/-- The rows that an answer brings. -/
def Answer.data : Answer → List Row
  | viewMeta _ => []
  | rows r => r.rows
  | totals r => [r.row]

private theorem finish_eq_ok {q : Question} {r : Response} {a : Answer} (h : finish q r = .ok a) :
    a.columns = r.columns ∧ a.data <+: r.rows := by
  cases q with
  | toplist _ | timeSeries _ =>
    obtain rfl := Except.ok.inj h
    exact ⟨rfl, List.prefix_rfl⟩
  | totals _ =>
    obtain ⟨columns, rows⟩ := r
    cases rows with
    | nil => cases h
    | cons row rows =>
      obtain rfl := Except.ok.inj h
      exact ⟨rfl, rows, rfl⟩

private theorem respond_eq_ok {result : ResultSet} {r : Response} (h : respond result = .ok r) :
    r.columns = result.schema.info ∧ result.shape = .ok r.rows := by
  unfold respond at h
  cases hshape : result.shape with
  | error e => simp [hshape] at h
  | ok rows =>
    simp only [hshape] at h
    obtain rfl := Except.ok.inj h
    exact ⟨rfl, rfl⟩

/-- What is answered comes from the result of the one call. -/
theorem exists_result {s : Service} {tenant : String} {q : Question} {a : Answer}
    (h : (s.serve tenant (.ask q)).answer = .ok a) :
    ∃ call result rows, (s.serve tenant (.ask q)).calls = [call] ∧ s.executor call = .ok result ∧
      result.shape = .ok rows ∧ a.columns = result.schema.info ∧ a.data <+: rows := by
  have hserves := s.serves tenant (.ask q)
  generalize s.serve tenant (.ask q) = reply at h hserves
  cases hserves with
  | denied _ => cases h
  | invalid _ _ => cases h
  | sent _ _ =>
    obtain ⟨result, hresult, h⟩ := bind_eq_ok_iff.1 h
    obtain ⟨r, hr, h⟩ := bind_eq_ok_iff.1 h
    obtain ⟨hcolumns, hshape⟩ := respond_eq_ok hr
    obtain ⟨hsame, hdata⟩ := finish_eq_ok h
    exact ⟨_, result, r.rows, rfl, hresult, hshape, hsame.trans hcolumns, hdata⟩

/-- In a result that is shaped, the value under a column that is not nullable is null exactly where
the executor has a float that is not finite. The same holds of every answer that reports these
columns. -/
theorem null_iff_not_finite (schema : Schema) (hnames : (schema.columns.map Column.name).Nodup) :
    (∀ (values : List (List Scalar)) (rows : List Row),
      (ResultSet.mk schema values).shape = .ok rows →
        List.Forall₂ (Row.NullsFrom schema) values rows) ∧
    ∀ (s : Service) (tenant : String) (q : Question) (a : Answer),
      (s.serve tenant (.ask q)).answer = .ok a → a.columns = schema.info →
        ∃ call values, (s.serve tenant (.ask q)).calls = [call] ∧
          s.executor call = .ok ⟨schema, values⟩ ∧
          List.Forall₂ (Row.NullsFrom schema) (values.take a.data.length) a.data := by
  have hshaped (values : List (List Scalar)) (rows : List Row)
      (h : (ResultSet.mk schema values).shape = .ok rows) :
      List.Forall₂ (Row.NullsFrom schema) values rows :=
    (ResultSet.shape_eq_ok_iff.1 h).imp fun _ _ hrow => hrow.nullsFrom hnames
  refine ⟨hshaped, fun s tenant q a h hcolumns => ?_⟩
  obtain ⟨call, ⟨schema', values⟩, rows, hcalls, hresult, hshape, hinfo, hdata⟩ := exists_result h
  obtain rfl : schema' = schema := Schema.info_injective (hinfo.symm.trans hcolumns)
  refine ⟨call, values, hcalls, hresult, ?_⟩
  have hall := List.forall₂_take a.data.length (hshaped values rows hshape)
  rwa [← List.prefix_iff_eq_take.1 hdata] at hall

/-- What the executor has for a column that is not nullable: no number, and then one. -/
def sampleResult : ResultSet where
  schema := ⟨[⟨"n", .float64, false⟩]⟩
  rows := [[.float (.ofBits 0x7ff8000000000000)], [.int 7]]

def sampleRows : List Row := [⟨[("n", .null)]⟩, ⟨[("n", .float (Float.ofInt 7))]⟩]

theorem shape_sampleResult : sampleResult.shape = .ok sampleRows := by rfl

def sampleMeasured : Service := { sampleService with executor := fun _ => .ok sampleResult }

def sampleAnswer : Answer := .totals ⟨sampleResult.schema.info, ⟨[("n", .null)]⟩⟩

theorem serve_sampleMeasured :
    (sampleMeasured.serve "acme" (.ask sampleTotals)).answer = .ok sampleAnswer := by
  have hadmits : Admits sampleMeasured.registry sampleMeasured.codec sampleMeasured.store "acme"
      sampleTotals.view sampleView := ⟨by decide, sampleService_find, rfl⟩
  have hquery : sampleTotals.compile sampleMeasured.options = .ok sampleQuery :=
    compile_sampleTotals
  rw [serve_ask, prepare_eq, hadmits.resolve_eq, hquery]
  rfl

theorem null_iff_not_finite_sample : (sampleResult.schema.columns.map Column.name).Nodup ∧
    (sampleResult.shape = .ok sampleRows ∧
      List.Forall₂ (Row.NullsFrom sampleResult.schema) sampleResult.rows sampleRows) ∧
    (sampleMeasured.serve "acme" (.ask sampleTotals)).answer = .ok sampleAnswer ∧
      sampleAnswer.columns = sampleResult.schema.info ∧
      ∃ call values, (sampleMeasured.serve "acme" (.ask sampleTotals)).calls = [call] ∧
        sampleMeasured.executor call = .ok ⟨sampleResult.schema, values⟩ ∧
        List.Forall₂ (Row.NullsFrom sampleResult.schema) (values.take 1) sampleAnswer.data := by
  have hnames : (sampleResult.schema.columns.map Column.name).Nodup := by decide
  obtain ⟨hshaped, hanswered⟩ := null_iff_not_finite sampleResult.schema hnames
  exact ⟨hnames, ⟨shape_sampleResult, hshaped _ _ shape_sampleResult⟩, serve_sampleMeasured, rfl,
    hanswered _ _ _ _ serve_sampleMeasured rfl⟩

/-- A null is reported under a column that is not nullable. -/
theorem null_in_required_column : sampleResult.shape = .ok sampleRows ∧
    (sampleMeasured.serve "acme" (.ask sampleTotals)).answer = .ok sampleAnswer ∧
    sampleAnswer.columns = [⟨"n", "CODE_FLOAT64", false⟩] ∧
    (sampleAnswer.data.map fun row => row.get? "n") = [some .null] ∧
    sampleAnswer.data <+: sampleRows :=
  ⟨shape_sampleResult, serve_sampleMeasured, rfl, rfl, _, rfl⟩

end Service
end MetricsView
