import MetricsView.Proofs.Query.Outcome

/-! # The three questions as one

What holds of toplists, time series and totals alike is stated once, of a question. -/
namespace MetricsView

open Instant (Representable)
open Traversal

theorem checkMeasures_eq_ok_iff {measures : List String} {u : Unit} :
    checkMeasures measures = .ok u ↔ measures ≠ [] := by
  cases measures <;> simp [checkMeasures]

namespace Toplist

def boundFragment (comparison : String) (millis : Int) : Fragment :=
  if millis = 0 then .empty else .text comparison ++ .bind (.timestamp (.ofMillis millis))

theorem bound_eq_ok_iff {comparison : String} {millis : Int} {f : Fragment} :
    bound comparison millis = .ok f ↔
      Representable millis ∧ f = boundFragment comparison millis := by
  unfold bound boundFragment
  by_cases hz : millis = 0
  · have hr : Representable 0 := by decide
    simp [hz, hr, eq_comm]
  · cases ht : Instant.ofMillis? millis with
    | none => simp [hz, Instant.ofMillis?_eq_none_iff.1 ht]
    | some t =>
      obtain ⟨hr, rfl⟩ := Instant.ofMillis?_eq_some_iff.1 ht
      simp [hz, hr, eq_comm]

def boundsFragment (r : Toplist) : Option String → Fragment
  | none => .empty
  | some column => boundFragment (" AND " ++ column ++ " >= ") r.timeStart
      ++ boundFragment (" AND " ++ column ++ " < ") r.timeEnd

/-- Both bounds have a date; they matter only where there is a column to compare with. -/
def BoundsSupported (r : Toplist) (column : Option String) : Prop :=
  column ≠ none → Representable r.timeStart ∧ Representable r.timeEnd

theorem bounds_eq_ok_iff {r : Toplist} {column : Option String} {f : Fragment} :
    r.bounds column = .ok f ↔ r.BoundsSupported column ∧ f = r.boundsFragment column := by
  cases column with
  | none => simp [bounds, BoundsSupported, boundsFragment, eq_comm]
  | some column =>
    rw [bounds, bind_eq_ok_iff]
    constructor
    · rintro ⟨lower, hlower, h⟩
      obtain ⟨upper, hupper, h⟩ := bind_eq_ok_iff.1 h
      obtain ⟨hstart, rfl⟩ := bound_eq_ok_iff.1 hlower
      obtain ⟨hend, rfl⟩ := bound_eq_ok_iff.1 hupper
      exact ⟨fun _ => ⟨hstart, hend⟩, (pure_eq_ok_iff.1 h).symm⟩
    · rintro ⟨hsupported, rfl⟩
      obtain ⟨hstart, hend⟩ := hsupported (by simp)
      exact ⟨_, bound_eq_ok_iff.2 ⟨hstart, rfl⟩,
        bind_eq_ok_iff.2 ⟨_, bound_eq_ok_iff.2 ⟨hend, rfl⟩, rfl⟩⟩

def columns (r : Toplist) : String := commaSeparated (r.dimension :: r.measures)

/-- The filter stands after a blank of its own, unless it is empty. -/
def filterFragment (r : Toplist) : Fragment :=
  let filter := (Filter.content r.filter).fragment
  if filter.isEmpty then filter else .text " " ++ filter

def fragment (r : Toplist) (options : CompileOptions) : Fragment :=
  .text ("SELECT " ++ r.columns ++ " FROM " ++ r.view ++ " ") ++ .text "WHERE 1=1"
    ++ r.boundsFragment options.toplistTimeColumn ++ r.filterFragment
    ++ .text (" " ++ orderBy r.sort ++ " LIMIT " ++ toString (r.effectiveLimit options))

/-- The toplists that compile. -/
structure Compiles (r : Toplist) (options : CompileOptions) : Prop where
  dimension : r.dimension ≠ ""
  measures : r.measures ≠ []
  bounds : r.BoundsSupported options.toplistTimeColumn
  filter : (Filter.content r.filter).Supported

theorem compile_eq_ok_iff {r : Toplist} {options : CompileOptions} {f : Fragment} :
    r.compile options = .ok f ↔ r.Compiles options ∧ f = r.fragment options := by
  unfold compile
  by_cases hd : r.dimension = ""
  · have hn : ¬ r.Compiles options := fun h => h.dimension hd
    simp [hd, hn, bind, Except.bind, throw, throwThe, MonadExceptOf.throw]
  · rw [if_neg (by simpa using hd), bind_eq_ok_iff]
    constructor
    · rintro ⟨_, hm, h⟩
      obtain ⟨bounds, hb, h⟩ := bind_eq_ok_iff.1 h
      obtain ⟨filter, hf, h⟩ := bind_eq_ok_iff.1 h
      obtain ⟨hbounds, rfl⟩ := bounds_eq_ok_iff.1 hb
      obtain ⟨hfilter, rfl⟩ := Filter.filterClause_eq_ok_iff.1 hf
      exact ⟨⟨hd, checkMeasures_eq_ok_iff.1 hm, hbounds, hfilter⟩, (pure_eq_ok_iff.1 h).symm⟩
    · rintro ⟨⟨-, hmeasures, hbounds, hfilter⟩, rfl⟩
      exact ⟨(), checkMeasures_eq_ok_iff.2 hmeasures,
        bind_eq_ok_iff.2 ⟨_, bounds_eq_ok_iff.2 ⟨hbounds, rfl⟩,
          bind_eq_ok_iff.2 ⟨_, Filter.filterClause_eq_ok_iff.2 ⟨hfilter, rfl⟩, rfl⟩⟩⟩

end Toplist

def rangeFragment (column : String) (timeStart timeEnd : Int) (filter : Option Filter) : Fragment :=
  .text (column ++ " >= epoch(") ++ .bind (.int timeStart)
    ++ .text (") AND " ++ column ++ " < epoch(") ++ .bind (.int timeEnd) ++ .text ") "
    ++ (Filter.content filter).fragment

theorem timeRange_eq_ok_iff {column : String} {timeStart timeEnd : Int} {filter : Option Filter}
    {f : Fragment} : timeRange column timeStart timeEnd filter = .ok f ↔
      (Filter.content filter).Supported ∧ f = rangeFragment column timeStart timeEnd filter := by
  rw [timeRange, bind_eq_ok_iff]
  constructor
  · rintro ⟨g, hg, h⟩
    obtain ⟨hsupported, rfl⟩ := Filter.filterClause_eq_ok_iff.1 hg
    exact ⟨hsupported, (pure_eq_ok_iff.1 h).symm⟩
  · rintro ⟨hsupported, rfl⟩
    exact ⟨_, Filter.filterClause_eq_ok_iff.2 ⟨hsupported, rfl⟩, rfl⟩

namespace TimeSeries

theorem bucket_eq (r : TimeSeries) (column : String) : r.bucket column =
    "DATE_TRUNC('" ++ r.grain.name ++ "', " ++ column ++ ") AS " ++ column := rfl

def fragment (r : TimeSeries) (options : CompileOptions) : Fragment :=
  .text ("SELECT " ++ commaSeparated (r.bucket options.timeColumn :: r.measures) ++ " FROM "
      ++ r.view ++ " WHERE ")
    ++ rangeFragment options.timeColumn r.timeStart r.timeEnd r.filter
    ++ .text (" GROUP BY " ++ options.timeColumn ++ " LIMIT " ++ toString options.timeseriesLimit)

structure Compiles (r : TimeSeries) : Prop where
  measures : r.measures ≠ []
  filter : (Filter.content r.filter).Supported

theorem compile_eq_ok_iff {r : TimeSeries} {options : CompileOptions} {f : Fragment} :
    r.compile options = .ok f ↔ r.Compiles ∧ f = r.fragment options := by
  rw [compile, bind_eq_ok_iff]
  constructor
  · rintro ⟨_, hm, h⟩
    obtain ⟨g, hg, h⟩ := bind_eq_ok_iff.1 h
    obtain ⟨hfilter, rfl⟩ := timeRange_eq_ok_iff.1 hg
    exact ⟨⟨checkMeasures_eq_ok_iff.1 hm, hfilter⟩, (pure_eq_ok_iff.1 h).symm⟩
  · rintro ⟨⟨hmeasures, hfilter⟩, rfl⟩
    exact ⟨(), checkMeasures_eq_ok_iff.2 hmeasures,
      bind_eq_ok_iff.2 ⟨_, timeRange_eq_ok_iff.2 ⟨hfilter, rfl⟩, rfl⟩⟩

end TimeSeries

namespace Totals

def fragment (r : Totals) (options : CompileOptions) : Fragment :=
  .text ("SELECT " ++ commaSeparated r.measures ++ " FROM " ++ r.view ++ " WHERE ")
    ++ rangeFragment options.timeColumn r.timeStart r.timeEnd r.filter

structure Compiles (r : Totals) : Prop where
  measures : r.measures ≠ []
  filter : (Filter.content r.filter).Supported

theorem compile_eq_ok_iff {r : Totals} {options : CompileOptions} {f : Fragment} :
    r.compile options = .ok f ↔ r.Compiles ∧ f = r.fragment options := by
  rw [compile, bind_eq_ok_iff]
  constructor
  · rintro ⟨_, hm, h⟩
    obtain ⟨g, hg, h⟩ := bind_eq_ok_iff.1 h
    obtain ⟨hfilter, rfl⟩ := timeRange_eq_ok_iff.1 hg
    exact ⟨⟨checkMeasures_eq_ok_iff.1 hm, hfilter⟩, (pure_eq_ok_iff.1 h).symm⟩
  · rintro ⟨⟨hmeasures, hfilter⟩, rfl⟩
    exact ⟨(), checkMeasures_eq_ok_iff.2 hmeasures,
      bind_eq_ok_iff.2 ⟨_, timeRange_eq_ok_iff.2 ⟨hfilter, rfl⟩, rfl⟩⟩

end Totals

inductive Question where
  | toplist (r : Toplist)
  | timeSeries (r : TimeSeries)
  | totals (r : Totals)

namespace Question

def compile : Question → CompileOptions → CompileResult Fragment
  | toplist r, options => r.compile options
  | timeSeries r, options => r.compile options
  | totals r, options => r.compile options

def fragment : Question → CompileOptions → Fragment
  | toplist r, options => r.fragment options
  | timeSeries r, options => r.fragment options
  | totals r, options => r.fragment options

def Compiles : Question → CompileOptions → Prop
  | toplist r, options => r.Compiles options
  | timeSeries r, _ => r.Compiles
  | totals r, _ => r.Compiles

theorem compile_eq_ok_iff {q : Question} {options : CompileOptions} {f : Fragment} :
    q.compile options = .ok f ↔ q.Compiles options ∧ f = q.fragment options := by
  cases q with
  | toplist r => exact Toplist.compile_eq_ok_iff
  | timeSeries r => exact TimeSeries.compile_eq_ok_iff
  | totals r => exact Totals.compile_eq_ok_iff

/-- The conditions on the dimensions. -/
def filter : Question → Filter
  | toplist r => .content r.filter
  | timeSeries r => .content r.filter
  | totals r => .content r.filter

theorem Compiles.filter {q : Question} {options : CompileOptions} (h : q.Compiles options) :
    q.filter.Supported := by
  cases q with
  | toplist r => exact Toplist.Compiles.filter h
  | timeSeries r => exact TimeSeries.Compiles.filter h
  | totals r => exact Totals.Compiles.filter h

/-- The names that the query is about, apart from those in conditions. -/
def subjects : Question → CompileOptions → List String
  | toplist r, options =>
    r.view :: r.dimension :: (r.measures ++ r.sort.map SortSpec.name
      ++ options.toplistTimeColumn.toList)
  | timeSeries r, options => r.view :: options.timeColumn :: r.measures
  | totals r, options => r.view :: options.timeColumn :: r.measures

/-- Every name that is written into the text of the query. -/
def names (q : Question) (options : CompileOptions) : List String :=
  q.subjects options ++ (q.filter.included ++ q.filter.excluded).map Condition.name

theorem forall_names_toplist {P : String → Prop} {r : Toplist} {options : CompileOptions}
    (h : ∀ n ∈ (toplist r).names options, P n) :
    P r.view ∧ (∀ n ∈ r.dimension :: r.measures, P n) ∧ (∀ s ∈ r.sort, P s.name) ∧
      (∀ c ∈ options.toplistTimeColumn, P c) ∧
      ∀ c ∈ (Filter.content r.filter).included ++ (Filter.content r.filter).excluded, P c.name := by
  obtain ⟨hsubjects, hconditions⟩ := List.forall_mem_append.1 h
  obtain ⟨hview, hrest⟩ := List.forall_mem_cons.1 hsubjects
  obtain ⟨hdimension, hrest⟩ := List.forall_mem_cons.1 hrest
  obtain ⟨hrest, hcolumn⟩ := List.forall_mem_append.1 hrest
  obtain ⟨hmeasures, hsort⟩ := List.forall_mem_append.1 hrest
  refine ⟨hview, List.forall_mem_cons.2 ⟨hdimension, hmeasures⟩, ?_, ?_, ?_⟩
  · exact List.forall_mem_map.1 hsort
  · exact fun c hc => hcolumn c (Option.mem_toList.2 hc)
  · exact List.forall_mem_map.1 hconditions

/-- Time series and totals have the same names. -/
theorem forall_names_range {P : String → Prop} {view column : String} {measures : List String}
    {cs : List Condition}
    (h : ∀ n ∈ view :: column :: measures ++ cs.map Condition.name, P n) :
    P view ∧ P column ∧ (∀ n ∈ measures, P n) ∧ ∀ c ∈ cs, P c.name := by
  obtain ⟨hsubjects, hconditions⟩ := List.forall_mem_append.1 h
  obtain ⟨hview, hrest⟩ := List.forall_mem_cons.1 hsubjects
  obtain ⟨hcolumn, hmeasures⟩ := List.forall_mem_cons.1 hrest
  exact ⟨hview, hcolumn, hmeasures, List.forall_mem_map.1 hconditions⟩

def sample : Question := .toplist
  { view := "bids", dimension := "site", measures := ["n"], timeStart := 1000, timeEnd := 0,
    limit := 0, sort := [⟨"n", false⟩],
    filter := some ⟨[⟨"site", [.string "a?", .null, .number 2.5], []⟩],
      [⟨"os", [.bool true], [.string "%x%"]⟩]⟩ }

def sampleOptions : CompileOptions :=
  { CompileOptions.default with toplistTimeColumn := some "ts" }

def sampleFragment : Fragment :=
  ⟨"SELECT site, n FROM bids WHERE 1=1 AND ts >= ?  AND ((site  IN (?,?) OR site IS NULL))"
      ++ " AND ((os NOT IN (?) AND os NOT ILIKE ?)) ORDER BY n DESC LIMIT 100",
    [.timestamp ⟨1, 0⟩, .string "a?", .float 2.5, .bool true, .string "%x%"]⟩

set_option maxRecDepth 2000 in
theorem compile_sample : sample.compile sampleOptions = .ok sampleFragment := by rfl

end Question
end MetricsView
