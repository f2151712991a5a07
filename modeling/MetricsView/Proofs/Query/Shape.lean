import MetricsView.Proofs.Query.Outcome
import MetricsView.Proofs.Query.Question

/-! # No value reaches the text of a query

Two questions have the same shape when they differ at most in the values that they compare with.
Questions of the same shape compile to the same text. -/
namespace MetricsView

namespace Condition

/-- The same dimension and equally many comparisons of each kind. -/
structure SameShape (c d : Condition) : Prop where
  name : c.name = d.name
  values : (c.values.filter (!·.isNull)).length = (d.values.filter (!·.isNull)).length
  null : FilterValue.null ∈ c.values ↔ FilterValue.null ∈ d.values
  patterns : c.patterns.length = d.patterns.length

private theorem sql_membership (side : Side) (c : Condition) :
    (c.membership side).map Fragment.sql = if (c.values.filter (!·.isNull)).length = 0 then []
      else [c.name ++ " " ++ side.negation ++ " IN ("
        ++ Fragment.placeholders (c.values.filter (!·.isNull)).length ++ ")"] := by
  rw [← FilterValue.length_filterMap_arg?, membership]
  split
  · next h => simp [h]
  · next h =>
    have hlength : (c.values.filterMap FilterValue.arg?).length ≠ 0 := by
      rw [Ne, List.length_eq_zero_iff]
      exact h
    rw [if_neg hlength]
    simp

theorem any_isNone_arg?_iff {vs : List FilterValue} :
    (vs.any fun v => v.arg?.isNone) = true ↔ FilterValue.null ∈ vs := by
  rw [List.any_eq_true]
  constructor
  · rintro ⟨v, hv, hnone⟩
    rw [Option.isNone_iff_eq_none, FilterValue.arg?_eq_none_iff] at hnone
    exact hnone ▸ hv
  · intro h
    exact ⟨_, h, rfl⟩

theorem sql_likeTests {side : Side} {c : Condition} (h : c.Supported) :
    ((c.patterns.filterMap FilterValue.arg?).map (c.likeTest side)).map Fragment.sql =
      List.replicate c.patterns.length (c.name ++ " " ++ side.negation ++ " ILIKE " ++ "?") := by
  have hlength : (c.patterns.filterMap FilterValue.arg?).length = c.patterns.length := by
    rw [FilterValue.length_filterMap_arg?, FilterValue.filter_isNull_of_forall_ne_null h]
  rw [← hlength, List.map_map, ← List.map_const']
  rfl

/-- The texts of the comparisons are a function of the shape. -/
theorem SameShape.sql_comparisons {c d : Condition} (h : c.SameShape d) (hc : c.Supported)
    (hd : d.Supported) (side : Side) :
    (c.comparisons side).map Fragment.sql = (d.comparisons side).map Fragment.sql := by
  have hany : (c.values.any fun v => v.arg?.isNone) = d.values.any fun v => v.arg?.isNone :=
    Bool.eq_iff_iff.2 (any_isNone_arg?_iff.trans (h.null.trans any_isNone_arg?_iff.symm))
  have hnull : (c.nullTest side).map Fragment.sql = (d.nullTest side).map Fragment.sql := by
    rw [nullTest, nullTest, hany, h.name]
  simp only [comparisons, List.map_append, hnull, sql_membership, h.values, sql_likeTests hc,
    sql_likeTests hd, h.patterns, h.name]

/-- Whether comparisons are bracketed depends on their number alone. -/
theorem sql_joined {side : Side} {ts us : List Fragment}
    (h : ts.map Fragment.sql = us.map Fragment.sql) :
    (joined side ts).map Fragment.sql = (joined side us).map Fragment.sql := by
  match ts, us with
  | [], [] => rfl
  | [_], [_] => simpa [joined] using h
  | a :: b :: ts, c :: d :: us =>
    rw [joined_cons_cons, joined_cons_cons, Option.map_some, Option.map_some,
      Fragment.sql_joinParenthesized, Fragment.sql_joinParenthesized, h]
  | [], _ :: _ | _ :: _, [] | [_], _ :: _ :: _ | _ :: _ :: _, [_] => simp at h

end Condition

namespace Filter

structure SameShape (f g : Filter) : Prop where
  included : List.Forall₂ Condition.SameShape f.included g.included
  excluded : List.Forall₂ Condition.SameShape f.excluded g.excluded

theorem sql_parts {side : Side} {cs ds : List Condition}
    (h : List.Forall₂ Condition.SameShape cs ds) (hcs : ∀ c ∈ cs, c.Supported)
    (hds : ∀ d ∈ ds, d.Supported) :
    (parts side cs).map Fragment.sql = (parts side ds).map Fragment.sql := by
  induction h with
  | nil => rfl
  | @cons c d cs ds hcd h ih =>
    obtain ⟨hc, hcs⟩ := List.forall_mem_cons.1 hcs
    obtain ⟨hd, hds⟩ := List.forall_mem_cons.1 hds
    have hpart : (c.part? side).map Fragment.sql = (d.part? side).map Fragment.sql :=
      Condition.sql_joined (hcd.sql_comparisons hc hd side)
    have htail := ih hcs hds
    unfold parts at htail ⊢
    rw [List.filterMap_cons, List.filterMap_cons]
    cases hp : c.part? side <;> cases hq : d.part? side <;> simp_all

theorem sql_conjunct {side : Side} {ps qs : List Fragment}
    (h : ps.map Fragment.sql = qs.map Fragment.sql) :
    (conjunct side ps).sql = (conjunct side qs).sql := by
  match ps, qs with
  | [], [] => rfl
  | p :: ps, q :: qs =>
    rw [conjunct_cons, conjunct_cons, Fragment.sql_append, Fragment.sql_append,
      Fragment.sql_joinParenthesized, Fragment.sql_joinParenthesized, h]
  | [], _ :: _ | _ :: _, [] => simp at h

theorem SameShape.sql_fragment {f g : Filter} (h : f.SameShape g) (hf : f.Supported)
    (hg : g.Supported) : f.fragment.sql = g.fragment.sql := by
  rw [fragment, fragment, Fragment.sql_append, Fragment.sql_append]
  exact congrArg₂ (· ++ ·) (sql_conjunct (sql_parts h.included hf.1 hg.1))
    (sql_conjunct (sql_parts h.excluded hf.2 hg.2))

end Filter

namespace Toplist

/-- The same query but for the operands of the filter and the bounds that apply. -/
structure SameShape (r s : Toplist) : Prop where
  view : r.view = s.view
  dimension : r.dimension = s.dimension
  measures : r.measures = s.measures
  timeStart : r.timeStart = 0 ↔ s.timeStart = 0
  timeEnd : r.timeEnd = 0 ↔ s.timeEnd = 0
  limit : r.limit = s.limit
  sort : r.sort = s.sort
  filter : (Filter.content r.filter).SameShape (Filter.content s.filter)

theorem sql_boundFragment {m n : Int} (h : m = 0 ↔ n = 0) (comparison : String) :
    (boundFragment comparison m).sql = (boundFragment comparison n).sql := by
  unfold boundFragment
  by_cases hm : m = 0
  · rw [if_pos hm, if_pos (h.1 hm)]
  · rw [if_neg hm, if_neg (mt h.2 hm)]
    rfl

theorem SameShape.sql_fragment {r s : Toplist} (h : r.SameShape s)
    (hr : (Filter.content r.filter).Supported) (hs : (Filter.content s.filter).Supported)
    (options : CompileOptions) : (r.fragment options).sql = (s.fragment options).sql := by
  have hbounds : (r.boundsFragment options.toplistTimeColumn).sql =
      (s.boundsFragment options.toplistTimeColumn).sql := by
    unfold boundsFragment
    cases options.toplistTimeColumn with
    | none => rfl
    | some column =>
      rw [Fragment.sql_append, Fragment.sql_append, sql_boundFragment h.timeStart,
        sql_boundFragment h.timeEnd]
  have hfilter : r.filterFragment.sql = s.filterFragment.sql := by
    have hsql := h.filter.sql_fragment hr hs
    have hempty : (Filter.content r.filter).fragment.isEmpty =
        (Filter.content s.filter).fragment.isEmpty := congrArg String.isEmpty hsql
    simp only [filterFragment, hempty]
    split
    · exact hsql
    · rw [Fragment.sql_append, Fragment.sql_append, hsql]
  have hcolumns : r.columns = s.columns := by rw [columns, columns, h.dimension, h.measures]
  have hlimit : r.effectiveLimit options = s.effectiveLimit options := by
    rw [effectiveLimit, effectiveLimit, h.limit]
  simp only [fragment, Fragment.sql_append, hbounds, hfilter, hcolumns, hlimit, h.view, h.sort,
    Fragment.sql_text]

end Toplist

theorem sql_rangeFragment {f g : Option Filter}
    (h : (Filter.content f).fragment.sql = (Filter.content g).fragment.sql) (column : String)
    (m n k l : Int) : (rangeFragment column m n f).sql = (rangeFragment column k l g).sql := by
  simp only [rangeFragment, Fragment.sql_append, Fragment.sql_text, Fragment.sql_bind, h]

structure TimeSeries.SameShape (r s : TimeSeries) : Prop where
  view : r.view = s.view
  measures : r.measures = s.measures
  grain : r.grain = s.grain
  filter : (Filter.content r.filter).SameShape (Filter.content s.filter)

structure Totals.SameShape (r s : Totals) : Prop where
  view : r.view = s.view
  measures : r.measures = s.measures
  filter : (Filter.content r.filter).SameShape (Filter.content s.filter)

namespace Question

/-- Questions of one kind that differ at most in the values they compare with. -/
def SameShape : Question → Question → Prop
  | toplist r, toplist s => r.SameShape s
  | timeSeries r, timeSeries s => r.SameShape s
  | totals r, totals s => r.SameShape s
  | _, _ => False

/-- Questions of the same shape compile to the same text: the values show in the arguments
alone. -/
theorem sql_eq_of_sameShape {q p : Question} {options : CompileOptions} {f g : Fragment}
    (hshape : q.SameShape p) (hq : q.compile options = .ok f) (hp : p.compile options = .ok g) :
    f.sql = g.sql := by
  obtain ⟨hqc, rfl⟩ := compile_eq_ok_iff.1 hq
  obtain ⟨hpc, rfl⟩ := compile_eq_ok_iff.1 hp
  have hqf := hqc.filter
  have hpf := hpc.filter
  cases q <;> cases p <;> try exact hshape.elim
  case toplist r s => exact Toplist.SameShape.sql_fragment hshape hqf hpf options
  case timeSeries r s =>
    obtain ⟨hview, hmeasures, hgrain, hfilter⟩ := hshape
    have hsql := hfilter.sql_fragment hqf hpf
    simp only [fragment, TimeSeries.fragment, TimeSeries.bucket_eq, Fragment.sql_append,
      Fragment.sql_text, hview, hmeasures, hgrain]
    rw [sql_rangeFragment hsql]
  case totals r s =>
    obtain ⟨hview, hmeasures, hfilter⟩ := hshape
    have hsql := hfilter.sql_fragment hqf hpf
    simp only [fragment, Totals.fragment, Fragment.sql_append, Fragment.sql_text, hview, hmeasures]
    rw [sql_rangeFragment hsql]

/-- A toplist of the shape of the sample whose values try to leave their places. -/
def hostileSample : Question := .toplist
  { view := "bids", dimension := "site", measures := ["n"], timeStart := -1, timeEnd := 0,
    limit := 0, sort := [⟨"n", false⟩],
    filter := some ⟨[⟨"site", [.bool true, .null, .null, .string "') OR 1=1 --"], []⟩],
      [⟨"os", [.string "?,?"], [.string "'"]⟩]⟩ }

def hostileFragment : Fragment :=
  ⟨"SELECT site, n FROM bids WHERE 1=1 AND ts >= ?  AND ((site  IN (?,?) OR site IS NULL))"
      ++ " AND ((os NOT IN (?) AND os NOT ILIKE ?)) ORDER BY n DESC LIMIT 100",
    [.timestamp ⟨-1, 999000000⟩, .bool true, .string "') OR 1=1 --", .string "?,?", .string "'"]⟩

set_option maxRecDepth 2000 in
theorem sql_eq_of_sameShape_hostile : sample.SameShape hostileSample ∧
    sample.compile sampleOptions = .ok sampleFragment ∧
    hostileSample.compile sampleOptions = .ok hostileFragment ∧
    sampleFragment.sql = hostileFragment.sql := by
  have hcondition {n : String} {vs ws ps rs : List FilterValue}
      (hvs : (vs.filter (!·.isNull)).length = (ws.filter (!·.isNull)).length)
      (hnull : FilterValue.null ∈ vs ↔ FilterValue.null ∈ ws) (hps : ps.length = rs.length) :
      Condition.SameShape ⟨n, vs, ps⟩ ⟨n, ws, rs⟩ := ⟨rfl, hvs, hnull, hps⟩
  have hshape : sample.SameShape hostileSample :=
    ⟨rfl, rfl, rfl, by decide, by decide, rfl, rfl,
      ⟨.cons (hcondition rfl (by simp) rfl) .nil, .cons (hcondition rfl (by simp) rfl) .nil⟩⟩
  have hhostile : hostileSample.compile sampleOptions = .ok hostileFragment := by rfl
  exact ⟨hshape, compile_sample, hhostile, sql_eq_of_sameShape hshape compile_sample hhostile⟩

end Question
end MetricsView
