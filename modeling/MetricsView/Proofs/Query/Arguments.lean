import MetricsView.Proofs.Query.Outcome
import MetricsView.Proofs.Query.Question

/-! # The arguments of a compiled question

A compiled question has one placeholder for each argument. Its arguments are the applicable time
bounds and then, condition by condition, the values that are not null and the patterns, in the
order in which the request lists them. -/
namespace MetricsView

/-- An argument carries a value under the same kind. Null is carried by none. -/
inductive FilterValue.Carries : Arg → FilterValue → Prop where
  | string (s : String) : Carries (.string s) (.string s)
  | bool (b : Bool) : Carries (.bool b) (.bool b)
  | number (x : Float) : Carries (.float x) (.number x)

/-- An argument that denotes exactly so many milliseconds since the epoch. -/
def Arg.DenotesMillis (a : Arg) (millis : Int) : Prop :=
  ∃ t, a = .timestamp t ∧ t.nanos < 1000000000 ∧ t.nanosSinceEpoch = millis * 1000000

namespace Condition

/-- What a condition compares its dimension with, other than null. -/
def operands (c : Condition) : List FilterValue := c.values.filter (!·.isNull) ++ c.patterns

def args (c : Condition) : List Arg :=
  c.values.filterMap FilterValue.arg? ++ c.patterns.filterMap FilterValue.arg?

theorem carries_filterMap (vs : List FilterValue) :
    List.Forall₂ FilterValue.Carries (vs.filterMap FilterValue.arg?) (vs.filter (!·.isNull)) := by
  induction vs with
  | nil => exact .nil
  | cons v vs ih =>
    cases v with
    | null => exact ih
    | bool b => exact .cons (.bool b) ih
    | number x => exact .cons (.number x) ih
    | string s => exact .cons (.string s) ih

theorem args_carry_operands {c : Condition} (h : c.Supported) :
    List.Forall₂ FilterValue.Carries c.args c.operands := by
  have hpatterns := carries_filterMap c.patterns
  rw [FilterValue.filter_isNull_of_forall_ne_null h] at hpatterns
  exact List.rel_append (carries_filterMap c.values) hpatterns

private theorem flatMap_args_membership (side : Side) (c : Condition) :
    (c.membership side).flatMap Fragment.args = c.values.filterMap FilterValue.arg? := by
  unfold membership
  split
  · next h => rw [h, List.flatMap_nil]
  · simp

private theorem flatMap_args_nullTest (side : Side) (c : Condition) :
    (c.nullTest side).flatMap Fragment.args = [] := by
  unfold nullTest
  split <;> rfl

private theorem flatMap_args_comparisons (side : Side) (c : Condition) :
    (c.comparisons side).flatMap Fragment.args = c.args := by
  have hlike (as : List Arg) : (as.map (c.likeTest side)).flatMap Fragment.args = as := by
    induction as with
    | nil => rfl
    | cons a as ih =>
      rw [List.map_cons, List.flatMap_cons, ih]
      rfl
  rw [comparisons, List.flatMap_append, List.flatMap_append, flatMap_args_membership,
    flatMap_args_nullTest, List.append_nil, hlike]
  rfl

/-- Joining the comparisons of a condition leaves their arguments as they are. -/
theorem args_joined (side : Side) (ts : List Fragment) :
    (joined side ts).toList.flatMap Fragment.args = ts.flatMap Fragment.args := by
  match ts with
  | [] | [_] => rfl
  | a :: b :: ts =>
    rw [joined_cons_cons, Option.toList_some, List.flatMap_singleton,
      Fragment.args_joinParenthesized]

end Condition

namespace Filter

def operands (f : Filter) : List FilterValue := (f.included ++ f.excluded).flatMap Condition.operands

theorem args_sideFragment (side : Side) (cs : List Condition) :
    (sideFragment side cs).args = cs.flatMap Condition.args := by
  have hconjunct (ps : List Fragment) : (conjunct side ps).args = ps.flatMap Fragment.args := by
    cases ps with
    | nil => rfl
    | cons p ps =>
      rw [conjunct_cons, Fragment.args_append, Fragment.args_joinParenthesized]
      rfl
  have hparts : (parts side cs).flatMap Fragment.args = cs.flatMap Condition.args := by
    induction cs with
    | nil => rfl
    | cons c cs ih =>
      have hpart : (c.part? side).toList.flatMap Fragment.args = c.args := by
        rw [Condition.part?, Condition.args_joined, Condition.flatMap_args_comparisons]
      rw [List.flatMap_cons, ← ih, ← hpart, parts, List.filterMap_cons]
      cases c.part? side with
      | none => rfl
      | some p =>
        rw [Option.toList_some, List.flatMap_singleton]
        rfl
  rw [sideFragment, hconjunct, hparts]

theorem args_fragment (f : Filter) :
    f.fragment.args = (f.included ++ f.excluded).flatMap Condition.args := by
  rw [fragment, Fragment.args_append, args_sideFragment, args_sideFragment, List.flatMap_append]

theorem args_carry_operands {f : Filter} (h : f.Supported) :
    List.Forall₂ FilterValue.Carries f.fragment.args f.operands := by
  rw [args_fragment, operands]
  have hall : ∀ c ∈ f.included ++ f.excluded, c.Supported := by
    intro c hc
    rcases List.mem_append.1 hc with hc | hc
    · exact h.1 c hc
    · exact h.2 c hc
  generalize f.included ++ f.excluded = cs at hall
  induction cs with
  | nil => exact .nil
  | cons c cs ih =>
    obtain ⟨hc, hcs⟩ := List.forall_mem_cons.1 hall
    exact List.rel_append (Condition.args_carry_operands hc) (ih hcs)

end Filter

open Fragment (Balanced marks marks_append balanced_text balanced_bind balanced_bindList
  balanced_empty)

private theorem Condition.balanced_comparisons {c : Condition} (hc : marks c.name = 0)
    (side : Side) : ∀ t ∈ c.comparisons side, Balanced t := by
  intro t ht
  rcases List.mem_append.1 ht with ht | ht
  · rcases List.mem_append.1 ht with ht | ht
    · unfold membership at ht
      split at ht
      · cases ht
      · have htext : marks (c.name ++ " " ++ side.negation ++ " IN (") = 0 := by
          simp only [marks_append, hc]
          cases side <;> rfl
        obtain rfl := List.mem_singleton.1 ht
        exact ((balanced_text htext).append (balanced_bindList _)).append (balanced_text rfl)
    · unfold nullTest at ht
      split at ht
      · have htext : marks (c.name ++ side.nullTest) = 0 := by
          simp only [marks_append, hc]
          cases side <;> rfl
        obtain rfl := List.mem_singleton.1 ht
        exact balanced_text htext
      · cases ht
  · obtain ⟨a, -, rfl⟩ := List.mem_map.1 ht
    have htext : marks (c.name ++ " " ++ side.negation ++ " ILIKE ") = 0 := by
      simp only [marks_append, hc]
      cases side <;> rfl
    exact (balanced_text htext).append (balanced_bind a)

theorem Side.marks_connective (side : Side) : marks side.connective = 0 := by
  cases side <;> rfl

private theorem Condition.balanced_of_joined {side : Side} {ts : List Fragment}
    (h : ∀ t ∈ ts, Balanced t) : ∀ p ∈ joined side ts, Balanced p := by
  intro p hp
  match ts with
  | [] => cases hp
  | [t] =>
    obtain rfl := Option.mem_some_iff.1 hp
    exact h t (List.mem_singleton_self t)
  | a :: b :: ts =>
    rw [joined_cons_cons, Option.mem_some_iff] at hp
    exact hp ▸ Balanced.joinParenthesized side.marks_connective h

namespace Filter

theorem balanced_sideFragment {cs : List Condition} (hcs : ∀ c ∈ cs, marks c.name = 0) (side : Side) :
    Balanced (sideFragment side cs) := by
  have hparts : ∀ p ∈ parts side cs, Balanced p := by
    intro p hp
    obtain ⟨c, hc, hp⟩ := List.mem_filterMap.1 hp
    exact Condition.balanced_of_joined (c.balanced_comparisons (hcs c hc) side) p hp
  unfold sideFragment
  cases h : parts side cs with
  | nil => exact balanced_empty
  | cons p ps =>
    rw [conjunct_cons]
    rw [h] at hparts
    exact (balanced_text rfl).append (Balanced.joinParenthesized side.marks_connective hparts)

theorem balanced_fragment {f : Filter} (h : ∀ c ∈ f.included ++ f.excluded, marks c.name = 0) :
    Balanced f.fragment :=
  (balanced_sideFragment (fun c hc => h c (List.mem_append_left _ hc)) .included).append
    (balanced_sideFragment (fun c hc => h c (List.mem_append_right _ hc)) .excluded)

end Filter

theorem marks_commaSeparated {names : List String} (h : ∀ n ∈ names, marks n = 0) :
    marks (commaSeparated names) = 0 := Fragment.marks_intercalate rfl h

namespace Toplist

/-- The bounds that a toplist compares with: none without a time column, and never zero. -/
def applicableBounds (r : Toplist) (options : CompileOptions) : List Int :=
  if options.toplistTimeColumn = none then [] else [r.timeStart, r.timeEnd].filter (· ≠ 0)

theorem denotesMillis_ofMillis (millis : Int) :
    (Arg.timestamp (.ofMillis millis)).DenotesMillis millis := by
  refine ⟨_, rfl, ?_, Instant.nanosSinceEpoch_ofMillis millis⟩
  simp only [Instant.ofMillis]
  omega

theorem args_boundFragment (comparison : String) (millis : Int) :
    List.Forall₂ Arg.DenotesMillis (boundFragment comparison millis).args
      ([millis].filter (· ≠ 0)) := by
  unfold boundFragment
  by_cases hz : millis = 0
  · simp [hz]
  · simpa [hz] using denotesMillis_ofMillis millis

theorem args_boundsFragment (r : Toplist) (options : CompileOptions) :
    List.Forall₂ Arg.DenotesMillis (r.boundsFragment options.toplistTimeColumn).args
      (r.applicableBounds options) := by
  unfold boundsFragment applicableBounds
  cases options.toplistTimeColumn with
  | none => exact .nil
  | some column =>
    have hsplit : [r.timeStart, r.timeEnd].filter (· ≠ 0) =
        [r.timeStart].filter (· ≠ 0) ++ [r.timeEnd].filter (· ≠ 0) :=
      List.filter_append [r.timeStart] [r.timeEnd]
    rw [if_neg (by simp), hsplit]
    exact List.rel_append (args_boundFragment _ _) (args_boundFragment _ _)

private theorem args_filterFragment (r : Toplist) :
    r.filterFragment.args = (Filter.content r.filter).fragment.args := by
  simp only [filterFragment]
  split
  · rfl
  · rw [Fragment.args_append, Fragment.args_text, List.nil_append]

theorem args_fragment (r : Toplist) (options : CompileOptions) :
    (r.fragment options).args = (r.boundsFragment options.toplistTimeColumn).args
      ++ (Filter.content r.filter).fragment.args := by
  simp [fragment, args_filterFragment]

theorem balanced_boundFragment {comparison : String} (h : marks comparison = 0) (millis : Int) :
    Balanced (boundFragment comparison millis) := by
  unfold boundFragment
  split
  · exact balanced_empty
  · exact (balanced_text h).append (balanced_bind _)

private theorem balanced_boundsFragment (r : Toplist) {column : Option String}
    (h : ∀ c ∈ column, marks c = 0) : Balanced (r.boundsFragment column) := by
  cases column with
  | none => exact balanced_empty
  | some c =>
    have hc : marks c = 0 := h c rfl
    refine (balanced_boundFragment ?_ _).append (balanced_boundFragment ?_ _)
    · rw [marks_append, marks_append, hc]
      rfl
    · rw [marks_append, marks_append, hc]
      rfl

private theorem marks_orderBy {sort : List SortSpec} (h : ∀ s ∈ sort, marks s.name = 0) :
    marks (orderBy sort) = 0 := by
  cases sort with
  | nil => rfl
  | cons s sort =>
    have hitems : ∀ t ∈ (s :: sort).map fun s => if s.ascending then s.name else s.name ++ " DESC",
        marks t = 0 := by
      intro t ht
      obtain ⟨s, hs, rfl⟩ := List.mem_map.1 ht
      split
      · exact h s hs
      · rw [marks_append, h s hs]
        rfl
    rw [orderBy, marks_append, marks_commaSeparated hitems]
    · rfl
    · simp

theorem balanced_fragment {r : Toplist} {options : CompileOptions}
    (h : ∀ n ∈ (Question.toplist r).names options, marks n = 0) : Balanced (r.fragment options) := by
  obtain ⟨hview, hselected, hsorted, hcolumn, hconditions⟩ := Question.forall_names_toplist h
  have hcolumns : marks r.columns = 0 := marks_commaSeparated hselected
  have hbounds := r.balanced_boundsFragment hcolumn
  have hsort := marks_orderBy hsorted
  have hfilter := Filter.balanced_fragment hconditions
  have hspaced : Balanced r.filterFragment := by
    simp only [filterFragment]
    split
    · exact hfilter
    · exact (balanced_text rfl).append hfilter
  refine ((((balanced_text ?_).append (balanced_text rfl)).append hbounds).append hspaced).append
    (balanced_text ?_)
  · simp only [marks_append, hcolumns, hview]
    rfl
  · simp only [marks_append, hsort, Fragment.marks_toString]
    rfl

end Toplist

theorem balanced_rangeFragment {column : String} {filter : Option Filter} (hcolumn : marks column = 0)
    (hfilter : Balanced (Filter.content filter).fragment) (timeStart timeEnd : Int) :
    Balanced (rangeFragment column timeStart timeEnd filter) := by
  refine (((((balanced_text ?_).append (balanced_bind _)).append (balanced_text ?_)).append
    (balanced_bind _)).append (balanced_text rfl)).append hfilter
  · rw [marks_append, hcolumn]
    rfl
  · rw [marks_append, marks_append, hcolumn]
    rfl

namespace Question

/-- Toplists bind an instant for each applicable bound, the other questions both bounds as they
are. -/
def TimeArgs : Question → CompileOptions → List Arg → Prop
  | toplist r, options, args => List.Forall₂ Arg.DenotesMillis args (r.applicableBounds options)
  | timeSeries r, _, args => args = [.int r.timeStart, .int r.timeEnd]
  | totals r, _, args => args = [.int r.timeStart, .int r.timeEnd]

theorem args_fragment (q : Question) (options : CompileOptions) :
    ∃ timeArgs, q.TimeArgs options timeArgs ∧
      (q.fragment options).args = timeArgs ++ q.filter.fragment.args := by
  cases q with
  | toplist r => exact ⟨_, r.args_boundsFragment options, r.args_fragment options⟩
  | timeSeries r =>
    refine ⟨_, rfl, ?_⟩
    simp [fragment, TimeSeries.fragment, rangeFragment, filter]
  | totals r =>
    refine ⟨_, rfl, ?_⟩
    simp [fragment, Totals.fragment, rangeFragment, filter]

theorem balanced_fragment {q : Question} {options : CompileOptions}
    (h : ∀ n ∈ q.names options, marks n = 0) : Balanced (q.fragment options) := by
  cases q with
  | toplist r => exact Toplist.balanced_fragment h
  | timeSeries r =>
    obtain ⟨hview, hcolumn, hmeasures, hconditions⟩ := forall_names_range h
    have hfilter := Filter.balanced_fragment hconditions
    have hbucket : marks (r.bucket options.timeColumn) = 0 := by
      simp only [TimeSeries.bucket_eq, marks_append, hcolumn]
      cases r.grain <;> rfl
    have hcolumns := marks_commaSeparated (List.forall_mem_cons.2 ⟨hbucket, hmeasures⟩)
    refine ((balanced_text ?_).append (balanced_rangeFragment hcolumn hfilter _ _)).append
      (balanced_text ?_)
    · simp only [marks_append, hcolumns, hview]
      rfl
    · simp only [marks_append, hcolumn, Fragment.marks_toString]
      rfl
  | totals r =>
    obtain ⟨hview, hcolumn, hmeasures, hconditions⟩ := forall_names_range h
    have hfilter := Filter.balanced_fragment hconditions
    refine (balanced_text ?_).append (balanced_rangeFragment hcolumn hfilter _ _)
    simp only [marks_append, marks_commaSeparated hmeasures, hview]
    rfl

/-- A compiled question has as many placeholders as arguments, and its arguments are the time
bounds that apply followed by the operands of the conditions, each under its own kind. -/
theorem compile_args {q : Question} {options : CompileOptions} {f : Fragment}
    (hnames : ∀ n ∈ q.names options, '?' ∉ n.toList) (h : q.compile options = .ok f) :
    f.sql.toList.count '?' = f.args.length ∧
      ∃ timeArgs filterArgs, f.args = timeArgs ++ filterArgs ∧ q.TimeArgs options timeArgs ∧
        List.Forall₂ FilterValue.Carries filterArgs q.filter.operands := by
  obtain ⟨hcompiles, rfl⟩ := compile_eq_ok_iff.1 h
  obtain ⟨timeArgs, htime, hargs⟩ := q.args_fragment options
  refine ⟨balanced_fragment fun n hn => Fragment.marks_eq_zero_iff.2 (hnames n hn), ?_⟩
  exact ⟨timeArgs, q.filter.fragment.args, hargs, htime, Filter.args_carry_operands hcompiles.filter⟩

theorem compile_args_sample : (∀ n ∈ sample.names sampleOptions, '?' ∉ n.toList) ∧
    sample.compile sampleOptions = .ok sampleFragment ∧
    sampleFragment.sql.toList.count '?' = sampleFragment.args.length ∧
      ∃ timeArgs filterArgs, sampleFragment.args = timeArgs ++ filterArgs ∧
        sample.TimeArgs sampleOptions timeArgs ∧
        List.Forall₂ FilterValue.Carries filterArgs sample.filter.operands := by
  have hnames : ∀ n ∈ sample.names sampleOptions, '?' ∉ n.toList := by decide
  exact ⟨hnames, compile_sample, compile_args hnames compile_sample⟩

end Question
end MetricsView
