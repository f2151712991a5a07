import MetricsView.Proofs.Query.Reading

/-! # The condition within its statement

Before the condition stand columns and a view, after it the clauses that order, group and limit. -/
namespace MetricsView

open Sql Fragment

namespace Fragment

/-- The whole text is read, and the expression is what stands after WHERE. -/
def ReadsCondition (f : Fragment) (e : Expr) : Prop :=
  ∃ ts, boundTokens f.sql.toList f.args = some ts ∧ Reads .disjunction (condition ts) e []

theorem ReadsCondition.unique {f : Fragment} {e e' : Expr} (h : f.ReadsCondition e)
    (h' : f.ReadsCondition e') : e = e' := by
  obtain ⟨ts, hts, hr⟩ := h
  obtain ⟨ts', hts', hr'⟩ := h'
  obtain rfl : ts = ts' := Option.some.inj (hts.symm.trans hts')
  exact (hr.unique hr' (Precedence.ends_nil _) (Precedence.ends_nil _)).1

theorem Spells.boundTokens {f : Fragment} {ts : List Token} (h : f.Spells ts) :
    boundTokens f.sql.toList f.args = some ts := by
  have hread := h [] [] boundary_nil
  rw [List.append_nil, List.append_nil] at hread
  rw [hread]
  exact congrArg some (List.append_nil ts)

/-- What comes before a condition. -/
def Precedes (f : Fragment) : Prop :=
  ∃ ts, f.Closed (ts ++ [.keyword .«where»]) ∧ ∀ t ∈ ts, t.beginsCondition = false

/-- What may come after a condition. -/
def Follows (f : Fragment) : Prop :=
  ∃ ts, f.Spells ts ∧ Boundary f.sql.toList ∧ ∀ t ∈ ts.head?, t.endsCondition = true

theorem Denotes.readsCondition {f g h : Fragment} {e : Expr} (hg : Denotes .conjunction g e)
    (hf : Precedes f) (hh : Follows h) : ReadsCondition (f ++ g ++ h) e := by
  obtain ⟨ps, hps, hbegins⟩ := hf
  obtain ⟨ts, hts, hr⟩ := hg
  obtain ⟨us, hus, hb, hends⟩ := hh
  have hreads : Reads .conjunction ts e [] := by
    have hnil := hr []
    rwa [List.append_nil] at hnil
  have hcondition := condition_eq hbegins hreads.consumes hends
  refine ⟨_, ((hps.append_spells hts).append hus hb).boundTokens, ?_⟩
  rw [List.append_assoc, List.append_assoc, List.singleton_append, hcondition]
  exact .conjunction hreads

/-- Text in which no condition begins. -/
def Inert (f : Fragment) : Prop := ∃ ts, f.Spells ts ∧ ∀ t ∈ ts, t.beginsCondition = false

theorem inert_name {name : String} (h : IsPlain name) : Inert (text name) := by
  refine ⟨_, spells_name h, ?_⟩
  intro t ht
  rw [List.mem_singleton.1 ht]
  rfl

private theorem inert_descending {name : String} (h : IsPlain name) :
    Inert (text (name ++ " DESC")) := by
  have hdesc : (text "DESC").Spells [.keyword (.other "DESC")] :=
    spells_keyword (by decide) (by decide) (by decide)
  have hsplit : text (name ++ " DESC") = text name ++ (text " " ++ text "DESC") := rfl
  rw [hsplit]
  refine ⟨_, spells_name_append h (closed_blank.append_spells hdesc) ?_, ?_⟩
  · exact boundary_cons (by decide) _
  · simp [Token.beginsCondition]

private theorem closed_quoted {w : String} (hw : '\'' ∉ w.toList) :
    (text ("'" ++ w ++ "'")).Closed [.quoted w.toList] := by
  refine closed_text (fun cs => ?_) (by simp)
  rw [String.toList_append, String.toList_append, List.append_assoc, List.append_assoc]
  exact tokens_quoted_append hw cs

private theorem closed_separator : (text ", ").Closed [.comma] := by
  refine closed_text (fun _ => ?_) (by simp)
  rfl

theorem inert_commaSeparated {columns : List String} (h : ∀ c ∈ columns, Inert (text c)) :
    Inert (text (commaSeparated columns)) := by
  rw [commaSeparated]
  induction columns with
  | nil =>
    rw [String.intercalate_nil]
    exact ⟨[], closed_empty.spells, by simp⟩
  | cons c cs ih =>
    obtain ⟨hc, hcs⟩ := List.forall_mem_cons.1 h
    cases cs with
    | nil =>
      rw [String.intercalate_singleton]
      exact hc
    | cons d ds =>
      obtain ⟨ts, hts, hinert⟩ := hc
      obtain ⟨us, hus, hinert'⟩ := ih hcs
      rw [String.intercalate_cons_cons, text_append, text_append]
      refine ⟨_, (hts.append_closed closed_separator (by decide)).append_spells hus, ?_⟩
      simp only [List.forall_mem_append]
      exact ⟨⟨hinert, by simp [Token.beginsCondition]⟩, hinert'⟩

theorem precedes_select {columns : List String} {view : String}
    (hcolumns : ∀ c ∈ columns, Inert (text c)) (hview : IsPlain view) :
    Precedes (text ("SELECT " ++ commaSeparated columns ++ " FROM " ++ view ++ " WHERE ")) := by
  have hselect : (text "SELECT ").Closed [.keyword (.other "SELECT")] := by
    refine closed_text (fun _ => ?_) (by simp)
    rfl
  have hfrom : (text " FROM ").Closed [.keyword (.other "FROM")] := by
    refine closed_text (fun _ => ?_) (by simp)
    rfl
  have hwhere : (text " WHERE ").Closed [.keyword .«where»] := by
    refine closed_text (fun _ => ?_) (by simp)
    rfl
  obtain ⟨ts, hts, hinert⟩ := inert_commaSeparated hcolumns
  have hcolumns := (hselect.append_spells hts).append_closed hfrom (by decide)
  have hclosed := (hcolumns.append_spells (spells_name hview)).append_closed hwhere (by decide)
  simp only [text_append]
  refine ⟨_, hclosed, ?_⟩
  simp only [List.forall_mem_append]
  refine ⟨⟨⟨?_, hinert⟩, ?_⟩, ?_⟩ <;> simp [Token.beginsCondition]

theorem spells_toString (n : Nat) :
    (text (toString n)).Spells [.ofWord (toString n).toList] := by
  have hlist : (toString n).toList = Nat.toDigits 10 n := by
    rw [Nat.toString_eq_repr, Nat.toList_repr]
  have hdigit (c : Char) (hc : c ∈ (toString n).toList) : c.isDigit := by
    rw [hlist] at hc
    exact Nat.isDigit_of_mem_toDigits (by decide) (by decide) hc
  refine spells_word ?_ (List.all_eq_true.2 fun c hc => ?_)
  · rw [hlist]
    exact Nat.toDigits_ne_nil
  · simp [isWordChar, Char.isAlphanum, hdigit c hc]

private theorem follows_empty : Follows .empty := ⟨[], closed_empty.spells, boundary_nil, by simp⟩

private theorem closed_limit : (text " LIMIT ").Closed [.keyword .limit] := by
  refine closed_text (fun _ => ?_) (by simp)
  rfl

private theorem follows_limit (n : Nat) : Follows (text (" LIMIT " ++ toString n)) := by
  rw [text_append]
  refine ⟨_, closed_limit.append_spells (spells_toString n), ?_, ?_⟩
  · exact boundary_text_append (by decide) _
  · simp [Token.endsCondition]

/-- A clause that begins with a word of its own. -/
theorem follows_clause {s body : String} {t : Token} {ts us : List Token}
    (hs : (text s).Closed (t :: ts)) (hb : Breaks s.toList) (ht : t.endsCondition = true)
    (hbody : (text body).Spells us) (n : Nat) :
    Follows (text (s ++ body ++ " LIMIT " ++ toString n)) := by
  have hclause := (hs.append_spells hbody).append_closed closed_limit (by decide)
  have hspells := hclause.append_spells (spells_toString n)
  simp only [text_append]
  refine ⟨_, hspells, ?_, ?_⟩
  · simp only [sql_append, sql_text, String.toList_append, List.append_assoc]
    exact hb.boundary_append _
  · simp [ht]

end Fragment

namespace Toplist

private theorem follows_orderBy {sort : List SortSpec} (h : ∀ s ∈ sort, IsPlain s.name) (n : Nat) :
    Follows (text (" " ++ orderBy sort ++ " LIMIT " ++ toString n)) := by
  cases sort with
  | nil =>
    have hnil : " " ++ orderBy [] = " " := rfl
    rw [hnil, String.append_assoc, text_append]
    obtain ⟨ts, hts, -, hends⟩ := follows_limit n
    exact ⟨ts, closed_blank.append_spells hts, boundary_text_append (by decide) _, hends⟩
  | cons s sort =>
    have hitems : ∀ c ∈ (s :: sort).map fun s => if s.ascending then s.name else s.name ++ " DESC",
        Inert (text c) := by
      intro c hc
      obtain ⟨s, hs, rfl⟩ := List.mem_map.1 hc
      split
      · exact inert_name (h s hs)
      · exact inert_descending (h s hs)
    obtain ⟨us, hus, -⟩ := inert_commaSeparated hitems
    have horder : (text " ORDER BY ").Closed [.keyword .order, .keyword (.other "BY")] := by
      refine closed_text (fun _ => ?_) (by simp)
      rfl
    have hsplit : " " ++ orderBy (s :: sort) = " ORDER BY " ++ commaSeparated
        ((s :: sort).map fun s => if s.ascending then s.name else s.name ++ " DESC") := by
      rw [orderBy, ← String.append_assoc]
      · rfl
      · simp
    rw [hsplit]
    exact follows_clause horder (by decide) rfl hus n

def condition (r : Toplist) (options : CompileOptions) : Expr :=
  .conjoin (.test (.number 1) false (.compare .equal (.number 1)))
    (r.boundsExpressions options.toplistTimeColumn ++ (Filter.content r.filter).conjuncts)

private theorem denotes_oneEqualsOne : Denotes .factor (text "1=1")
    (.test (.number 1) false (.compare .equal (.number 1))) := by
  have hopen : (text "1=").Closed [.number 1, .comparison .equal] := by
    refine closed_text (fun _ => ?_) (by simp)
    rfl
  have hone : (text "1").Spells [.number 1] := spells_word (w := "1") (by decide) (by decide)
  have hsplit : text "1=1" = text "1=" ++ text "1" := rfl
  rw [hsplit]
  exact ⟨_, hopen.append_spells hone, fun us => .test .number (.compare .number)⟩

theorem readsCondition {r : Toplist} {options : CompileOptions}
    (h : ∀ n ∈ (Question.toplist r).names options, IsPlain n) :
    ReadsCondition (r.fragment options) (r.condition options) := by
  have hsplit : r.fragment options =
      text ("SELECT " ++ commaSeparated (r.dimension :: r.measures) ++ " FROM " ++ r.view
        ++ " WHERE ")
      ++ (text "1=1" ++ (r.boundsFragment options.toplistTimeColumn ++ r.filterFragment))
      ++ text (" " ++ orderBy r.sort ++ " LIMIT " ++ toString (r.effectiveLimit options)) := by
    have hone : "WHERE 1=1" = "WHERE " ++ "1=1" := rfl
    have hwhere : " WHERE " = " " ++ "WHERE " := rfl
    rw [fragment, columns, hone, hwhere]
    simp only [text_append, Fragment.append_assoc]
  obtain ⟨hview, hselected, hsorted, hcolumn, hconditions⟩ := Question.forall_names_toplist h
  have hselect := precedes_select (fun c hc => inert_name (hselected c hc)) hview
  have hbounds := r.extends_boundsFragment hcolumn
  have hfilter := extends_filterFragment hconditions
  have hsort := follows_orderBy hsorted (r.effectiveLimit options)
  rw [hsplit]
  exact ((hbounds.append hfilter).denotes denotes_oneEqualsOne).readsCondition hselect hsort

end Toplist

def rangeCondition (column : String) (timeStart timeEnd : Int) (filter : Option Filter) : Expr :=
  .conjoin (epochExpression column .greaterOrEqual timeStart)
    (epochExpression column .less timeEnd :: (Filter.content filter).conjuncts)

namespace TimeSeries

private theorem inert_bucket (r : TimeSeries) {column : String} (h : IsPlain column) :
    Inert (text (r.bucket column)) := by
  have hsplit : text (r.bucket column) = text "DATE_TRUNC(" ++ text ("'" ++ r.grain.name ++ "'")
      ++ text ", " ++ text column ++ text ") AS " ++ text column := by
    have hopen : "DATE_TRUNC('" = "DATE_TRUNC(" ++ "'" := rfl
    have hquote : "', " = "'" ++ ", " := rfl
    rw [bucket_eq, hopen, hquote]
    simp only [text_append, Fragment.append_assoc]
  have hquoted : '\'' ∉ r.grain.name.toList := by
    cases r.grain <;> decide
  have hopen : (text "DATE_TRUNC(").Closed [.name "DATE_TRUNC", .leftParen] := by
    refine closed_text (fun _ => ?_) (by simp)
    rfl
  have has : (text ") AS ").Closed [.rightParen, .keyword (.other "AS")] := by
    refine closed_text (fun _ => ?_) (by simp)
    rfl
  have hhead := (hopen.append (closed_quoted hquoted)).append closed_separator
  have hspells := ((hhead.append_spells (spells_name h)).append_closed has
    (by decide)).append_spells (spells_name h)
  rw [hsplit]
  exact ⟨_, hspells, by simp [Token.beginsCondition]⟩

theorem readsCondition {r : TimeSeries} {options : CompileOptions}
    (h : ∀ n ∈ (Question.timeSeries r).names options, IsPlain n) :
    ReadsCondition (r.fragment options)
      (rangeCondition options.timeColumn r.timeStart r.timeEnd r.filter) := by
  obtain ⟨hview, hcolumn, hmeasures, hconditions⟩ := Question.forall_names_range h
  have hcolumns : ∀ c ∈ r.bucket options.timeColumn :: r.measures, Inert (text c) :=
    List.forall_mem_cons.2 ⟨r.inert_bucket hcolumn, fun c hc => inert_name (hmeasures c hc)⟩
  have hgroup : (text " GROUP BY ").Closed [.keyword .group, .keyword (.other "BY")] := by
    refine closed_text (fun _ => ?_) (by simp)
    rfl
  have hrange := denotes_rangeFragment r.filter hcolumn hconditions r.timeStart r.timeEnd
  exact hrange.readsCondition (precedes_select hcolumns hview)
    (follows_clause hgroup (by decide) rfl (spells_name hcolumn) _)

end TimeSeries

theorem Totals.readsCondition {r : Totals} {options : CompileOptions}
    (h : ∀ n ∈ (Question.totals r).names options, IsPlain n) :
    ReadsCondition (r.fragment options)
      (rangeCondition options.timeColumn r.timeStart r.timeEnd r.filter) := by
  obtain ⟨hview, hcolumn, hmeasures, hconditions⟩ := Question.forall_names_range h
  have hcolumns : ∀ c ∈ r.measures, Inert (text c) := fun c hc => inert_name (hmeasures c hc)
  have hrange := denotes_rangeFragment r.filter hcolumn hconditions r.timeStart r.timeEnd
  have hreads := hrange.readsCondition (precedes_select hcolumns hview) follows_empty
  rwa [append_empty] at hreads

namespace Question

/-- The expression after WHERE. -/
def condition : Question → CompileOptions → Expr
  | toplist r, options => r.condition options
  | timeSeries r, options => rangeCondition options.timeColumn r.timeStart r.timeEnd r.filter
  | totals r, options => rangeCondition options.timeColumn r.timeStart r.timeEnd r.filter

theorem readsCondition {q : Question} {options : CompileOptions}
    (h : ∀ n ∈ q.names options, IsPlain n) :
    ReadsCondition (q.fragment options) (q.condition options) := by
  cases q with
  | toplist r => exact Toplist.readsCondition h
  | timeSeries r => exact TimeSeries.readsCondition h
  | totals r => exact Totals.readsCondition h

end Question
end MetricsView
