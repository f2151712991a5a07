import MetricsView.Proofs.Query.Question
import MetricsView.Proofs.Query.Spelling

/-! # The condition that a compiled question reads as

The expression is put together as the text is: comparisons to conditions, conditions to the sides
of the filter, and these to the bounds on the time. -/
namespace MetricsView

open Sql Fragment

namespace Side

def negated : Side → Bool
  | included => false
  | excluded => true

def negationTokens : Side → List Token
  | included => []
  | excluded => [.keyword .not]

/-- What the connective of the side makes of one or more expressions. -/
def join : Side → Expr → List Expr → Expr
  | included => .disjoin
  | excluded => .conjoin

def join? (side : Side) : List Expr → Option Expr
  | [] => none
  | e :: es => some (side.join e es)

theorem denotes_joinParenthesized (side : Side) {f : Fragment} {fs : List Fragment} {e : Expr}
    {es : List Expr} (hf : Denotes .factor f e) (h : List.Forall₂ (Denotes .factor) fs es) :
    Denotes .factor (.joinParenthesized side.connective (f :: fs)) (side.join e es) := by
  cases side with
  | included => exact (hf.disjoin h).group
  | excluded => exact (hf.conjoin h).disjunction.group

end Side

namespace Condition

/-- One test for all values. -/
def among : List Arg → List Test
  | [] => []
  | a :: as => [.oneOf ((a :: as).map .argument)]

/-- At most one test for null. -/
def nullPredicates (c : Condition) : List Test :=
  if c.values.any fun v => v.arg?.isNone then [.isNull] else []

/-- What is asked of the dimension, one test for each comparison. -/
def predicates (c : Condition) : List Test :=
  among (c.values.filterMap FilterValue.arg?) ++ c.nullPredicates
    ++ (c.patterns.filterMap FilterValue.arg?).map fun a => .ilike (.argument a)

def expressions (side : Side) (c : Condition) : List Expr :=
  c.predicates.map (.test (.column c.name) side.negated)

def expression? (side : Side) (c : Condition) : Option Expr := side.join? (c.expressions side)

private theorem reads_bindList (a : Arg) (as : List Arg) : ∃ ts, (bindList (a :: as)).Closed ts ∧
    ∀ us, ReadsOperands (ts ++ us) ((a :: as).map .argument) us := by
  induction as generalizing a with
  | nil => exact ⟨_, closed_bind a, fun us => .single .argument⟩
  | cons b as ih =>
    obtain ⟨ts, hs, hr⟩ := ih b
    have happend : bindList (a :: b :: as) = bind a ++ (text "," ++ bindList (b :: as)) := by
      unfold bindList
      rw [List.length_cons, List.length_cons, placeholders_succ_succ, String.append_assoc]
      rfl
    rw [happend]
    exact ⟨_, (closed_bind a).append (closed_comma.append hs), fun us => .cons .argument (hr us)⟩

private theorem spells_negation (side : Side) :
    (text (" " ++ side.negation)).Spells side.negationTokens := by
  rw [text_append]
  refine closed_blank.append_spells ?_
  cases side with
  | included => exact closed_empty.spells
  | excluded => exact spells_keyword (by decide) (by decide) (by decide)

/-- A test that may be negated. -/
theorem denotes_test {side : Side} {name s : String} {f : Fragment} {ts : List Token} {t : Test}
    (hname : IsPlain name) (hs : (text s ++ f).Closed ts) (hb : Breaks s.toList)
    (hr : ∀ us, ReadsTest (side.negationTokens ++ (ts ++ us)) side.negated t us) :
    Denotes .factor (text (name ++ " " ++ side.negation ++ s) ++ f)
      (.test (.column name) side.negated t) := by
  have hsplit : text (name ++ " " ++ side.negation ++ s) ++ f =
      text name ++ (text (" " ++ side.negation) ++ (text s ++ f)) := by
    simp only [text_append, Fragment.append_assoc]
  have hbreaks : Breaks (text s ++ f).sql.toList := by
    rw [sql_append, String.toList_append]
    exact hb.append _
  have htest := (spells_negation side).append_closed hs hbreaks
  have hboundary : Boundary (text (" " ++ side.negation) ++ (text s ++ f)).sql.toList := by
    rw [sql_append, sql_text, String.toList_append, String.toList_append, List.append_assoc]
    exact Breaks.boundary_append (by decide) _
  rw [hsplit]
  refine ⟨_, spells_name_append hname htest.spells hboundary, fun us => ?_⟩
  rw [List.cons_append, List.append_assoc]
  exact .test .column (hr us)

private theorem denotes_membership (side : Side) {name : String} (h : IsPlain name) (a : Arg)
    (as : List Arg) : Denotes .factor
      (text (name ++ " " ++ side.negation ++ " IN (") ++ bindList (a :: as) ++ text ")")
      (.test (.column name) side.negated (.oneOf ((a :: as).map .argument))) := by
  obtain ⟨ts, hs, hr⟩ := reads_bindList a as
  have hin : (text " IN (").Closed [.keyword .«in», .leftParen] := by
    refine closed_text (fun _ => ?_) (by simp)
    rfl
  have hchoices (us : List Token) : ReadsOperands (ts ++ [.rightParen] ++ us)
      ((a :: as).map .argument) (.rightParen :: us) := by
    rw [List.append_assoc]
    exact hr _
  rw [Fragment.append_assoc]
  refine denotes_test h (hin.append (hs.append closed_rightParen)) (by decide) ?_
  intro us
  cases side with
  | included => exact .oneOf (hchoices us)
  | excluded => exact .notOneOf (hchoices us)

private theorem denotes_likeTest (side : Side) {c : Condition} (h : IsPlain c.name) (a : Arg) :
    Denotes .factor (c.likeTest side a)
      (.test (.column c.name) side.negated (.ilike (.argument a))) := by
  have hilike : (text " ILIKE ").Closed [.keyword .ilike] := by
    refine closed_text (fun _ => ?_) (by simp)
    rfl
  refine denotes_test h (hilike.append (closed_bind a)) (by decide) ?_
  intro us
  cases side with
  | included => exact .ilike .argument
  | excluded => exact .notIlike .argument

private theorem spells_nullTest (side : Side) : (text side.nullTest).Spells
    (.keyword .is :: (side.negationTokens ++ [.keyword .null])) := by
  have hnull : (text "NULL").Spells [.keyword .null] :=
    spells_keyword (by decide) (by decide) (by decide)
  cases side with
  | included =>
    have his : (text " IS ").Closed [.keyword .is] := by
      refine closed_text (fun _ => ?_) (by simp)
      rfl
    have hsplit : text Side.included.nullTest = text " IS " ++ text "NULL" := rfl
    rw [hsplit]
    exact his.append_spells hnull
  | excluded =>
    have his : (text " IS NOT ").Closed [.keyword .is, .keyword .not] := by
      refine closed_text (fun _ => ?_) (by simp)
      rfl
    have hsplit : text Side.excluded.nullTest = text " IS NOT " ++ text "NULL" := rfl
    rw [hsplit]
    exact his.append_spells hnull

private theorem denotes_nullTest (side : Side) {name : String} (h : IsPlain name) :
    Denotes .factor (text (name ++ side.nullTest)) (.test (.column name) side.negated .isNull) := by
  have hboundary : Boundary (text side.nullTest).sql.toList := by
    cases side <;> exact boundary_cons (by decide) _
  rw [text_append]
  refine ⟨_, spells_name_append h (spells_nullTest side) hboundary, fun us => ?_⟩
  cases side with
  | included => exact .test .column .isNull
  | excluded => exact .test .column .isNotNull

private theorem forall₂_comparisons (side : Side) {c : Condition} (h : IsPlain c.name) :
    List.Forall₂ (Denotes .factor) (c.comparisons side) (c.expressions side) := by
  have hmembership : List.Forall₂ (Denotes .factor) (c.membership side)
      ((among (c.values.filterMap FilterValue.arg?)).map
        (.test (.column c.name) side.negated)) := by
    unfold membership
    cases c.values.filterMap FilterValue.arg? with
    | nil => exact .nil
    | cons a as => exact .cons (denotes_membership side h a as) .nil
  have hnull : List.Forall₂ (Denotes .factor) (c.nullTest side)
      (c.nullPredicates.map (.test (.column c.name) side.negated)) := by
    unfold nullTest nullPredicates
    split
    · exact .cons (denotes_nullTest side h) .nil
    · exact .nil
  have hlike : List.Forall₂ (Denotes .factor)
      ((c.patterns.filterMap FilterValue.arg?).map (c.likeTest side))
      (((c.patterns.filterMap FilterValue.arg?).map fun a => Test.ilike (.argument a)).map
        (.test (.column c.name) side.negated)) := by
    rw [List.map_map, List.forall₂_map_left_iff, List.forall₂_map_right_iff]
    exact List.forall₂_same.2 fun a _ => denotes_likeTest side h a
  rw [comparisons, expressions, predicates, List.map_append, List.map_append]
  exact List.rel_append (List.rel_append hmembership hnull) hlike

private theorem rel_joined (side : Side) {fs : List Fragment} {es : List Expr}
    (h : List.Forall₂ (Denotes .factor) fs es) :
    Option.Rel (Denotes .factor) (joined side fs) (side.join? es) := by
  have hjoin (e : Expr) : side.join e [] = e := by
    cases side <;> rfl
  cases h with
  | nil => exact .none
  | cons hhead htail =>
    cases htail with
    | nil =>
      rw [Side.join?, hjoin]
      exact .some hhead
    | cons hnext htail => exact .some (side.denotes_joinParenthesized hhead (.cons hnext htail))

private theorem rel_part? (side : Side) {c : Condition} (h : IsPlain c.name) :
    Option.Rel (Denotes .factor) (c.part? side) (c.expression? side) :=
  rel_joined side (forall₂_comparisons side h)

end Condition

namespace Filter

def expressions (side : Side) (cs : List Condition) : List Expr :=
  cs.filterMap (Condition.expression? side)

/-- At most one conjunct for each side. -/
def conjuncts (f : Filter) : List Expr :=
  (Side.included.join? (expressions .included f.included)).toList
    ++ (Side.excluded.join? (expressions .excluded f.excluded)).toList

theorem forall₂_parts (side : Side) {cs : List Condition} (h : ∀ c ∈ cs, IsPlain c.name) :
    List.Forall₂ (Denotes .factor) (parts side cs) (expressions side cs) := by
  induction cs with
  | nil => exact .nil
  | cons c cs ih =>
    obtain ⟨hc, hcs⟩ := List.forall_mem_cons.1 h
    have hpart := Condition.rel_part? side hc
    have htail := ih hcs
    unfold parts expressions at htail ⊢
    rw [List.filterMap_cons, List.filterMap_cons]
    cases hp : c.part? side <;> cases he : c.expression? side <;> rw [hp, he] at hpart
    · exact htail
    · cases hpart
    · cases hpart
    · cases hpart with
      | some hhead => exact .cons hhead htail

theorem extends_conjunct (side : Side) {fs : List Fragment} {es : List Expr}
    (h : List.Forall₂ (Denotes .factor) fs es) :
    Extends (conjunct side fs) (side.join? es).toList := by
  cases h with
  | nil => exact .empty
  | cons hhead htail => exact .and (side.denotes_joinParenthesized hhead htail)

theorem extends_fragment {f : Filter} (h : ∀ c ∈ f.included ++ f.excluded, IsPlain c.name) :
    Extends f.fragment f.conjuncts := by
  obtain ⟨hincluded, hexcluded⟩ := List.forall_mem_append.1 h
  exact (extends_conjunct .included (forall₂_parts .included hincluded)).append
    (extends_conjunct .excluded (forall₂_parts .excluded hexcluded))

end Filter

/-- A comparison with something that stands after its operator. -/
theorem denotes_comparison {column s : String} {f : Fragment} {ts : List Token} {o : Operand}
    {op : Comparison} (h : IsPlain column) (hs : (text s ++ f).Closed (.comparison op :: ts))
    (hb : Breaks s.toList) (hr : ∀ us, ReadsOperand (ts ++ us) o us) :
    Denotes .factor (text column ++ (text s ++ f))
      (.test (.column column) false (.compare op o)) := by
  exact ⟨_, spells_name_append h hs.spells (boundary_text_append hb f),
    fun us => .test .column (.compare (hr us))⟩

namespace Toplist

def boundExpressions (column : String) (op : Comparison) (millis : Int) : List Expr :=
  if millis = 0 then []
  else [.test (.column column) false (.compare op (.argument (.timestamp (.ofMillis millis))))]

theorem extends_boundFragment {column s : String} {op : Comparison} (h : IsPlain column)
    (hs : (text s).Closed [.comparison op]) (hb : Breaks s.toList) (millis : Int) :
    Extends (boundFragment (" AND " ++ column ++ s) millis) (boundExpressions column op millis) := by
  unfold boundFragment boundExpressions
  split
  · exact .empty
  · rw [text_append, text_append, Fragment.append_assoc, Fragment.append_assoc]
    exact .and (denotes_comparison h (hs.append (closed_bind _)) hb fun us => .argument)

def boundsExpressions (r : Toplist) : Option String → List Expr
  | none => []
  | some column => boundExpressions column .greaterOrEqual r.timeStart
      ++ boundExpressions column .less r.timeEnd

theorem extends_boundsFragment (r : Toplist) {column : Option String}
    (h : ∀ c ∈ column, IsPlain c) :
    Extends (r.boundsFragment column) (r.boundsExpressions column) := by
  cases column with
  | none => exact .empty
  | some column =>
    have hcolumn : IsPlain column := h column rfl
    have hlower : (text " >= ").Closed [.comparison .greaterOrEqual] := by
      refine closed_text (fun _ => ?_) (by simp)
      rfl
    have hupper : (text " < ").Closed [.comparison .less] := by
      refine closed_text (fun _ => ?_) (by simp)
      rfl
    exact (extends_boundFragment hcolumn hlower (by decide) r.timeStart).append
      (extends_boundFragment hcolumn hupper (by decide) r.timeEnd)

theorem extends_filterFragment {r : Toplist}
    (h : ∀ c ∈ (Filter.content r.filter).included ++ (Filter.content r.filter).excluded,
      IsPlain c.name) : Extends r.filterFragment (Filter.content r.filter).conjuncts := by
  have hfilter := Filter.extends_fragment h
  simp only [filterFragment]
  split
  · exact hfilter
  · exact hfilter.blank

end Toplist

def epochExpression (column : String) (op : Comparison) (time : Int) : Expr :=
  .test (.column column) false (.compare op (.call "epoch" (.argument (.int time))))

theorem denotes_epoch {column s : String} {op : Comparison} (h : IsPlain column)
    (hs : (text s).Closed [.comparison op, .name "epoch", .leftParen]) (hb : Breaks s.toList)
    (time : Int) : Denotes .factor
      (text column ++ (text s ++ (Fragment.bind (.int time) ++ text ")")))
      (epochExpression column op time) := by
  have hclosed : (text s ++ (Fragment.bind (.int time) ++ text ")")).Closed
      [.comparison op, .name "epoch", .leftParen, .argument (.int time), .rightParen] :=
    hs.append ((closed_bind _).append closed_rightParen)
  exact denotes_comparison h hclosed hb fun us => .call .argument

theorem denotes_rangeFragment {column : String} (filter : Option Filter) (hcolumn : IsPlain column)
    (h : ∀ c ∈ (Filter.content filter).included ++ (Filter.content filter).excluded,
      IsPlain c.name) (timeStart timeEnd : Int) :
    Denotes .conjunction (rangeFragment column timeStart timeEnd filter)
      (.conjoin (epochExpression column .greaterOrEqual timeStart)
        (epochExpression column .less timeEnd :: (Filter.content filter).conjuncts)) := by
  have hlower : (text " >= epoch(").Closed
      [.comparison .greaterOrEqual, .name "epoch", .leftParen] := by
    refine closed_text (fun _ => ?_) (by simp)
    rfl
  have hupper : (text " < epoch(").Closed [.comparison .less, .name "epoch", .leftParen] := by
    refine closed_text (fun _ => ?_) (by simp)
    rfl
  have hsplit : rangeFragment column timeStart timeEnd filter =
      text column ++ (text " >= epoch(" ++ (Fragment.bind (.int timeStart) ++ text ")"))
        ++ (text " AND "
            ++ (text column ++ (text " < epoch(" ++ (Fragment.bind (.int timeEnd) ++ text ")")))
          ++ (text " " ++ (Filter.content filter).fragment)) := by
    have hand : ") AND " = ")" ++ " AND " := rfl
    have hblank : ") " = ")" ++ " " := rfl
    rw [rangeFragment, hand, hblank]
    simp only [text_append, Fragment.append_assoc]
  have hstart := denotes_epoch hcolumn hlower (by decide) timeStart
  have hend := denotes_epoch hcolumn hupper (by decide) timeEnd
  rw [hsplit]
  exact ((Extends.and hend).append (Filter.extends_fragment h).blank).denotes hstart

end MetricsView
