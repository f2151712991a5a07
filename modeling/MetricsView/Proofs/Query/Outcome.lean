import Mathlib.Data.List.Count
import MetricsView.Proofs.Traversal
import MetricsView.Query.Compile
import MetricsView.Time

/-! # Which requests compile, and to what

Each step of compilation succeeds exactly on the requests that it supports, and then gives a
fragment that is a total function of the request. The arguments of a join are those of its parts in
order, and a fragment is balanced when it has one placeholder for each argument. Every way of
assembling fragments keeps the balance. -/
namespace MetricsView.Instant

/-- The instant so many milliseconds after the epoch. -/
def ofMillis (millis : Int) : Instant := ⟨millis / 1000, (millis % 1000).toNat * 1000000⟩

/-- The exact distance from the epoch. -/
def nanosSinceEpoch (t : Instant) : Int := t.seconds * 1000000000 + t.nanos

/-- The milliseconds whose date is representable. -/
def Representable (millis : Int) : Prop := -8334601228800000 ≤ millis ∧ millis ≤ 8210266876799999

instance (millis : Int) : Decidable (Representable millis) := inferInstanceAs (Decidable (_ ∧ _))

theorem ofMillis?_eq_some_iff {millis : Int} {t : Instant} :
    ofMillis? millis = some t ↔ Representable millis ∧ t = ofMillis millis := by
  have hrange : firstSecond ≤ millis / 1000 ∧ millis / 1000 ≤ lastSecond ↔ Representable millis := by
    unfold Representable firstSecond lastSecond
    omega
  unfold ofMillis? ofSeconds?
  simp only [hrange]
  by_cases h : Representable millis
  · simp [h, ofMillis, eq_comm]
  · simp [h]

theorem ofMillis?_eq_none_iff {millis : Int} : ofMillis? millis = none ↔ ¬ Representable millis := by
  rw [Option.eq_none_iff_forall_ne_some]
  constructor
  · intro h hr
    exact h _ (ofMillis?_eq_some_iff.2 ⟨hr, rfl⟩)
  · intro h t ht
    exact h (ofMillis?_eq_some_iff.1 ht).1

/-- No millisecond is lost or gained. -/
theorem nanosSinceEpoch_ofMillis (millis : Int) :
    (ofMillis millis).nanosSinceEpoch = millis * 1000000 := by
  have hnonneg : 0 ≤ millis % 1000 := Int.emod_nonneg millis (by decide)
  simp only [nanosSinceEpoch, ofMillis]
  omega

end MetricsView.Instant

namespace MetricsView

open Instant (Representable)
open Traversal

namespace Fragment

@[simp] theorem empty_append (f : Fragment) : empty ++ f = f := by
  change (⟨"" ++ f.sql, [] ++ f.args⟩ : Fragment) = f
  rw [String.empty_append, List.nil_append]

@[simp] theorem append_empty (f : Fragment) : f ++ empty = f := by
  change (⟨f.sql ++ "", f.args ++ []⟩ : Fragment) = f
  rw [String.append_empty, List.append_nil]

theorem append_assoc (f g h : Fragment) : f ++ g ++ h = f ++ (g ++ h) := by
  change (⟨f.sql ++ g.sql ++ h.sql, f.args ++ g.args ++ h.args⟩ : Fragment) = _
  rw [String.append_assoc, List.append_assoc]
  rfl

end Fragment

theorem FilterValue.arg?_eq_none_iff {v : FilterValue} : v.arg? = none ↔ v = .null := by
  cases v <;> simp [arg?]

private theorem FilterValue.exists_arg?_of_ne_null {v : FilterValue} (h : v ≠ .null) :
    ∃ a, v.arg? = some a := by
  rw [← Option.ne_none_iff_exists']
  exact fun hn => h (arg?_eq_none_iff.1 hn)

def FilterValue.isNull : FilterValue → Bool
  | .null => true
  | _ => false

/-- All values have an argument but null. -/
theorem FilterValue.length_filterMap_arg? (vs : List FilterValue) :
    (vs.filterMap FilterValue.arg?).length = (vs.filter (!·.isNull)).length := by
  induction vs with
  | nil => rfl
  | cons v vs ih =>
    cases v with
    | null => exact ih
    | bool _ | number _ | string _ => exact congrArg Nat.succ ih

theorem FilterValue.filter_isNull_of_forall_ne_null {vs : List FilterValue}
    (h : ∀ v ∈ vs, v ≠ .null) : vs.filter (!·.isNull) = vs := by
  rw [List.filter_eq_self]
  intro v hv
  cases v with
  | null => exact absurd rfl (h _ hv)
  | bool _ | number _ | string _ => rfl

namespace Condition

/-- No pattern is null. -/
def Supported (c : Condition) : Prop := ∀ p ∈ c.patterns, p ≠ .null

def likeTest (side : Side) (c : Condition) (a : Arg) : Fragment :=
  .text (c.name ++ " " ++ side.negation ++ " ILIKE ") ++ .bind a

/-- The comparisons with the values, with null, and with each pattern. -/
def comparisons (side : Side) (c : Condition) : List Fragment :=
  c.membership side ++ c.nullTest side
    ++ (c.patterns.filterMap FilterValue.arg?).map (c.likeTest side)

/-- Several comparisons stand in parentheses, one stands alone. -/
def joined (side : Side) : List Fragment → Option Fragment
  | [] => none
  | [test] => some test
  | tests => some (.joinParenthesized side.connective tests)

theorem joined_cons_cons (side : Side) (a b : Fragment) (ts : List Fragment) :
    joined side (a :: b :: ts) = some (.joinParenthesized side.connective (a :: b :: ts)) := rfl

def part? (side : Side) (c : Condition) : Option Fragment := joined side (c.comparisons side)

private theorem patternTest_eq_ok_iff {side : Side} {c : Condition} (p : FilterValue)
    (f : Fragment) : c.patternTest side p = .ok f ↔
      p ≠ .null ∧ f = (p.arg?.map (c.likeTest side)).getD .empty := by
  cases p <;> simp [patternTest, FilterValue.arg?, likeTest, eq_comm]

private theorem map_likeTest {side : Side} {c : Condition} {ps : List FilterValue}
    (h : ∀ p ∈ ps, p ≠ .null) : (ps.map fun p => (p.arg?.map (c.likeTest side)).getD .empty) =
      (ps.filterMap FilterValue.arg?).map (c.likeTest side) := by
  induction ps with
  | nil => rfl
  | cons p ps ih =>
    obtain ⟨hp, hps⟩ := List.forall_mem_cons.1 h
    obtain ⟨a, ha⟩ := FilterValue.exists_arg?_of_ne_null hp
    rw [List.map_cons, List.filterMap_cons_some ha, List.map_cons, ih hps, ha]
    rfl

theorem tests_eq_ok_iff {side : Side} {c : Condition} {ts : List Fragment} :
    c.tests side = .ok ts ↔ c.Supported ∧ ts = c.comparisons side := by
  rw [tests, bind_eq_ok_iff]
  constructor
  · rintro ⟨fs, hfs, h⟩
    obtain ⟨hsupported, rfl⟩ := (mapM_eq_ok_iff_of_total patternTest_eq_ok_iff).1 hfs
    refine ⟨hsupported, ?_⟩
    rw [← pure_eq_ok_iff.1 h, map_likeTest hsupported]
    rfl
  · rintro ⟨hsupported, rfl⟩
    refine ⟨_, (mapM_eq_ok_iff_of_total patternTest_eq_ok_iff).2 ⟨hsupported, rfl⟩, ?_⟩
    rw [map_likeTest hsupported]
    rfl

theorem clause?_eq_ok_iff {side : Side} (c : Condition) (p : Option Fragment) :
    c.clause? side = .ok p ↔ c.Supported ∧ p = c.part? side := by
  have hjoined (ts : List Fragment) : (match ts with
      | [] => pure none
      | [test] => pure (some test)
      | tests => pure (some (.joinParenthesized side.connective tests)) :
      Except CompileError (Option Fragment)) = .ok (joined side ts) := by
    match ts with
    | [] | [_] | _ :: _ :: _ => rfl
  rw [clause?, bind_eq_ok_iff]
  constructor
  · rintro ⟨ts, hts, h⟩
    obtain ⟨hsupported, rfl⟩ := tests_eq_ok_iff.1 hts
    exact ⟨hsupported, (Except.ok.inj (((hjoined _).symm.trans h))).symm⟩
  · rintro ⟨hsupported, rfl⟩
    exact ⟨_, tests_eq_ok_iff.2 ⟨hsupported, rfl⟩, hjoined _⟩

end Condition

namespace Filter

/-- A filter without conditions. -/
def blank : Filter := ⟨[], []⟩

/-- An absent filter counts as one without conditions. -/
def content (f : Option Filter) : Filter := f.getD blank

def Supported (f : Filter) : Prop :=
  (∀ c ∈ f.included, c.Supported) ∧ ∀ c ∈ f.excluded, c.Supported

/-- One expression for each condition that compares anything. -/
def parts (side : Side) (cs : List Condition) : List Fragment :=
  cs.filterMap (Condition.part? side)

def conjunct (side : Side) : List Fragment → Fragment
  | [] => .empty
  | parts => .text " AND " ++ .joinParenthesized side.connective parts

theorem conjunct_cons (side : Side) (p : Fragment) (ps : List Fragment) :
    conjunct side (p :: ps) = .text " AND " ++ .joinParenthesized side.connective (p :: ps) := rfl

def sideFragment (side : Side) (cs : List Condition) : Fragment := conjunct side (parts side cs)

def fragment (f : Filter) : Fragment :=
  sideFragment .included f.included ++ sideFragment .excluded f.excluded

theorem sideClause_eq_ok_iff {side : Side} {cs : List Condition} {f : Fragment} :
    sideClause side cs = .ok f ↔ (∀ c ∈ cs, c.Supported) ∧ f = sideFragment side cs := by
  have hconjunct (ps : List Fragment) : (match ps with
      | [] => pure .empty
      | parts => pure (.text " AND " ++ .joinParenthesized side.connective parts) :
      Except CompileError Fragment) = .ok (conjunct side ps) := by
    cases ps <;> rfl
  have hparts : (cs.map (Condition.part? side)).filterMap id = parts side cs := by
    rw [List.filterMap_map]
    rfl
  rw [sideClause, bind_eq_ok_iff]
  constructor
  · rintro ⟨ps, hps, h⟩
    obtain ⟨hsupported, rfl⟩ := (mapM_eq_ok_iff_of_total Condition.clause?_eq_ok_iff).1 hps
    rw [hparts] at h
    exact ⟨hsupported, (Except.ok.inj ((hconjunct _).symm.trans h)).symm⟩
  · rintro ⟨hsupported, rfl⟩
    refine ⟨_, (mapM_eq_ok_iff_of_total Condition.clause?_eq_ok_iff).2 ⟨hsupported, rfl⟩, ?_⟩
    rw [hparts]
    exact hconjunct _

theorem clause_eq_ok_iff {f : Filter} {g : Fragment} :
    f.clause = .ok g ↔ f.Supported ∧ g = f.fragment := by
  rw [clause, bind_eq_ok_iff]
  constructor
  · rintro ⟨a, ha, h⟩
    obtain ⟨b, hb, h⟩ := bind_eq_ok_iff.1 h
    obtain ⟨hincluded, rfl⟩ := sideClause_eq_ok_iff.1 ha
    obtain ⟨hexcluded, rfl⟩ := sideClause_eq_ok_iff.1 hb
    exact ⟨⟨hincluded, hexcluded⟩, (pure_eq_ok_iff.1 h).symm⟩
  · rintro ⟨⟨hincluded, hexcluded⟩, rfl⟩
    exact ⟨_, sideClause_eq_ok_iff.2 ⟨hincluded, rfl⟩,
      bind_eq_ok_iff.2 ⟨_, sideClause_eq_ok_iff.2 ⟨hexcluded, rfl⟩, rfl⟩⟩

theorem filterClause_eq_ok_iff {f : Option Filter} {g : Fragment} :
    filterClause f = .ok g ↔ (content f).Supported ∧ g = (content f).fragment := by
  cases f with
  | none =>
    rw [← clause_eq_ok_iff]
    exact Iff.rfl
  | some f => exact clause_eq_ok_iff

end Filter

namespace Fragment

theorem intercalate_cons_cons (separator : String) (f g : Fragment) (fs : List Fragment) :
    intercalate separator (f :: g :: fs) = f ++ text separator ++ intercalate separator (g :: fs) :=
  rfl

@[simp] theorem args_empty : empty.args = [] := rfl

@[simp] theorem args_text (s : String) : (text s).args = [] := rfl

@[simp] theorem args_bind (a : Arg) : (bind a).args = [a] := rfl

@[simp] theorem args_bindList (as : List Arg) : (bindList as).args = as := rfl

@[simp] theorem args_intercalate (separator : String) (fs : List Fragment) :
    (intercalate separator fs).args = fs.flatMap args := by
  induction fs with
  | nil => rfl
  | cons f fs ih =>
    cases fs with
    | nil => simp [intercalate]
    | cons g gs =>
      rw [intercalate_cons_cons, args_append, args_append, ih, args_text, List.append_nil]
      rfl

@[simp] theorem args_joinParenthesized (separator : String) (fs : List Fragment) :
    (joinParenthesized separator fs).args = fs.flatMap args := by
  simp [joinParenthesized]

@[simp] theorem sql_empty : empty.sql = "" := rfl

@[simp] theorem sql_text (s : String) : (text s).sql = s := rfl

@[simp] theorem sql_bind (a : Arg) : (bind a).sql = "?" := rfl

@[simp] theorem sql_bindList (as : List Arg) : (bindList as).sql = placeholders as.length := rfl

/-- The text of a join is the join of the texts. -/
theorem sql_intercalate (separator : String) (fs : List Fragment) :
    (intercalate separator fs).sql = separator.intercalate (fs.map sql) := by
  induction fs with
  | nil => rfl
  | cons f fs ih =>
    cases fs with
    | nil => simp [intercalate]
    | cons g gs =>
      rw [intercalate_cons_cons, sql_append, sql_append, ih, sql_text]
      exact String.intercalate_cons_cons.symm

theorem sql_joinParenthesized (separator : String) (fs : List Fragment) :
    (joinParenthesized separator fs).sql = "(" ++ separator.intercalate (fs.map sql) ++ ")" := by
  simp [joinParenthesized, sql_intercalate]

theorem bindList_eq_intercalate (as : List Arg) : bindList as = intercalate "," (as.map bind) := by
  have hsql : (as.map bind).map Fragment.sql = List.replicate as.length "?" := by
    rw [List.map_map, ← List.map_const']
    rfl
  have hargs : (as.map bind).flatMap Fragment.args = as := by
    rw [List.flatMap_map]
    exact List.flatMap_singleton' as
  refine congrArg₂ Fragment.mk ?_ ?_
  · rw [sql_intercalate, hsql]
    rfl
  · rw [args_intercalate, hargs]

/-- The number of placeholders in a text. -/
def marks (s : String) : Nat := s.toList.count '?'

@[simp] theorem marks_append (s t : String) : marks (s ++ t) = marks s + marks t := by
  simp [marks]

theorem marks_eq_zero_iff {s : String} : marks s = 0 ↔ '?' ∉ s.toList := List.count_eq_zero

theorem placeholders_succ_succ (n : Nat) :
    placeholders (n + 2) = "?" ++ "," ++ placeholders (n + 1) := by
  rw [placeholders, List.replicate_succ, List.replicate_succ, String.intercalate_cons_cons]
  rfl

@[simp] theorem marks_placeholders (n : Nat) : marks (placeholders n) = n := by
  induction n with
  | zero => rfl
  | succ n ih =>
    cases n with
    | zero => rfl
    | succ n =>
      rw [placeholders_succ_succ, marks_append, ih, show marks ("?" ++ ",") = 1 from rfl]
      omega

theorem marks_intercalate {separator : String} (hs : marks separator = 0) {ss : List String}
    (h : ∀ s ∈ ss, marks s = 0) : marks (separator.intercalate ss) = 0 := by
  induction ss with
  | nil => rw [String.intercalate_nil]; rfl
  | cons s ss ih =>
    obtain ⟨hhead, htail⟩ := List.forall_mem_cons.1 h
    cases ss with
    | nil => rw [String.intercalate_singleton, hhead]
    | cons t ts =>
      rw [String.intercalate_cons_cons, marks_append, marks_append, hhead, hs, ih htail]

theorem marks_toString (n : Nat) : marks (toString n) = 0 := by
  rw [marks_eq_zero_iff, Nat.toString_eq_repr, Nat.toList_repr]
  intro h
  exact absurd (Nat.isDigit_of_mem_toDigits (by decide) (by decide) h) (by decide)

/-- One placeholder for each argument. -/
def Balanced (f : Fragment) : Prop := marks f.sql = f.args.length

theorem balanced_empty : Balanced empty := rfl

theorem balanced_text {s : String} (h : marks s = 0) : Balanced (text s) := h

theorem balanced_bind (a : Arg) : Balanced (bind a) := by
  rw [Balanced, sql_bind, args_bind]
  rfl

theorem balanced_bindList (as : List Arg) : Balanced (bindList as) := marks_placeholders as.length

theorem Balanced.append {f g : Fragment} (hf : Balanced f) (hg : Balanced g) : Balanced (f ++ g) := by
  unfold Balanced at hf hg ⊢
  rw [sql_append, args_append, marks_append, List.length_append, hf, hg]

theorem Balanced.intercalate {separator : String} (hs : marks separator = 0) {fs : List Fragment}
    (h : ∀ f ∈ fs, Balanced f) : Balanced (intercalate separator fs) := by
  induction fs with
  | nil => exact balanced_empty
  | cons f fs ih =>
    obtain ⟨hf, hfs⟩ := List.forall_mem_cons.1 h
    cases fs with
    | nil => exact hf
    | cons g gs => exact (hf.append (balanced_text hs)).append (ih hfs)

theorem Balanced.joinParenthesized {separator : String} (hs : marks separator = 0)
    {fs : List Fragment} (h : ∀ f ∈ fs, Balanced f) : Balanced (joinParenthesized separator fs) :=
  ((balanced_text rfl).append (Balanced.intercalate hs h)).append (balanced_text rfl)

end Fragment
end MetricsView
