import Mathlib.Data.Setoid.Basic
import MetricsView.Proofs.Query.Agreement

/-! # Edits that leave the content of a filter

Where null is listed among the values of a condition and how often, and which conditions are empty,
is not content. The clause of a filter is the same after any edits of these, and it fails in the
same way. -/
namespace MetricsView

open Relation (EqvGen)
open Traversal

/-- A null is moved to a later place, or one more is put in where there is one. -/
inductive FilterValue.NullEdit : List FilterValue → List FilterValue → Prop where
  | move (before between after : List FilterValue) :
      NullEdit (before ++ .null :: (between ++ after)) (before ++ (between ++ .null :: after))
  | again (before after : List FilterValue) (h : .null ∈ before ++ after) :
      NullEdit (before ++ after) (before ++ .null :: after)

namespace FilterValue.NullEdit

variable {vs ws : List FilterValue}

private theorem filterMap_arg?_eq (h : NullEdit vs ws) : vs.filterMap arg? = ws.filterMap arg? := by
  cases h with
  | move before between after => simp [List.filterMap_cons, arg?]
  | again before after => simp [List.filterMap_cons, arg?]

private theorem null_mem_iff (h : NullEdit vs ws) : .null ∈ vs ↔ .null ∈ ws := by
  cases h with
  | move before between after => simp
  | again before after h => simpa using List.mem_append.1 h

end FilterValue.NullEdit

namespace Condition

/-- One edit of a list of conditions: an empty one is dropped, or the nulls of one are edited. -/
inductive Edit : List Condition → List Condition → Prop where
  | drop (before after : List Condition) (c : Condition) (h : c.isEmpty) :
      Edit (before ++ c :: after) (before ++ after)
  | nulls (before after : List Condition) (name : String) (patterns : List FilterValue)
      {vs ws : List FilterValue} (h : FilterValue.NullEdit vs ws) :
      Edit (before ++ ⟨name, vs, patterns⟩ :: after) (before ++ ⟨name, ws, patterns⟩ :: after)

private theorem clause?_of_isEmpty {c : Condition} (h : c.isEmpty) (side : Side) :
    c.clause? side = pure none := by
  obtain ⟨name, values, patterns⟩ := c
  obtain ⟨hvalues, hpatterns⟩ : values = [] ∧ patterns = [] := by simpa [isEmpty] using h
  subst hvalues hpatterns
  rfl

theorem supported_of_isEmpty {c : Condition} (h : c.isEmpty) : c.Supported := by
  intro p hp
  rw [isEmpty, Bool.and_eq_true, List.isEmpty_iff, List.isEmpty_iff] at h
  rw [h.2] at hp
  cases hp

/-- Of the values it matters which arguments they give, and whether null is among them. -/
theorem clause?_congr {name : String} {vs ws patterns : List FilterValue}
    (hargs : vs.filterMap FilterValue.arg? = ws.filterMap FilterValue.arg?)
    (hnull : FilterValue.null ∈ vs ↔ FilterValue.null ∈ ws) (side : Side) :
    (Condition.mk name vs patterns).clause? side = (Condition.mk name ws patterns).clause? side := by
  have hany : (vs.any fun v => v.arg?.isNone) = ws.any fun v => v.arg?.isNone :=
    Bool.eq_iff_iff.2 (any_isNone_arg?_iff.trans (hnull.trans any_isNone_arg?_iff.symm))
  have hpattern : (Condition.mk name vs patterns).patternTest side =
      (Condition.mk name ws patterns).patternTest side := rfl
  simp only [clause?, tests, membership, nullTest, hargs, hany, hpattern]

/-- All empty conditions can be dropped, one after the other. -/
theorem eqvGen_filter (before cs : List Condition) :
    EqvGen Edit (before ++ cs) (before ++ cs.filter (!·.isEmpty)) := by
  induction cs generalizing before with
  | nil => exact .refl _
  | cons c cs ih =>
    cases hc : c.isEmpty with
    | true =>
      rw [List.filter_cons_of_neg (by simp [hc])]
      exact .trans _ _ _ (.rel _ _ (.drop before cs c hc)) (ih before)
    | false =>
      rw [List.filter_cons_of_pos (by simp [hc])]
      have hrest := ih (before ++ [c])
      rwa [List.append_assoc, List.append_assoc] at hrest

end Condition

namespace Filter

open Condition (clause?)

/-- A condition that has no clause leaves no trace. -/
theorem sideClause_of_clause?_eq_none {side : Side} {c : Condition}
    (h : c.clause? side = pure none) (before after : List Condition) :
    sideClause side (before ++ c :: after) = sideClause side (before ++ after) := by
  simp only [sideClause, List.mapM_append, List.mapM_cons, h, bind_assoc, pure_bind,
    List.filterMap_append, List.filterMap_cons, id]

private theorem sideClause_congr {side : Side} {c d : Condition}
    (h : c.clause? side = d.clause? side) (before after : List Condition) :
    sideClause side (before ++ c :: after) = sideClause side (before ++ d :: after) := by
  simp only [sideClause, List.mapM_append, List.mapM_cons, h]

theorem sideClause_edit {cs ds : List Condition} (h : Condition.Edit cs ds) (side : Side) :
    sideClause side cs = sideClause side ds := by
  cases h with
  | drop before after c h =>
    exact sideClause_of_clause?_eq_none (Condition.clause?_of_isEmpty h side) before after
  | nulls before after name patterns h =>
    exact sideClause_congr (Condition.clause?_congr h.filterMap_arg?_eq h.null_mem_iff side)
      before after

/-- One edit on one of the sides. -/
inductive Edit : Filter → Filter → Prop where
  | included {cs ds : List Condition} (h : Condition.Edit cs ds) (excluded : List Condition) :
      Edit ⟨cs, excluded⟩ ⟨ds, excluded⟩
  | excluded (included : List Condition) {cs ds : List Condition} (h : Condition.Edit cs ds) :
      Edit ⟨included, cs⟩ ⟨included, ds⟩

private theorem clause_edit {f g : Filter} (h : Edit f g) : f.clause = g.clause := by
  cases h with
  | included h excluded => rw [clause, clause, sideClause_edit h]
  | excluded included h => rw [clause, clause, sideClause_edit h]

theorem clause_edits {f g : Filter} (h : EqvGen Edit f g) : f.clause = g.clause :=
  Setoid.eqvGen_le (s := Setoid.ker clause) (fun _ _ => clause_edit) h

/-- The filter without its empty conditions. -/
def compact (f : Filter) : Filter :=
  ⟨f.included.filter (!·.isEmpty), f.excluded.filter (!·.isEmpty)⟩

private theorem eqvGen_included {cs ds : List Condition} (h : EqvGen Condition.Edit cs ds)
    (excluded : List Condition) : EqvGen Edit ⟨cs, excluded⟩ ⟨ds, excluded⟩ :=
  Setoid.eqvGen_le (s := (EqvGen.setoid Edit).comap fun cs => ⟨cs, excluded⟩)
    (fun _ _ h => .rel _ _ (.included h excluded)) h

private theorem eqvGen_excluded (included : List Condition) {cs ds : List Condition}
    (h : EqvGen Condition.Edit cs ds) : EqvGen Edit ⟨included, cs⟩ ⟨included, ds⟩ :=
  Setoid.eqvGen_le (s := (EqvGen.setoid Edit).comap fun cs => ⟨included, cs⟩)
    (fun _ _ h => .rel _ _ (.excluded included h)) h

private theorem eqvGen_compact (f : Filter) : EqvGen Edit f f.compact :=
  .trans _ _ _ (eqvGen_included (Condition.eqvGen_filter [] f.included) f.excluded)
    (eqvGen_excluded _ (Condition.eqvGen_filter [] f.excluded))

theorem written_eq_empty_iff {side : Side} {ps : List Condition.Content} :
    written side ps = .empty ↔ ps = [] := by
  cases ps with
  | nil => exact iff_of_true rfl rfl
  | cons p ps =>
    refine iff_of_false (fun h => ?_) (List.cons_ne_nil p ps)
    obtain ⟨rest, hrest⟩ := exists_written_cons_eq side p ps .empty
    rw [Fragment.append_empty, h] at hrest
    exact absurd (congrArg (fun x => x.sql.toList) hrest) (by simp)

theorem sideFragment_eq_empty_iff {side : Side} {cs : List Condition}
    (h : ∀ c ∈ cs, c.Supported) : sideFragment side cs = .empty ↔ ∀ c ∈ cs, c.isEmpty := by
  rw [sideFragment_eq, written_eq_empty_iff, contents_eq h, List.map_eq_nil_iff,
    List.filter_eq_nil_iff]
  simp

private theorem supported_of_forall_isEmpty {f : Filter}
    (h : ∀ c ∈ f.included ++ f.excluded, c.isEmpty) : f.Supported := by
  obtain ⟨hincluded, hexcluded⟩ := List.forall_mem_append.1 h
  exact ⟨fun c hc => Condition.supported_of_isEmpty (hincluded c hc),
    fun c hc => Condition.supported_of_isEmpty (hexcluded c hc)⟩

theorem fragment_eq_empty_iff {f : Filter} (h : f.Supported) :
    f.fragment = .empty ↔ ∀ c ∈ f.included ++ f.excluded, c.isEmpty := by
  rw [fragment, Fragment.append_eq_empty_iff, sideFragment_eq_empty_iff h.1,
    sideFragment_eq_empty_iff h.2, List.forall_mem_append]

theorem clause_eq_empty_iff {f : Filter} :
    f.clause = .ok .empty ↔ ∀ c ∈ f.included ++ f.excluded, c.isEmpty := by
  rw [clause_eq_ok_iff]
  constructor
  · rintro ⟨hsupported, hempty⟩
    exact (fragment_eq_empty_iff hsupported).1 hempty.symm
  · intro h
    have hsupported := supported_of_forall_isEmpty h
    exact ⟨hsupported, ((fragment_eq_empty_iff hsupported).2 h).symm⟩

/-- There are no arguments without text. -/
theorem isEmpty_iff_of_clause {f : Filter} {x : Fragment} (h : f.clause = .ok x) :
    x.isEmpty ↔ x = .empty := by
  obtain ⟨-, rfl⟩ := clause_eq_ok_iff.1 h
  rcases f.fragment_eq_empty_or with hempty | ⟨rest, hrest⟩
  · rw [hempty]
    exact iff_of_true rfl rfl
  · rw [hrest, Fragment.append_eq_empty_iff, Fragment.isEmpty]
    simp [Fragment.eq_iff]

theorem clause_eq_sides (f : Filter) : f.clause = (do
    let included ← (Filter.mk f.included []).clause
    let excluded ← (Filter.mk [] f.excluded).clause
    return included ++ excluded) := by
  have hnil (side : Side) : sideClause side [] = pure .empty := rfl
  simp only [clause, hnil, bind_assoc, pure_bind, Fragment.append_empty, Fragment.empty_append]

/-- What the clause of a filter depends on. -/
structure ClauseByContent (f : Filter) : Prop where
  /-- The clause is the same, or the error is, after any edits and with any edits undone. -/
  edits : ∀ g, EqvGen Edit f g → g.clause = f.clause
  compact : f.compact.clause = f.clause
  empty_iff : f.clause = .ok .empty ↔ ∀ c ∈ f.included ++ f.excluded, c.isEmpty
  isEmpty_iff : ∀ x, f.clause = .ok x → (x.isEmpty ↔ x = .empty)
  /-- Each side is written as if it were alone. -/
  sides : f.clause = (do
    let included ← (Filter.mk f.included []).clause
    let excluded ← (Filter.mk [] f.excluded).clause
    return included ++ excluded)

theorem clause_byContent (f : Filter) : f.ClauseByContent where
  edits _ h := (clause_edits h).symm
  compact := (clause_edits f.eqvGen_compact).symm
  empty_iff := clause_eq_empty_iff
  isEmpty_iff _ := isEmpty_iff_of_clause
  sides := f.clause_eq_sides

/-- An empty condition leaves no trace, and of several nulls one is as good as another. -/
example : (Filter.mk [⟨"os", [], []⟩, ⟨"site", [.null, .string "a", .null], []⟩] []).clause =
    (Filter.mk [⟨"site", [.string "a", .null], []⟩] []).clause := by rfl

end Filter
end MetricsView
