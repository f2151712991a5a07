import MetricsView.Proofs.Query.Arguments
import MetricsView.Proofs.Query.Content
import MetricsView.Proofs.Query.Meaning
import MetricsView.Proofs.Query.Shape

/-! # Filters that agree

Filters agree when, empty conditions apart, they have the same conditions in the same order. These
are the filters for which the same is written. The expression that a filter reads as would not do to
show it, since it does not tell one condition with two comparisons from two conditions. -/
namespace MetricsView

open Sql Fragment

namespace Check

/-- The values that the comparison is with. -/
def values : Check → List Arg
  | among a as => a :: as
  | _ => []

def isNull : Check → Bool
  | null => true
  | _ => false

end Check

namespace Condition

/-- The same comparisons with one dimension. How often null is listed, and where, does not
matter. -/
structure Agrees (c d : Condition) : Prop where
  name : c.name = d.name
  values : c.values.filter (!·.isNull) = d.values.filter (!·.isNull)
  null : FilterValue.null ∈ c.values ↔ FilterValue.null ∈ d.values
  patterns : c.patterns = d.patterns

private theorem isEmpty_checks {c : Condition} (h : c.Supported) :
    c.checks.isEmpty = c.isEmpty := by
  have hnil : c.checks = [] ↔ c.predicates = [] := by
    rw [checks, predicates, nullPredicates]
    cases c.values.filterMap FilterValue.arg? <;> simp [amongChecks, among]
  rw [Bool.eq_iff_iff, List.isEmpty_iff, hnil, predicates_eq_nil_iff h]

end Condition

namespace Filter

/-- Conditions that compare nothing apart, both filters have the same ones in the same order. -/
structure Agrees (f g : Filter) : Prop where
  included : List.Forall₂ Condition.Agrees (f.included.filter (!·.isEmpty))
    (g.included.filter (!·.isEmpty))
  excluded : List.Forall₂ Condition.Agrees (f.excluded.filter (!·.isEmpty))
    (g.excluded.filter (!·.isEmpty))

theorem contents_eq {cs : List Condition} (h : ∀ c ∈ cs, c.Supported) :
    contents cs = (cs.filter (!·.isEmpty)).map Condition.content := by
  rw [contents, List.filter_map]
  congr 1
  refine List.filter_congr fun c hc => ?_
  exact congrArg (!·) (Condition.isEmpty_checks (h c hc))

theorem fragment_eq_empty_or (f : Filter) :
    f.fragment = empty ∨ ∃ rest, f.fragment = text " AND (" ++ rest := by
  rw [fragment, sideFragment_eq, sideFragment_eq]
  cases contents f.included with
  | nil =>
    cases contents f.excluded with
    | nil => exact .inl rfl
    | cons p ps =>
      obtain ⟨rest, hrest⟩ := exists_written_cons_eq .excluded p ps empty
      rw [Fragment.append_empty] at hrest
      exact .inr ⟨_, hrest⟩
  | cons p ps =>
    obtain ⟨rest, hrest⟩ :=
      exists_written_cons_eq .included p ps (written .excluded (contents f.excluded))
    exact .inr ⟨_, hrest⟩

/-- The conditions of a filter have words for names. -/
def WellNamed (f : Filter) : Prop := ∀ c ∈ f.included ++ f.excluded, IsWord c.name

instance (f : Filter) : Decidable f.WellNamed := inferInstanceAs (Decidable (∀ _ ∈ _, _))

end Filter

end MetricsView
