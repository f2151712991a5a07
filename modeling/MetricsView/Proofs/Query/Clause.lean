import MetricsView.Proofs.Query.Agreement

/-! # The clauses around a filter

Columns and view, the bounds of a toplist, its order and its limit: each is told from what comes
after it. -/
namespace MetricsView

open Sql Fragment

namespace Fragment

theorem text_commaSeparated (names : List String) :
    text (commaSeparated names) = intercalate ", " (names.map text) := by
  have hsql : (names.map text).map sql = names := by
    rw [List.map_map]
    exact List.map_id names
  have hargs : (names.map text).flatMap args = [] := by
    rw [List.flatMap_map, List.flatMap_eq_nil_iff]
    exact fun _ _ => rfl
  refine congrArg₂ Fragment.mk ?_ ?_
  · rw [sql_intercalate, hsql]
    rfl
  · rw [args_intercalate, hargs]

end Fragment

namespace Toplist

def sortItem (s : SortSpec) : Fragment :=
  text (if s.ascending then s.name else s.name ++ " DESC")

/-- What comes after the condition. -/
def tail (sort : List SortSpec) (n : Nat) : Fragment :=
  text (" " ++ orderBy sort ++ " LIMIT " ++ toString n)

theorem tail_nil (n : Nat) : tail [] n = text "  LIMIT " ++ text (toString n) := by
  have hnil : " " ++ orderBy [] ++ " LIMIT " = "  LIMIT " := rfl
  rw [tail, hnil, text_append]

theorem tail_cons (s : SortSpec) (sort : List SortSpec) (n : Nat) : tail (s :: sort) n =
    text " ORDER BY " ++ (intercalate ", " ((s :: sort).map sortItem) ++
      (text " LIMIT " ++ text (toString n))) := by
  have hspace : " ORDER BY " = " " ++ "ORDER BY " := rfl
  rw [tail, orderBy, hspace]
  · simp only [text_append, text_commaSeparated, Fragment.append_assoc, List.map_map]
    rfl
  · simp

end Toplist
end MetricsView
