import MetricsView.Proofs.Query.Spelling

/-! # The conditions that a filter is written from

A condition is written as its comparisons are, and a side of the filter as its conditions. From
what is written for a filter, arguments included, all conditions that compare anything can be
told. -/
namespace MetricsView

open Sql Fragment

/-- A comparison of a condition: with one or more values, with null or with a pattern. -/
inductive Check where
  | among (a : Arg) (as : List Arg)
  | null
  | like (a : Arg)

namespace Check

inductive Form where
  | among | null | like
  deriving DecidableEq

def form : Check → Form
  | among _ _ => .among
  | null => .null
  | like _ => .like

/-- What stands between the dimension and the operands. -/
def Form.operator (side : Side) : Form → String
  | among => " " ++ side.negation ++ " IN ("
  | null => side.nullTest
  | like => " " ++ side.negation ++ " ILIKE "

/-- No operator begins with another one, on whatever side. -/
theorem Form.operator_unique {s t : Side} {f g : Form}
    (h : (f.operator s).toList <+: (g.operator t).toList ∨
      (g.operator t).toList <+: (f.operator s).toList) : s = t ∧ f = g := by
  revert h
  cases s <;> cases t <;> cases f <;> cases g <;> decide

def operands : Check → Fragment
  | among a as => bindList (a :: as) ++ text ")"
  | null => empty
  | like a => bind a

def fragment (side : Side) (name : String) (k : Check) : Fragment :=
  text name ++ (text (k.form.operator side) ++ k.operands)

theorem boundary_operator (s : Side) (f : Form) (x : Fragment) :
    Boundary (text (f.operator s) ++ x).sql.toList := by
  refine (opens_text_append _ x).boundary ?_
  cases s <;> cases f <;> decide

private theorem legible_bindList : Legible (fun as => as ≠ []) bindList (Opens ")") := by
  have hbinds : Legible (fun as => as ≠ [] ∧ ∀ a ∈ as, True)
      (fun as => intercalate "," (as.map bind)) (Opens ")") :=
    legible_bind.intercalate (fun _ => trivial) fun x hx => ⟨trivial, hx.not_opens (by decide)⟩
  intro as bs x y has hbs hx hy h
  rw [bindList_eq_intercalate, bindList_eq_intercalate] at h
  exact hbinds ⟨has, fun _ _ => trivial⟩ ⟨hbs, fun _ _ => trivial⟩ hx hy h

/-- A comparison shows its side, its dimension and its operands, whatever follows. -/
theorem fragment_append_inj {s t : Side} {n m : String} {j k : Check} {x y : Fragment}
    (hn : IsWord n) (hm : IsWord m) (h : j.fragment s n ++ x = k.fragment t m ++ y) :
    s = t ∧ n = m ∧ j = k := by
  simp only [fragment, Fragment.append_assoc] at h
  obtain ⟨rfl, hrest⟩ := legible_word.eq_and_eq hn hm (boundary_operator s j.form _)
    (boundary_operator t k.form _) h
  obtain ⟨rfl, hform⟩ := Form.operator_unique (comparable_of_text_append hrest)
  rw [hform] at hrest
  have hoperands := append_left_cancel hrest
  refine ⟨rfl, rfl, ?_⟩
  cases j <;> cases k <;> cases hform
  · simp only [operands, Fragment.append_assoc] at hoperands
    have hargs := legible_bindList (List.cons_ne_nil _ _) (List.cons_ne_nil _ _)
      (opens_text_append _ _) (opens_text_append _ _) hoperands
    obtain ⟨rfl, rfl⟩ := List.cons.inj hargs
    rfl
  · rfl
  · rw [legible_bind trivial trivial trivial trivial hoperands]

end Check

namespace Condition

/-- What a condition is written from. -/
abbrev Content := String × List Check

def amongChecks : List Arg → List Check
  | [] => []
  | a :: as => [.among a as]

def checks (c : Condition) : List Check :=
  amongChecks (c.values.filterMap FilterValue.arg?)
    ++ (if c.values.any fun v => v.arg?.isNone then [.null] else [])
    ++ (c.patterns.filterMap FilterValue.arg?).map .like

def content (c : Condition) : Content := (c.name, c.checks)

private theorem comparisons_eq (side : Side) (c : Condition) :
    c.comparisons side = c.checks.map (Check.fragment side c.name) := by
  have hmembership : c.membership side =
      (amongChecks (c.values.filterMap FilterValue.arg?)).map (Check.fragment side c.name) := by
    unfold membership
    cases c.values.filterMap FilterValue.arg? with
    | nil => rfl
    | cons a as =>
      simp only [amongChecks, List.map_cons, List.map_nil, Check.fragment, Check.form,
        Check.Form.operator, Check.operands, text_append, Fragment.append_assoc]
  have hnull : c.nullTest side = (if c.values.any fun v => v.arg?.isNone then [Check.null]
      else []).map (Check.fragment side c.name) := by
    unfold nullTest
    split
    · simp only [List.map_cons, List.map_nil, Check.fragment, Check.form, Check.Form.operator,
        Check.operands, text_append, Fragment.append_empty]
    · rfl
  have hlike : c.likeTest side = Check.fragment side c.name ∘ .like := by
    funext a
    simp only [likeTest, Function.comp, Check.fragment, Check.form, Check.Form.operator,
      Check.operands, text_append, Fragment.append_assoc]
  rw [comparisons, checks, List.map_append, List.map_append, hmembership, hnull, hlike,
    List.map_map]

/-- The expression of a condition with these comparisons. -/
def part (side : Side) (p : Content) : Fragment :=
  (joined side (p.2.map (Check.fragment side p.1))).getD .empty

theorem part_single (side : Side) (n : String) (k : Check) : part side (n, [k]) =
    text n ++ (text (k.form.operator side) ++ k.operands) := rfl

theorem part_many (side : Side) (n : String) (j k : Check) (ks : List Check) :
    part side (n, j :: k :: ks) = text "(" ++
      (intercalate side.connective ((j :: k :: ks).map (Check.fragment side n)) ++ text ")") :=
  Fragment.append_assoc ..

/-- A content that something is written for. -/
structure Writable (p : Content) : Prop where
  name : IsWord p.1
  checks : p.2 ≠ []

/-- A name is no parenthesis. -/
theorem name_append_ne_paren {n : String} (hn : IsWord n) (x y : Fragment) :
    text n ++ x ≠ text "(" ++ y := by
  intro h
  have hmem : '(' ∈ n.toList := by
    rcases comparable_of_text_append h with hprefix | hprefix
    · cases hname : n.toList with
      | nil => exact absurd (String.toList_eq_nil_iff.1 hname) hn.1
      | cons c cs =>
        rw [hname] at hprefix
        obtain ⟨rfl, -⟩ := List.cons_prefix_cons.1 hprefix
        exact List.mem_cons_self
    · exact hprefix.subset (List.mem_singleton_self _)
  exact absurd (List.all_eq_true.1 hn.2 _ hmem) (by decide)

private theorem legible_check {n : String} (hn : IsWord n) (side : Side) :
    Legible (fun _ => True) (Check.fragment side n) fun _ => True := fun _ _ _ _ _ _ _ _ h =>
  (Check.fragment_append_inj hn hn h).2.2

theorem not_opens_connective (side : Side) {x : Fragment} (hx : Opens ")" x) :
    ¬ Opens side.connective x := by
  refine hx.not_opens ?_
  cases side <;> decide

/-- A condition shows its side and its content, whatever follows. -/
theorem part_append_inj {s t : Side} {p q : Content} {x y : Fragment} (hp : Writable p)
    (hq : Writable q) (h : part s p ++ x = part t q ++ y) : s = t ∧ p = q := by
  obtain ⟨n, ks⟩ := p
  obtain ⟨m, ls⟩ := q
  have hn : IsWord n := hp.name
  have hm : IsWord m := hq.name
  match ks, ls with
  | [], _ => exact absurd rfl hp.checks
  | _, [] => exact absurd rfl hq.checks
  | [k], [l] =>
    obtain ⟨rfl, rfl, rfl⟩ := Check.fragment_append_inj hn hm h
    exact ⟨rfl, rfl⟩
  | [k], l :: l' :: ls =>
    simp only [part_single, part_many, Fragment.append_assoc] at h
    exact absurd h (name_append_ne_paren hn _ _)
  | k :: k' :: ks, [l] =>
    simp only [part_single, part_many, Fragment.append_assoc] at h
    exact absurd h.symm (name_append_ne_paren hm _ _)
  | k :: k' :: ks, l :: l' :: ls =>
    simp only [part_many, Fragment.append_assoc] at h
    have hlists := append_left_cancel h
    obtain ⟨rfl, rfl, -⟩ : s = t ∧ n = m ∧ k = l := by
      simp only [List.map_cons, intercalate_cons_cons, Fragment.append_assoc] at hlists
      exact Check.fragment_append_inj hn hm hlists
    have hlegible := (legible_check hn s).intercalate (fun _ => trivial)
      fun x hx => ⟨trivial, not_opens_connective s hx⟩
    have hchecks := hlegible ⟨List.cons_ne_nil _ _, fun _ _ => trivial⟩
      ⟨List.cons_ne_nil _ _, fun _ _ => trivial⟩ (opens_text_append _ _) (opens_text_append _ _)
      hlists
    exact ⟨rfl, by rw [hchecks]⟩

end Condition

namespace Filter

open Condition (Content Writable part part_append_inj)

/-- The contents of the conditions that compare anything. -/
def contents (cs : List Condition) : List Content :=
  (cs.map Condition.content).filter fun p => !p.2.isEmpty

private theorem parts_eq (side : Side) (cs : List Condition) :
    parts side cs = (contents cs).map (part side) := by
  induction cs with
  | nil => rfl
  | cons c cs ih =>
    have hpart : c.part? side = if c.checks.isEmpty then none else some (part side c.content) := by
      rw [Condition.part?, Condition.comparisons_eq, part, Condition.content]
      cases c.checks with
      | nil => rfl
      | cons k ks => cases ks <;> rfl
    unfold parts contents at ih ⊢
    rw [List.filterMap_cons, hpart, List.map_cons, List.filter_cons]
    cases hempty : c.checks.isEmpty <;> simp [Condition.content, hempty, ih]

theorem writable_of_mem_contents {cs : List Condition} (h : ∀ c ∈ cs, IsWord c.name) :
    ∀ p ∈ contents cs, Writable p := by
  intro p hp
  obtain ⟨hmem, hchecks⟩ := List.mem_filter.1 hp
  obtain ⟨c, hc, rfl⟩ := List.mem_map.1 hmem
  exact ⟨h c hc, by simpa using hchecks⟩

/-- What is written for a side with these contents. -/
def written (side : Side) (ps : List Content) : Fragment := conjunct side (ps.map (part side))

theorem sideFragment_eq (side : Side) (cs : List Condition) :
    sideFragment side cs = written side (contents cs) := by
  rw [sideFragment, parts_eq, written]

theorem written_cons (side : Side) (p : Content) (ps : List Content) (x : Fragment) :
    written side (p :: ps) ++ x = text " AND (" ++
      (intercalate side.connective ((p :: ps).map (part side)) ++ (text ")" ++ x)) := by
  have hopen : " AND (" = " AND " ++ "(" := rfl
  rw [written, List.map_cons, conjunct_cons, joinParenthesized, hopen, text_append]
  simp only [Fragment.append_assoc]

theorem exists_written_cons_eq (side : Side) (p : Content) (ps : List Content) (x : Fragment) :
    ∃ rest, written side (p :: ps) ++ x = text " AND (" ++ (part side p ++ rest) := by
  rw [written_cons]
  cases ps with
  | nil => exact ⟨_, rfl⟩
  | cons q qs =>
    refine ⟨text side.connective ++ (intercalate side.connective ((q :: qs).map (part side))
      ++ (text ")" ++ x)), ?_⟩
    rw [List.map_cons, List.map_cons, intercalate_cons_cons]
    simp only [Fragment.append_assoc]

/-- The fragment goes on with a condition of the side. -/
def OpensSide (side : Side) (x : Fragment) : Prop :=
  ∃ p rest, Writable p ∧ x = text " AND (" ++ (part side p ++ rest)

theorem legible_written (side : Side) :
    Legible (fun ps => ∀ p ∈ ps, Writable p) (written side) fun x => ¬ OpensSide side x := by
  have hopens (p : Content) (ps : List Content) (hp : Writable p) (x : Fragment) :
      OpensSide side (written side (p :: ps) ++ x) := by
    obtain ⟨rest, hrest⟩ := exists_written_cons_eq side p ps x
    exact ⟨p, rest, hp, hrest⟩
  have hparts : Legible Writable (part side) fun _ => True := fun _ _ _ _ hp hq _ _ h =>
    (part_append_inj hp hq h).2
  have hlegible := hparts.intercalate (fun _ => trivial)
    fun x hx => ⟨trivial, Condition.not_opens_connective side hx⟩
  intro ps qs x y hps hqs hx hy h
  cases ps with
  | nil =>
    cases qs with
    | nil => rfl
    | cons q qs =>
      have hx' : x = written side (q :: qs) ++ y := (Fragment.empty_append x).symm.trans h
      exact absurd (hx' ▸ hopens q qs (List.forall_mem_cons.1 hqs).1 y) hx
  | cons p ps =>
    cases qs with
    | nil =>
      have hy' : written side (p :: ps) ++ x = y := h.trans (Fragment.empty_append y)
      exact absurd (hy' ▸ hopens p ps (List.forall_mem_cons.1 hps).1 x) hy
    | cons q qs =>
      rw [written_cons, written_cons] at h
      exact hlegible ⟨List.cons_ne_nil _ _, hps⟩ ⟨List.cons_ne_nil _ _, hqs⟩
        (opens_text_append _ _) (opens_text_append _ _) (append_left_cancel h)

theorem not_opensSide_of_not_opens {side : Side} {x : Fragment} (h : ¬ Opens " AND (" x) :
    ¬ OpensSide side x := by
  rintro ⟨p, rest, -, rfl⟩
  exact h (opens_text_append _ _)

/-- What is excluded is not taken for something included. -/
theorem not_opensSide_included {ps : List Content} (hps : ∀ p ∈ ps, Writable p) {x : Fragment}
    (hx : ¬ Opens " AND (" x) : ¬ OpensSide .included (written .excluded ps ++ x) := by
  cases ps with
  | nil => exact (Fragment.empty_append x).symm ▸ not_opensSide_of_not_opens hx
  | cons p ps =>
    rintro ⟨q, rest, hq, heq⟩
    obtain ⟨rest', hrest'⟩ := exists_written_cons_eq .excluded p ps x
    rw [hrest'] at heq
    have hside := (part_append_inj (List.forall_mem_cons.1 hps).1 hq (append_left_cancel heq)).1
    cases hside

/-- A filter shows the contents of both its sides, before anything that is not another conjunct. -/
theorem fragment_append_inj {f g : Filter} {x y : Fragment}
    (hf : ∀ c ∈ f.included ++ f.excluded, IsWord c.name)
    (hg : ∀ c ∈ g.included ++ g.excluded, IsWord c.name) (hx : ¬ Opens " AND (" x)
    (hy : ¬ Opens " AND (" y) (h : f.fragment ++ x = g.fragment ++ y) :
    (contents f.included = contents g.included ∧ contents f.excluded = contents g.excluded) ∧
      x = y := by
  obtain ⟨hfi, hfe⟩ := List.forall_mem_append.1 hf
  obtain ⟨hgi, hge⟩ := List.forall_mem_append.1 hg
  have hfe := writable_of_mem_contents hfe
  have hge := writable_of_mem_contents hge
  simp only [fragment, sideFragment_eq, Fragment.append_assoc] at h
  obtain ⟨hincluded, hrest⟩ := (legible_written .included).eq_and_eq (writable_of_mem_contents hfi)
    (writable_of_mem_contents hgi) (not_opensSide_included hfe hx) (not_opensSide_included hge hy) h
  obtain ⟨hexcluded, hend⟩ := (legible_written .excluded).eq_and_eq hfe hge
    (not_opensSide_of_not_opens hx) (not_opensSide_of_not_opens hy) hrest
  exact ⟨⟨hincluded, hexcluded⟩, hend⟩

end Filter
end MetricsView
