import Mathlib.Data.List.Forall2

/-! # Steps that may fail, one after the other -/
namespace MetricsView.Traversal

universe u v

variable {ε : Type v} {α β : Type u}

/-- Two steps succeed when the second succeeds on what the first gives. -/
theorem bind_eq_ok_iff {x : Except ε α} {f : α → Except ε β} {b : β} :
    x >>= f = .ok b ↔ ∃ a, x = .ok a ∧ f a = .ok b := by
  cases x with
  | error e => simp [bind, Except.bind]
  | ok a => simp [bind, Except.bind]

theorem pure_eq_ok_iff {a b : α} : (pure a : Except ε α) = .ok b ↔ a = b := by
  simp [pure, Except.pure]

/-- A guarded success. -/
theorem ite_eq_ok_iff {p : Prop} [Decidable p] {e : ε} {a b : α} :
    (if p then .ok a else .error e) = (.ok b : Except ε α) ↔ p ∧ a = b := by
  by_cases hp : p
  · simp [hp]
  · simp [hp]

/-- A traversal succeeds when every element does, and gives their results in order. -/
theorem mapM_eq_ok_iff {f : α → Except ε β} {xs : List α} {ys : List β} :
    xs.mapM f = .ok ys ↔ List.Forall₂ (fun x y => f x = .ok y) xs ys := by
  induction xs generalizing ys with
  | nil =>
    rw [List.mapM_nil, pure_eq_ok_iff, List.forall₂_nil_left_iff]
    exact eq_comm
  | cons x xs ih =>
    rw [List.mapM_cons, List.forall₂_cons_left_iff, bind_eq_ok_iff]
    constructor
    · rintro ⟨y, hy, h⟩
      obtain ⟨zs, hzs, h⟩ := bind_eq_ok_iff.1 h
      exact ⟨y, zs, hy, ih.1 hzs, (pure_eq_ok_iff.1 h).symm⟩
    · rintro ⟨y, zs, hy, hzs, rfl⟩
      exact ⟨y, hy, bind_eq_ok_iff.2 ⟨zs, ih.2 hzs, rfl⟩⟩

/-- A traversal by a step that is total on the elements it accepts. -/
theorem mapM_eq_ok_iff_of_total {f : α → Except ε β} {p : α → Prop} {g : α → β}
    (hf : ∀ x y, f x = .ok y ↔ p x ∧ y = g x) {xs : List α} {ys : List β} :
    xs.mapM f = .ok ys ↔ (∀ x ∈ xs, p x) ∧ ys = xs.map g := by
  rw [mapM_eq_ok_iff]
  induction xs generalizing ys with
  | nil => simp
  | cons x xs ih =>
    rw [List.forall₂_cons_left_iff]
    constructor
    · rintro ⟨y, zs, hy, hzs, rfl⟩
      obtain ⟨hp, rfl⟩ := (hf x y).1 hy
      obtain ⟨hps, rfl⟩ := ih.1 hzs
      exact ⟨List.forall_mem_cons.2 ⟨hp, hps⟩, rfl⟩
    · rintro ⟨hp, rfl⟩
      obtain ⟨hp, hps⟩ := List.forall_mem_cons.1 hp
      exact ⟨g x, xs.map g, (hf x _).2 ⟨hp, rfl⟩, ih.2 ⟨hps, rfl⟩, rfl⟩

/-- A traversal by a step that succeeds on every element. -/
theorem mapM_eq_pure {m : Type u → Type v} [Monad m] [LawfulMonad m] {f : α → m β} {g : α → β}
    {xs : List α} (h : ∀ x ∈ xs, f x = pure (g x)) : xs.mapM f = pure (xs.map g) := by
  induction xs with
  | nil => rw [List.mapM_nil, List.map_nil]
  | cons x xs ih =>
    obtain ⟨hx, hxs⟩ := List.forall_mem_cons.1 h
    rw [List.mapM_cons, hx, pure_bind, ih hxs, pure_bind, List.map_cons]

/-- An element of the first list has its partner in the second. -/
theorem exists_zip_of_mem {P : α → β → Prop} {xs : List α} {ys : List β}
    (h : List.Forall₂ P xs ys) {x : α} (hx : x ∈ xs) : ∃ y, (x, y) ∈ xs.zip ys ∧ P x y := by
  induction h with
  | nil => cases hx
  | cons hxy _ ih =>
    rcases List.mem_cons.1 hx with rfl | hx
    · exact ⟨_, List.mem_cons_self, hxy⟩
    · obtain ⟨y, hzip, hy⟩ := ih hx
      exact ⟨y, List.mem_cons_of_mem _ hzip, hy⟩

/-- Each element has its partner, if each has one. -/
theorem exists_forall₂ {P : α → β → Prop} {xs : List α} (h : ∀ x ∈ xs, ∃ y, P x y) :
    ∃ ys, List.Forall₂ P xs ys := by
  induction xs with
  | nil => exact ⟨[], .nil⟩
  | cons x xs ih =>
    obtain ⟨⟨y, hy⟩, hxs⟩ := List.forall_mem_cons.1 h
    obtain ⟨ys, hys⟩ := ih hxs
    exact ⟨y :: ys, .cons hy hys⟩

/-- What is cut in two on the left is cut in two on the right. -/
theorem exists_append_of_forall₂ {P : α → β → Prop} {xs xs' : List α} {ys : List β}
    (h : List.Forall₂ P (xs ++ xs') ys) :
    ∃ zs zs', ys = zs ++ zs' ∧ List.Forall₂ P xs zs ∧ List.Forall₂ P xs' zs' := by
  induction xs generalizing ys with
  | nil => exact ⟨[], ys, rfl, .nil, h⟩
  | cons x xs ih =>
    obtain ⟨y, rest, hy, hrest, rfl⟩ := List.forall₂_cons_left_iff.1 h
    obtain ⟨zs, zs', rfl, hzs, hzs'⟩ := ih hrest
    exact ⟨y :: zs, zs', rfl, .cons hy hzs, hzs'⟩

/-- Two steps fail when the first fails, or the second on what the first gives. -/
theorem bind_eq_error_iff {x : Except ε α} {f : α → Except ε β} {e : ε} :
    x >>= f = .error e ↔ x = .error e ∨ ∃ a, x = .ok a ∧ f a = .error e := by
  cases x with
  | error e => simp [bind, Except.bind]
  | ok a => simp [bind, Except.bind]

theorem map_eq_ok_iff {x : Except ε α} {f : α → β} {b : β} :
    x.map f = .ok b ↔ ∃ a, x = .ok a ∧ b = f a := by
  cases x <;> simp [Except.map, eq_comm]

theorem map_eq_error_iff {x : Except ε α} {f : α → β} {e : ε} :
    x.map f = .error e ↔ x = .error e := by
  cases x <;> simp [Except.map]

/-- A guarded success that fails. -/
theorem ite_eq_error_iff {p : Prop} [Decidable p] {e e' : ε} {a : α} :
    (if p then .ok a else .error e) = (.error e' : Except ε α) ↔ ¬ p ∧ e = e' := by
  by_cases hp : p
  · simp [hp]
  · simp [hp]

/-- What is wrong with a step, if anything is. -/
def fault? : Except ε α → Option ε
  | .ok _ => none
  | .error e => some e

theorem fault?_eq_some_iff {x : Except ε α} {e : ε} : fault? x = some e ↔ x = .error e := by
  cases x <;> simp [fault?]

theorem fault?_eq_none_iff {x : Except ε α} : fault? x = none ↔ ∃ a, x = .ok a := by
  cases x <;> simp [fault?]

/-- A traversal fails as the first element does that fails. -/
theorem mapM_eq_error_iff {f : α → Except ε β} {xs : List α} {e : ε} :
    xs.mapM f = .error e ↔ xs.findSome? (fun x => fault? (f x)) = some e := by
  induction xs with
  | nil => simp [pure, Except.pure]
  | cons x xs ih =>
    rw [List.mapM_cons, List.findSome?_cons, bind_eq_error_iff]
    cases hx : f x with
    | error e' => simp [fault?]
    | ok y =>
      rw [fault?, ← ih]
      simp [bind_eq_error_iff, pure, Except.pure]

theorem findSome?_fault?_eq_some_iff {f : α → Except ε β} {xs : List α} {e : ε} :
    xs.findSome? (fun x => fault? (f x)) = some e ↔ ∃ before x after,
      xs = before ++ x :: after ∧ (∀ y ∈ before, ∃ b, f y = .ok b) ∧ f x = .error e := by
  simp only [List.findSome?_eq_some_iff, fault?_eq_some_iff, fault?_eq_none_iff]
  exact ⟨fun ⟨before, x, after, h, hx, hbefore⟩ => ⟨before, x, after, h, hbefore, hx⟩,
    fun ⟨before, x, after, h, hbefore, hx⟩ => ⟨before, x, after, h, hx, hbefore⟩⟩

/-- A traversal succeeds if no element fails. -/
theorem exists_mapM_eq_ok_iff {f : α → Except ε β} {xs : List α} :
    (∃ ys, xs.mapM f = .ok ys) ↔ ∀ x ∈ xs, ∃ y, f x = .ok y := by
  constructor
  · rintro ⟨ys, h⟩ x hx
    obtain ⟨y, -, hy⟩ := exists_zip_of_mem (mapM_eq_ok_iff.1 h) hx
    exact ⟨y, hy⟩
  · intro h
    obtain ⟨ys, hys⟩ := exists_forall₂ h
    exact ⟨ys, mapM_eq_ok_iff.2 hys⟩

/-- The step fails if something is wrong, and then with what is first in the list. -/
def ReportsFirst (x : Except ε α) (faults : List ε) : Prop := fault? x = faults.head?

namespace ReportsFirst

variable {x : Except ε α} {faults : List ε}

theorem eq_error_iff (h : ReportsFirst x faults) {e : ε} :
    x = .error e ↔ faults.head? = some e := by
  rw [← h, fault?_eq_some_iff]

theorem exists_ok_iff (h : ReportsFirst x faults) : (∃ a, x = .ok a) ↔ faults = [] := by
  rw [← fault?_eq_none_iff, h, List.head?_eq_none_iff]

theorem of_head?_eq {others : List ε} (h : ReportsFirst x faults)
    (heads : faults.head? = others.head?) : ReportsFirst x others :=
  h.trans heads

protected theorem pure (a : α) : ReportsFirst (pure a : Except ε α) [] := rfl

/-- What is wrong with the first step is reported before what is wrong with the second. -/
protected theorem bind {f : α → Except ε β} {later : List ε} (h : ReportsFirst x faults)
    (hf : ∀ a, x = .ok a → ReportsFirst (f a) later) :
    ReportsFirst (x >>= f) (faults ++ later) := by
  unfold ReportsFirst at h ⊢
  rw [List.head?_append, ← h]
  cases x with
  | error e => rfl
  | ok a => exact hf a rfl

/-- Nothing goes wrong in the second step. -/
theorem bind_pure {g : α → β} (h : ReportsFirst x faults) :
    ReportsFirst (x >>= fun a => pure (g a)) faults := by
  have hbind := h.bind fun a _ => ReportsFirst.pure (g a)
  rwa [List.append_nil] at hbind

/-- What is wrong with one element is reported before what is wrong with those after it. -/
protected theorem mapM {f : α → Except ε β} {faultsOf : α → List ε} {xs : List α}
    (h : ∀ x ∈ xs, ReportsFirst (f x) (faultsOf x)) :
    ReportsFirst (xs.mapM f) (xs.flatMap faultsOf) := by
  induction xs with
  | nil => rfl
  | cons x xs ih =>
    obtain ⟨hx, hxs⟩ := List.forall_mem_cons.1 h
    rw [List.mapM_cons, List.flatMap_cons]
    exact hx.bind fun _ _ => (ih hxs).bind_pure

end ReportsFirst

variable {α' β' : Type u}

/-- Both succeed, with values that are related, or both fail in the same way. -/
inductive Matches (P : α → α' → Prop) : Except ε α → Except ε α' → Prop where
  | ok {a a'} (h : P a a') : Matches P (.ok a) (.ok a')
  | error (e) : Matches P (.error e) (.error e)

variable {P : α → α' → Prop} {Q : β → β' → Prop}

theorem Matches.bind {x : Except ε α} {x' : Except ε α'} (h : Matches P x x')
    {f : α → Except ε β} {f' : α' → Except ε β'} (hf : ∀ a a', P a a' → Matches Q (f a) (f' a')) :
    Matches Q (x >>= f) (x' >>= f') := by
  cases h with
  | ok h => exact hf _ _ h
  | error e => exact .error e

theorem Matches.map {x : Except ε α} {x' : Except ε α'} (h : Matches P x x') {f : α → β}
    {f' : α' → β'} (hf : ∀ a a', P a a' → Q (f a) (f' a')) :
    Matches Q (x.map f) (x'.map f') := by
  cases h with
  | ok h => exact .ok (hf _ _ h)
  | error e => exact .error e

/-- Two traversals match when they match at every element. -/
theorem matches_mapM {f : α → Except ε β} {f' : α' → Except ε β'} {xs : List α} {xs' : List α'}
    (h : List.Forall₂ (fun x x' => Matches Q (f x) (f' x')) xs xs') :
    Matches (List.Forall₂ Q) (xs.mapM f) (xs'.mapM f') := by
  induction h with
  | nil => exact .ok .nil
  | cons hx _ ih =>
    rw [List.mapM_cons, List.mapM_cons]
    refine hx.bind fun y y' hy => ih.bind fun ys ys' hys => ?_
    exact .ok (.cons hy hys)

end MetricsView.Traversal
