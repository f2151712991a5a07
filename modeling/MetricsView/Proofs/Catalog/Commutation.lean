import MetricsView.Proofs.Catalog.Isolation

/-! # Writes under different keys

The writes of two clients may come in any order, as long as each client keeps to its own order and
no key is written by both. Each write then has the result that it would have if one client went
first and the other one after it, and no later deed can tell the difference. -/
namespace MetricsView

/-- `zs` has the elements of `xs` and `ys`, each of the two in its order. -/
inductive Interleaves {α : Type} : List α → List α → List α → Prop where
  | nil : Interleaves [] [] []
  | left {x xs ys zs} (h : Interleaves xs ys zs) : Interleaves (x :: xs) ys (x :: zs)
  | right {y xs ys zs} (h : Interleaves xs ys zs) : Interleaves xs (y :: ys) (y :: zs)

namespace Interleaves

variable {α : Type} {xs ys zs : List α} {p q : α → Bool}

theorem swap (h : Interleaves xs ys zs) : Interleaves ys xs zs := by
  induction h with
  | nil => exact .nil
  | left _ ih => exact .right ih
  | right _ ih => exact .left ih

private theorem mem_or_mem (h : Interleaves xs ys zs) {z : α} (hz : z ∈ zs) : z ∈ xs ∨ z ∈ ys := by
  induction h with
  | nil => cases hz
  | left _ ih =>
    rcases List.mem_cons.1 hz with rfl | hz
    · exact .inl List.mem_cons_self
    · exact (ih hz).imp_left (List.mem_cons_of_mem _)
  | right _ ih =>
    rcases List.mem_cons.1 hz with rfl | hz
    · exact .inr List.mem_cons_self
    · exact (ih hz).imp_right (List.mem_cons_of_mem _)

theorem append (xs ys : List α) : Interleaves xs ys (xs ++ ys) := by
  induction xs with
  | nil =>
    induction ys with
    | nil => exact .nil
    | cons y ys ih => exact .right ih
  | cons x xs ih => exact .left ih

theorem filter_eq (h : Interleaves xs ys zs) (hx : ∀ x ∈ xs, p x) (hy : ∀ y ∈ ys, ¬ p y) :
    zs.filter p = xs := by
  induction h with
  | nil => rfl
  | left _ ih =>
    obtain ⟨hhead, hxs⟩ := List.forall_mem_cons.1 hx
    rw [List.filter_cons_of_pos hhead, ih hxs hy]
  | right _ ih =>
    obtain ⟨hhead, hys⟩ := List.forall_mem_cons.1 hy
    rw [List.filter_cons_of_neg hhead, ih hx hys]

/-- Two tests of which each element passes exactly one. -/
theorem filter (h : ∀ z ∈ zs, q z ↔ ¬ p z) : Interleaves (zs.filter p) (zs.filter q) zs := by
  induction zs with
  | nil => exact .nil
  | cons z zs ih =>
    obtain ⟨hz, hzs⟩ := List.forall_mem_cons.1 h
    by_cases hp : p z
    · have hq : ¬ q z := fun hq => hz.1 hq hp
      rw [List.filter_cons_of_pos hp, List.filter_cons_of_neg hq]
      exact .left (ih hzs)
    · rw [List.filter_cons_of_neg hp, List.filter_cons_of_pos (hz.2 hp)]
      exact .right (ih hzs)

end Interleaves

namespace Store

variable {R : Instant → Instant → Prop} {codec : Codec} {s : Store}

/-- The key that the deed writes under, if it writes. -/
def Deed.key? : Deed → Option (String × String)
  | write w => some w.key
  | read _ => none

/-- The act writes under one of the keys that the test picks out. -/
def Act.writesIn (K : String × String → Bool) (x : Act) : Bool := x.deed.key?.any K

theorem separates_writesIn (K : String × String → Bool) :
    Separates {k | K k} (Act.writesIn K) := by
  intro x
  obtain ⟨d, now⟩ := x
  cases d with
  | write w => exact ⟨id, id⟩
  | read r => exact ⟨fun hr => absurd hr Bool.false_ne_true, fun _ => trivial⟩

theorem seen_account (codec : Codec) (s : Store) {p : Act → Bool} {xs : List Act}
    (h : ∀ x ∈ xs, p x) : seen p (s.account codec xs) = s.account codec xs := by
  apply List.filter_eq_self.2
  intro e he
  apply h
  rw [← s.map_act_account codec xs]
  exact List.mem_map_of_mem he

theorem seen_account_eq_nil (codec : Codec) (s : Store) {p : Act → Bool} {xs : List Act}
    (h : ∀ x ∈ xs, ¬ p x) : seen p (s.account codec xs) = [] := by
  apply List.filter_eq_nil_iff.2
  intro e he
  apply h
  rw [← s.map_act_account codec xs]
  exact List.mem_map_of_mem he

theorem map_act_seen (codec : Codec) (s : Store) (p : Act → Bool) (xs : List Act) :
    (seen p (s.account codec xs)).map Occurrence.act = xs.filter p := by
  conv_rhs => rw [← s.map_act_account codec xs, List.filter_map]
  rfl

/-- Stores that agree on all keys can not be told apart by what is done to them. -/
theorem AgreesOn.account {s' : Store} (h : AgreesOn R Set.univ s s') (hd : s.Distinct)
    (hd' : s'.Distinct) (hR : ∀ t, R t t) {xs ys : List Act}
    (hxs : List.Forall₂ (Act.Agrees R) xs ys) :
    List.Forall₂ (Occurrence.Agrees R) (s.account codec xs) (s'.account codec ys) := by
  have hall : Separates Set.univ fun _ => true := by
    intro x
    obtain ⟨d, now⟩ := x
    cases d with
    | write w => exact ⟨fun _ => Set.mem_univ _, fun hno => absurd rfl hno⟩
    | read r => exact ⟨fun _ => Set.subset_univ _, fun hno => absurd rfl hno⟩
  have hevery (zs : List Act) : zs.filter (fun _ => true) = zs := List.filter_true zs
  rw [← hevery xs, ← hevery ys] at hxs
  have hrun := (h.run hd hd' codec hR hall hxs).1
  rwa [seen_account codec s fun _ _ => rfl, seen_account codec s' fun _ _ => rfl] at hrun

/-- Two clients write, and each under keys of its own. -/
structure Apart (ds es : List Deed) : Prop where
  writes : ∀ d ∈ ds ++ es, d.key? ≠ none
  keys_ne : ∀ d ∈ ds, ∀ e ∈ es, d.key? ≠ e.key?

/-- The keys that some deeds write under. -/
def keysOfDeeds (ds : List Deed) (k : String × String) : Bool := some k ∈ ds.map Deed.key?

theorem writesIn_keysOfDeeds_iff {ds : List Deed} {x : Act} (hx : x.deed.key? ≠ none) :
    x.writesIn (keysOfDeeds ds) ↔ x.deed.key? ∈ ds.map Deed.key? := by
  obtain ⟨k, hk⟩ := Option.ne_none_iff_exists'.1 hx
  simp [Act.writesIn, keysOfDeeds, hk]

private theorem writesIn_not_iff {K : String × String → Bool} {x : Act} (hx : x.deed.key? ≠ none) :
    (x.writesIn fun k => !K k) ↔ ¬ x.writesIn K := by
  obtain ⟨k, hk⟩ := Option.ne_none_iff_exists'.1 hx
  simp [Act.writesIn, hk]

/-- An act under the keys of the first client, who does these deeds. -/
def Act.isFirst (ds : List Deed) : Act → Bool := writesIn (keysOfDeeds ds)

/-- An act under other keys than those of the first client. -/
def Act.isSecond (ds : List Deed) : Act → Bool := writesIn fun k => !keysOfDeeds ds k

variable {ds es : List Deed} {xs ys zs : List Act}

theorem Apart.isFirst (h : Apart ds es) (hx : xs.map Act.deed = ds) : ∀ x ∈ xs, x.isFirst ds := by
  intro x hmem
  have hdeed : x.deed ∈ ds := hx ▸ List.mem_map_of_mem hmem
  have hwrites := h.writes _ (List.mem_append_left es hdeed)
  exact (writesIn_keysOfDeeds_iff hwrites).2 (List.mem_map_of_mem hdeed)

theorem Apart.not_isFirst (h : Apart ds es) (hy : ys.map Act.deed = es) :
    ∀ y ∈ ys, ¬ y.isFirst ds := by
  intro y hmem hfirst
  have hdeed : y.deed ∈ es := hy ▸ List.mem_map_of_mem hmem
  have hwrites := h.writes _ (List.mem_append_right ds hdeed)
  obtain ⟨d, hd, hkey⟩ := List.mem_map.1 ((writesIn_keysOfDeeds_iff hwrites).1 hfirst)
  exact h.keys_ne d hd _ hdeed hkey

theorem Apart.isSecond_iff (h : Apart ds es) (hx : xs.map Act.deed = ds) (hy : ys.map Act.deed = es)
    (hz : Interleaves xs ys zs) : ∀ z ∈ zs, z.isSecond ds ↔ ¬ z.isFirst ds := by
  intro z hmem
  apply writesIn_not_iff
  apply h.writes
  rw [← hx, ← hy, ← List.map_append]
  exact List.mem_map_of_mem (List.mem_append.2 (hz.mem_or_mem hmem))

theorem Apart.isSecond (h : Apart ds es) (hx : xs.map Act.deed = ds) (hy : ys.map Act.deed = es) :
    (∀ y ∈ ys, y.isSecond ds) ∧ ∀ x ∈ xs, ¬ x.isSecond ds := by
  have hiff := h.isSecond_iff hx hy (.append xs ys)
  constructor
  · intro y hmem
    exact (hiff y (List.mem_append_right xs hmem)).2 (h.not_isFirst hy y hmem)
  · intro x hmem hsecond
    exact (hiff x (List.mem_append_left ys hmem)).1 hsecond (h.isFirst hx x hmem)

/-- In every interleaving the two clients are told apart by the keys of the first. -/
theorem Apart.filter_eq (h : Apart ds es) (hx : xs.map Act.deed = ds) (hy : ys.map Act.deed = es)
    (hz : Interleaves xs ys zs) :
    zs.filter (Act.isFirst ds) = xs ∧ zs.filter (Act.isSecond ds) = ys := by
  obtain ⟨hsecond, hnot⟩ := h.isSecond hx hy
  exact ⟨hz.filter_eq (h.isFirst hx) (h.not_isFirst hy), hz.swap.filter_eq hsecond hnot⟩

theorem map_deed_eq (h : List.Forall₂ (Act.Agrees R) xs ys) :
    xs.map Act.deed = ys.map Act.deed := by
  rw [← List.forall₂_eq_eq_eq, List.forall₂_map_left_iff, List.forall₂_map_right_iff]
  exact h.imp fun x y hxy => hxy.deed

/-- Two runs in which each client does the same, by clocks that agree: each client sees the same, and
the stores that are left agree. -/
theorem agrees_of_filter (hd : s.Distinct) (codec : Codec) (hR : ∀ t, R t t) (ds : List Deed)
    (zs ws : List Act)
    (hfirst : List.Forall₂ (Act.Agrees R) (zs.filter (Act.isFirst ds)) (ws.filter (Act.isFirst ds)))
    (hsecond : List.Forall₂ (Act.Agrees R) (zs.filter (Act.isSecond ds))
      (ws.filter (Act.isSecond ds))) :
    List.Forall₂ (Occurrence.Agrees R) (seen (Act.isFirst ds) (s.account codec zs))
        (seen (Act.isFirst ds) (s.account codec ws)) ∧
      List.Forall₂ (Occurrence.Agrees R) (seen (Act.isSecond ds) (s.account codec zs))
        (seen (Act.isSecond ds) (s.account codec ws)) ∧
      AgreesOn R Set.univ (s.afterActs codec zs) (s.afterActs codec ws) := by
  have hown := (AgreesOn.refl hR {k | keysOfDeeds ds k} s).run hd hd codec hR
    (separates_writesIn _) hfirst
  have hothers := (AgreesOn.refl hR {k | !keysOfDeeds ds k} s).run hd hd codec hR
    (separates_writesIn _) hsecond
  refine ⟨hown.1, hothers.1, fun tenant name _ => ?_⟩
  cases hkey : keysOfDeeds ds (tenant, name) with
  | true => exact hown.2 tenant name hkey
  | false => exact hothers.2 tenant name (by simp [hkey])

/-- What each client sees when the first goes before the second. -/
theorem Apart.seen_append (h : Apart ds es) (hx : xs.map Act.deed = ds) (hy : ys.map Act.deed = es)
    (codec : Codec) (s : Store) :
    seen (Act.isFirst ds) (s.account codec (xs ++ ys)) ++
        seen (Act.isSecond ds) (s.account codec (xs ++ ys)) =
      s.account codec (xs ++ ys) := by
  obtain ⟨hsecond, hnot⟩ := h.isSecond hx hy
  rw [account_append, Store.seen_append, Store.seen_append, seen_account codec s (h.isFirst hx),
    seen_account_eq_nil codec _ (h.not_isFirst hy), seen_account_eq_nil codec s hnot,
    seen_account codec _ hsecond, List.append_nil, List.nil_append]

/-- Two clients write to a store that any history has left, each under keys of its own. In every
interleaving of their writes, each write has the result that it has when the first client writes
before the second, and whatever is done afterwards has the same results, reads included. Times need
only agree, as between the clocks of the two runs. -/
theorem interleaving_serializes (codec : Codec) (R : Instant → Instant → Prop) (hR : ∀ t, R t t)
    (history xs ys xs' ys' zs : List Act) (h : Apart (xs.map Act.deed) (ys.map Act.deed))
    (hx : List.Forall₂ (Act.Agrees R) xs' xs) (hy : List.Forall₂ (Act.Agrees R) ys' ys)
    (hz : Interleaves xs' ys' zs) :
    (∃ es fs, Interleaves es fs ((empty.afterActs codec history).account codec zs) ∧
        es.map Occurrence.act = xs' ∧ fs.map Occurrence.act = ys' ∧
        List.Forall₂ (Occurrence.Agrees R) (es ++ fs)
          ((empty.afterActs codec history).account codec (xs ++ ys))) ∧
      ∀ later later', List.Forall₂ (Act.Agrees R) later' later →
        List.Forall₂ (Occurrence.Agrees R)
          ((empty.afterActs codec (history ++ zs)).account codec later')
          ((empty.afterActs codec (history ++ (xs ++ ys))).account codec later) := by
  have hd := distinct_empty.afterActs codec history
  simp only [afterActs_append _ _ history]
  generalize empty.afterActs codec history = s at hd
  have hx' := map_deed_eq hx
  have hy' := map_deed_eq hy
  have hzs := h.filter_eq hx' hy' hz
  have hserial := h.filter_eq rfl rfl (.append xs ys)
  have hagrees := agrees_of_filter hd codec hR (xs.map Act.deed) zs (xs ++ ys)
  rw [hzs.1, hzs.2, hserial.1, hserial.2] at hagrees
  obtain ⟨hfirst, hsecond, hafter⟩ := hagrees hx hy
  constructor
  · refine ⟨seen (Act.isFirst (xs.map Act.deed)) (s.account codec zs),
      seen (Act.isSecond (xs.map Act.deed)) (s.account codec zs), .filter fun e he => ?_,
      (map_act_seen codec s _ zs).trans hzs.1, (map_act_seen codec s _ zs).trans hzs.2, ?_⟩
    · apply h.isSecond_iff hx' hy' hz
      rw [← s.map_act_account codec zs]
      exact List.mem_map_of_mem he
    · rw [← h.seen_append rfl rfl codec s]
      exact List.rel_append hfirst hsecond
  · intro later later' hlater
    exact hafter.account (hd.afterActs codec zs) (hd.afterActs codec (xs ++ ys)) hR hlater

/-- The first of two clients creates an object. -/
def sampleFirst : List Act := [⟨.write (.create "acme" (.ofName "bids" .table)), ⟨10, 0⟩⟩]

/-- The second creates one whose name is the same in capitals, and changes it. -/
def sampleSecond : List Act :=
  [⟨.write (.create "acme" (.ofName "BIDS" .view)), ⟨20, 0⟩⟩,
    ⟨.write (.update "acme" (.ofName "BIDS" .table)), ⟨30, 0⟩⟩]

/-- Which times of the two runs belong together. -/
def sampleClock (t u : Instant) : Prop :=
  t = u ∨ (t, u) = (⟨2, 0⟩, ⟨10, 0⟩) ∨ (t, u) = (⟨1, 0⟩, ⟨20, 0⟩) ∨ (t, u) = (⟨3, 0⟩, ⟨30, 0⟩)

/-- The same writes by another clock. -/
def sampleFirstAgain : List Act := [⟨.write (.create "acme" (.ofName "bids" .table)), ⟨2, 0⟩⟩]

def sampleSecondAgain : List Act :=
  [⟨.write (.create "acme" (.ofName "BIDS" .view)), ⟨1, 0⟩⟩,
    ⟨.write (.update "acme" (.ofName "BIDS" .table)), ⟨3, 0⟩⟩]

/-- The first client writes between the two writes of the second. -/
def sampleBetween : List Act :=
  [⟨.write (.create "acme" (.ofName "BIDS" .view)), ⟨1, 0⟩⟩,
    ⟨.write (.create "acme" (.ofName "bids" .table)), ⟨2, 0⟩⟩,
    ⟨.write (.update "acme" (.ofName "BIDS" .table)), ⟨3, 0⟩⟩]

theorem interleaving_serializes_sample :
    (∃ es fs, Interleaves es fs ((empty.afterActs .json []).account .json sampleBetween) ∧
        es.map Occurrence.act = sampleFirstAgain ∧ fs.map Occurrence.act = sampleSecondAgain ∧
        List.Forall₂ (Occurrence.Agrees sampleClock) (es ++ fs)
          ((empty.afterActs .json []).account .json (sampleFirst ++ sampleSecond))) ∧
      ∀ later later', List.Forall₂ (Act.Agrees sampleClock) later' later →
        List.Forall₂ (Occurrence.Agrees sampleClock)
          ((empty.afterActs .json ([] ++ sampleBetween)).account .json later')
          ((empty.afterActs .json ([] ++ (sampleFirst ++ sampleSecond))).account .json later) := by
  have hapart : Apart (sampleFirst.map Act.deed) (sampleSecond.map Act.deed) := by
    constructor
    · intro d hd
      simp only [sampleFirst, sampleSecond, List.map_cons, List.map_nil, List.cons_append,
        List.nil_append, List.mem_cons, List.not_mem_nil, or_false] at hd
      rcases hd with rfl | rfl | rfl <;> simp [Deed.key?]
    · intro d hd e he
      simp only [sampleFirst, sampleSecond, List.map_cons, List.map_nil, List.mem_cons,
        List.not_mem_nil, or_false] at hd he
      rcases he with rfl | rfl <;> simp [hd, Deed.key?, Write.key, CatalogObject.ofName]
  have hfirst : List.Forall₂ (Act.Agrees sampleClock) sampleFirstAgain sampleFirst :=
    .cons ⟨rfl, .inr (.inl rfl)⟩ .nil
  have hsecond : List.Forall₂ (Act.Agrees sampleClock) sampleSecondAgain sampleSecond :=
    .cons ⟨rfl, .inr (.inr (.inl rfl))⟩ (.cons ⟨rfl, .inr (.inr (.inr rfl))⟩ .nil)
  have hbetween : Interleaves sampleFirstAgain sampleSecondAgain sampleBetween :=
    .right (.left (.right .nil))
  exact interleaving_serializes .json sampleClock (fun _ => .inl rfl) [] _ _ _ _ _ hapart hfirst
    hsecond hbetween

end Store
end MetricsView
