import MetricsView.Proofs.Catalog.Agreement

/-! # What one party sees of a shared store

In two runs on stores that agree on some keys, the deeds that are about these keys have results
that agree, whatever else is done in between. So the deeds of one tenant can not tell what is done
for others. -/
namespace MetricsView

open Traversal

namespace Store

variable {R : Instant → Instant → Prop} {K : Set (String × String)} {codec : Codec}
  {s s' : Store}

/-- The deed looks at rows under these keys only, and changes no others. -/
def Deed.Within (K : Set (String × String)) : Deed → Prop
  | write w => w.key ∈ K
  | read r => keysOf r.tenant ⊆ K

/-- The deed changes no row under these keys. -/
def Deed.Avoids (K : Set (String × String)) : Deed → Prop
  | write w => w.key ∉ K
  | read _ => True

theorem perform_read (codec : Codec) (s : Store) (now : Instant) (r : Read) :
    (s.perform codec now (.read r)).2 = s := by
  cases r <;> rfl

private theorem AgreesOn.mono (h : AgreesOn R K s s') {L : Set (String × String)} (hL : L ⊆ K) :
    AgreesOn R L s s' := fun tenant name hkey => h tenant name (hL hkey)

theorem AgreesOn.read (h : AgreesOn R K s s') (hd : s.Distinct) (hd' : s'.Distinct)
    (now now' : Instant) {r : Read} (hr : keysOf r.tenant ⊆ K) :
    (s.perform codec now (.read r)).1.Agrees R (s'.perform codec now' (.read r)).1 := by
  have htenant := h.mono hr
  cases r with
  | find tenant name =>
    exact .outcome ((htenant.find hd hd' codec name).map fun o p hop => .found hop)
  | list tenant kind =>
    exact .outcome ((htenant.list hd hd' codec kind).map fun os ps hops => .listed hops)

theorem AgreesOn.perform_within (h : AgreesOn R K s s') (hd : s.Distinct) (hd' : s'.Distinct)
    (codec : Codec) (hR : ∀ t, R t t) {now now' : Instant} (hnow : R now now') {d : Deed}
    (hK : d.Within K) :
    (s.perform codec now d).1.Agrees R (s'.perform codec now' d).1 ∧
      AgreesOn R K (s.perform codec now d).2 (s'.perform codec now' d).2 := by
  cases d with
  | read r =>
    rw [perform_read, perform_read]
    exact ⟨h.read hd hd' now now' hK, h⟩
  | write w =>
    obtain ⟨hresult, hrow⟩ := write_local hd codec now w
    obtain ⟨hresult', hrow'⟩ := write_local hd' codec now' w
    have hown := w.onRow_agrees codec hR hnow (h _ _ hK)
    rw [hresult, hresult']
    refine ⟨hown.1, fun tenant name hkey => ?_⟩
    rw [hrow, hrow']
    split
    · exact hown.2
    · exact h tenant name hkey

theorem row_perform_of_avoids (hd : s.Distinct) (now : Instant) {d : Deed} (hK : d.Avoids K)
    {tenant name : String} (hkey : (tenant, name) ∈ K) :
    (s.perform codec now d).2.row tenant name = s.row tenant name := by
  cases d with
  | read r => rw [perform_read]
  | write w =>
    have hother : ¬ (tenant = w.key.1 ∧ name = w.key.2) := by
      rintro ⟨rfl, rfl⟩
      exact hK hkey
    rw [(write_local hd codec now w).row, if_neg hother]

private theorem AgreesOn.perform_left (h : AgreesOn R K s s') (hd : s.Distinct) (now : Instant)
    {d : Deed} (hK : d.Avoids K) : AgreesOn R K (s.perform codec now d).2 s' := by
  intro tenant name hkey
  rw [row_perform_of_avoids hd now hK hkey]
  exact h tenant name hkey

private theorem AgreesOn.perform_right (h : AgreesOn R K s s') (hd : s'.Distinct) (now : Instant)
    {d : Deed} (hK : d.Avoids K) : AgreesOn R K s (s'.perform codec now d).2 := by
  intro tenant name hkey
  rw [row_perform_of_avoids hd now hK hkey]
  exact h tenant name hkey

/-- The part of an account that is about the acts that the test picks out. -/
def seen (p : Act → Bool) (es : List Occurrence) : List Occurrence := es.filter fun e => p e.act

theorem seen_cons_pos {p : Act → Bool} {e : Occurrence} (h : p e.act) (es : List Occurrence) :
    seen p (e :: es) = e :: seen p es := List.filter_cons_of_pos h

theorem seen_cons_neg {p : Act → Bool} {e : Occurrence} (h : ¬ p e.act) (es : List Occurrence) :
    seen p (e :: es) = seen p es := List.filter_cons_of_neg h

theorem seen_append (p : Act → Bool) (es fs : List Occurrence) :
    seen p (es ++ fs) = seen p es ++ seen p fs := List.filter_append ..

/-- The acts that the test picks out are within these keys, and the others avoid them. -/
def Separates (K : Set (String × String)) (p : Act → Bool) : Prop :=
  ∀ x, (p x → x.deed.Within K) ∧ (¬ p x → x.deed.Avoids K)

/-- Acts that keep away from the keys leave no trace in what is picked out. -/
theorem AgreesOn.idle_right (h : AgreesOn R K s s') (hd : s'.Distinct) (codec : Codec)
    {p : Act → Bool} (hp : Separates K p) {ys : List Act} (hys : ∀ y ∈ ys, ¬ p y) :
    seen p (s'.account codec ys) = [] ∧ AgreesOn R K s (s'.afterActs codec ys) := by
  induction ys generalizing s' with
  | nil => exact ⟨rfl, h⟩
  | cons y ys ih =>
    obtain ⟨hy, hys⟩ := List.forall_mem_cons.1 hys
    obtain ⟨hnone, hafter⟩ :=
      ih (h.perform_right hd y.now ((hp y).2 hy)) (hd.perform codec y.now y.deed) hys
    refine ⟨?_, hafter⟩
    rw [account, seen_cons_neg hy]
    exact hnone

theorem AgreesOn.run (h : AgreesOn R K s s') (hd : s.Distinct) (hd' : s'.Distinct)
    (codec : Codec) (hR : ∀ t, R t t) {p : Act → Bool} (hp : Separates K p) {xs ys : List Act}
    (hxs : List.Forall₂ (Act.Agrees R) (xs.filter p) (ys.filter p)) :
    List.Forall₂ (Occurrence.Agrees R) (seen p (s.account codec xs))
        (seen p (s'.account codec ys)) ∧
      AgreesOn R K (s.afterActs codec xs) (s'.afterActs codec ys) := by
  induction xs generalizing s s' ys with
  | nil =>
    rw [List.filter_nil, List.forall₂_nil_left_iff] at hxs
    obtain ⟨hnone, hafter⟩ := h.idle_right hd' codec hp (List.filter_eq_nil_iff.1 hxs)
    rw [hnone]
    exact ⟨.nil, hafter⟩
  | cons x xs ih =>
    by_cases hx : p x
    · rw [List.filter_cons_of_pos hx, List.forall₂_cons_left_iff] at hxs
      obtain ⟨y, rest, hxy, hrest, hys⟩ := hxs
      -- The second run gets to the partner of the act after some that keep away.
      obtain ⟨before, after, rfl, hbefore, hy, rfl⟩ := List.filter_eq_cons_iff.1 hys
      obtain ⟨hnone, hidle⟩ := h.idle_right hd' codec hp hbefore
      have hd'' := hd'.afterActs codec before
      have hstep := hidle.perform_within hd hd'' codec hR hxy.now ((hp x).1 hx)
      obtain ⟨hoccurrences, hafter⟩ :=
        ih hstep.2 (hd.perform codec x.now x.deed) (hd''.perform codec y.now x.deed) hrest
      rw [account_append, afterActs_append, seen_append, hnone, List.nil_append, account, account,
        seen_cons_pos hx, seen_cons_pos hy, afterActs, afterActs, ← hxy.deed]
      exact ⟨.cons ⟨hxy, hstep.1⟩ hoccurrences, hafter⟩
    · rw [List.filter_cons_of_neg hx] at hxs
      rw [account, seen_cons_neg hx]
      exact ih (h.perform_left hd x.now ((hp x).2 hx)) (hd.perform codec x.now x.deed) hd' hxs

def Act.concerns (tenant : String) (x : Act) : Bool := x.deed.tenant = tenant

private theorem separates_concerns (tenant : String) :
    Separates (keysOf tenant) (Act.concerns tenant) := by
  intro x
  obtain ⟨d, now⟩ := x
  cases d with
  | write w =>
    have hconcerns : Act.concerns tenant ⟨.write w, now⟩ ↔ w.key ∈ keysOf tenant :=
      decide_eq_true_iff
    exact ⟨hconcerns.1, fun hw hkey => hw (hconcerns.2 hkey)⟩
  | read r =>
    refine ⟨fun hr => ?_, fun _ => trivial⟩
    have htenant : r.tenant = tenant := of_decide_eq_true hr
    rw [Deed.Within, htenant]

/-- Two runs from the empty store in which the same is done for a tenant do not differ in what the
tenant sees, whatever is done for others. Times need only agree, where equal times agree and so do
the readings of the clocks at what is done for the tenant. -/
theorem tenants_isolated (codec : Codec) (R : Instant → Instant → Prop) (hR : ∀ t, R t t)
    (tenant : String) (xs ys : List Act)
    (h : List.Forall₂ (Act.Agrees R) (xs.filter (Act.concerns tenant))
      (ys.filter (Act.concerns tenant))) :
    List.Forall₂ (Occurrence.Agrees R)
      (seen (Act.concerns tenant) (empty.account codec xs))
      (seen (Act.concerns tenant) (empty.account codec ys)) :=
  ((AgreesOn.refl hR (keysOf tenant) empty).run distinct_empty distinct_empty codec hR
    (separates_concerns tenant) h).1

/-- A creation and a look-up by a tenant that is alone. -/
def sampleAlone : List Act :=
  [⟨.write (.create "acme" (.ofName "bids" .table)), ⟨5, 0⟩⟩,
    ⟨.read (.find "acme" "BIDS"), ⟨7, 0⟩⟩]

/-- The same by another clock, while somebody spoils an object of that name of another tenant. -/
def sampleAmongOthers : List Act :=
  [⟨.write (.create "globex" (.ofName "bids" .view)), ⟨40, 0⟩⟩,
    ⟨.write (.create "acme" (.ofName "bids" .table)), ⟨50, 0⟩⟩,
    ⟨.write (.overwrite "globex" "bids" (.kindCode 99)), ⟨60, 0⟩⟩,
    ⟨.read (.find "acme" "BIDS"), ⟨70, 0⟩⟩]

def sampleClocks (t u : Instant) : Prop :=
  t = u ∨ (t, u) = (⟨5, 0⟩, ⟨50, 0⟩) ∨ (t, u) = (⟨7, 0⟩, ⟨70, 0⟩)

theorem tenants_isolated_sample : (∀ t, sampleClocks t t) ∧
    List.Forall₂ (Act.Agrees sampleClocks) (sampleAlone.filter (Act.concerns "acme"))
      (sampleAmongOthers.filter (Act.concerns "acme")) ∧
    List.Forall₂ (Occurrence.Agrees sampleClocks)
      (seen (Act.concerns "acme") (empty.account .json sampleAlone))
      (seen (Act.concerns "acme") (empty.account .json sampleAmongOthers)) := by
  have hequal (t : Instant) : sampleClocks t t := .inl rfl
  have hsame : List.Forall₂ (Act.Agrees sampleClocks)
      (sampleAlone.filter (Act.concerns "acme"))
      (sampleAmongOthers.filter (Act.concerns "acme")) :=
    .cons ⟨rfl, .inr (.inl rfl)⟩ (.cons ⟨rfl, .inr (.inr rfl)⟩ .nil)
  exact ⟨hequal, hsame, tenants_isolated .json sampleClocks hequal "acme" _ _ hsame⟩

end Store
end MetricsView
