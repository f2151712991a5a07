import MetricsView.Catalog.Store

/-! # Runs of catalog operations

A run is a list of operations, each with the time at which it takes place. It leaves a store and
an account of what was answered. -/
namespace MetricsView

theorem StoredObject.hasKey_iff {tenant name : String} {r : StoredObject} :
    r.hasKey tenant name ↔ r.tenant = tenant ∧ r.name = name := by
  rw [hasKey, Bool.and_eq_true, decide_eq_true_iff, decide_eq_true_iff]

namespace Store

open Text (Octets)

inductive Operation where
  | create (tenant : String) (o : CatalogObject)
  | update (tenant : String) (o : CatalogObject)
  | delete (tenant name : String)
  | find (tenant name : String)
  | list (tenant : String) (kind : Option ObjectKind)

inductive Answer where
  | object (o : CatalogObject)
  | done
  | found (o : Option CatalogObject)
  | listed (os : List CatalogObject)

def Operation.reads : Operation → Bool
  | find _ _ | list _ _ => true
  | create _ _ | update _ _ | delete _ _ => false

abbrev Outcome := Except Failure Answer

structure Step where
  operation : Operation
  now : Instant

/-- A write that fails leaves the store, as all reads do. -/
def step (codec : Codec) (s : Store) (x : Step) : Outcome × Store :=
  match x.operation with
  | .create tenant o =>
    match s.create codec x.now tenant o with
    | .ok (o, s) => (.ok (.object o), s)
    | .error e => (.error e, s)
  | .update tenant o =>
    match s.update codec x.now tenant o with
    | .ok (o, s) => (.ok (.object o), s)
    | .error e => (.error e, s)
  | .delete tenant name => (.ok .done, s.delete tenant name)
  | .find tenant name => ((s.find codec tenant name).map .found, s)
  | .list tenant kind => ((s.list codec tenant kind).map .listed, s)

/-- A step with its outcome. -/
structure Event where
  step : Step
  outcome : Outcome

def record (codec : Codec) (r : List Event × Store) (x : Step) : List Event × Store :=
  (r.1 ++ [⟨x, (r.2.step codec x).1⟩], (r.2.step codec x).2)

/-- What a run from the empty store did, and the store that it left. -/
def run (codec : Codec) (xs : List Step) : List Event × Store :=
  xs.foldl (record codec) ([], empty)

theorem run_concat (codec : Codec) (xs : List Step) (x : Step) :
    run codec (xs ++ [x]) = record codec (run codec xs) x := by
  rw [run, List.foldl_append]
  rfl

/-- The object as it is overwritten. -/
def overwritten (now createdOn : Instant) (o : CatalogObject) : CatalogObject :=
  { o with createdOn := createdOn, updatedOn := now }

/-- What overwriting the object makes of each row. -/
def overwriteRow (tenant : String) (blob : Option Octets) (now : Instant) (o : CatalogObject)
    (r : StoredObject) : StoredObject :=
  if r.hasKey tenant o.name then rowOf tenant blob (overwritten now r.createdOn o) else r

/-- Every row keeps its key and the time of its creation. -/
theorem overwriteRow_kept (tenant : String) (blob : Option Octets) (now : Instant)
    (o : CatalogObject) (r : StoredObject) :
    (overwriteRow tenant blob now o r).tenant = r.tenant ∧
      (overwriteRow tenant blob now o r).name = r.name ∧
      (overwriteRow tenant blob now o r).createdOn = r.createdOn := by
  unfold overwriteRow
  split
  · next hkey =>
    obtain ⟨htenant, hname⟩ := StoredObject.hasKey_iff.1 hkey
    exact ⟨htenant.symm, hname.symm, rfl⟩
  · exact ⟨rfl, rfl, rfl⟩

theorem create_eq (s : Store) (codec : Codec) (now : Instant) (tenant : String)
    (o : CatalogObject) : s.create codec now tenant o =
      match codec.encode o.schema with
      | .error e => .error (.schema e)
      | .ok blob =>
        if s.contains tenant o.name then .error (.storage .duplicateKey)
        else .ok (stamped now o, ⟨s.objects ++ [rowOf tenant blob (stamped now o)]⟩) := by
  have hkey (blob : Option Octets) : s.insert (rowOf tenant blob (stamped now o)) =
      if s.contains tenant o.name then .error .duplicateKey
      else .ok ⟨s.objects ++ [rowOf tenant blob (stamped now o)]⟩ := rfl
  unfold create encodeSchema
  cases codec.encode o.schema with
  | error e => rfl
  | ok blob =>
    simp only [hkey]
    cases s.contains tenant o.name <;> rfl

theorem update_eq (s : Store) (codec : Codec) (now : Instant) (tenant : String)
    (o : CatalogObject) : s.update codec now tenant o =
      match codec.encode o.schema with
      | .error e => .error (.schema e)
      | .ok blob =>
        if s.contains tenant o.name then
          .ok ({ o with updatedOn := now }, ⟨s.objects.map (overwriteRow tenant blob now o)⟩)
        else .error (.notFound .object o.name) := by
  unfold update encodeSchema
  cases codec.encode o.schema with
  | error e => rfl
  | ok blob =>
    cases s.contains tenant o.name with
    | false => rfl
    | true =>
      refine congrArg (fun rs => Except.ok (_, Store.mk rs)) (List.map_congr_left fun r _ => ?_)
      unfold overwriteRow
      split
      · next h =>
        obtain ⟨htenant, hname⟩ := StoredObject.hasKey_iff.1 h
        rw [rowOf, overwritten, ← htenant, ← hname]
      · rfl

/-- All that a step can do. Deletes never fail. -/
inductive Effect (s : Store) (x : Step) : Outcome × Store → Prop where
  | kept {a} (idle : (∃ e, a = .error e) ∨ x.operation.reads)
      (hx : ∀ tenant name, x.operation ≠ .delete tenant name) : Effect s x (a, s)
  | created {tenant o blob a} (hx : x.operation = .create tenant o)
      (absent : s.contains tenant o.name = false) :
      Effect s x (.ok a, ⟨s.objects ++ [rowOf tenant blob (stamped x.now o)]⟩)
  | updated {tenant o blob a} (hx : x.operation = .update tenant o) :
      Effect s x (.ok a, ⟨s.objects.map (overwriteRow tenant blob x.now o)⟩)
  | deleted {tenant name} (hx : x.operation = .delete tenant name) :
      Effect s x (.ok .done, s.delete tenant name)

theorem step_effect (codec : Codec) (s : Store) (x : Step) : Effect s x (s.step codec x) := by
  obtain ⟨operation, now⟩ := x
  cases operation with
  | create tenant o =>
    simp only [step, create_eq]
    cases codec.encode o.schema with
    | error e => exact .kept (.inl ⟨_, rfl⟩) (by simp)
    | ok blob =>
      cases hpresent : s.contains tenant o.name with
      | true => exact .kept (.inl ⟨_, rfl⟩) (by simp)
      | false => exact .created rfl hpresent
  | update tenant o =>
    simp only [step, update_eq]
    cases codec.encode o.schema with
    | error e => exact .kept (.inl ⟨_, rfl⟩) (by simp)
    | ok blob =>
      cases s.contains tenant o.name with
      | false => exact .kept (.inl ⟨_, rfl⟩) (by simp)
      | true => exact .updated rfl
  | delete tenant name => exact .deleted rfl
  | find tenant name => exact .kept (.inr rfl) (by simp)
  | list tenant kind => exact .kept (.inr rfl) (by simp)

end Store
end MetricsView
