import Mathlib.Data.List.Induction
import MetricsView.Proofs.Catalog.Run

/-! # The catalog is a finite map

The store is a list of rows. A run of operations acts on it as it would on a map from exact keys
to objects. -/
namespace MetricsView

open Store

/-- The objects of all tenants, each under its exact name. -/
abbrev Contents := String → String → Option CatalogObject

namespace Contents

def empty : Contents := fun _ _ => none

def set (m : Contents) (tenant name : String) (v : Option CatalogObject) : Contents :=
  fun t n => if t = tenant ∧ n = name then v else m t n

/-- What a step makes of the map, and the outcome of a write. A schema that can not be encoded is
refused before the key is looked up. -/
def step (codec : Codec) (m : Contents) (x : Step) : Option Outcome × Contents :=
  match x.operation with
  | .create tenant o =>
    match codec.encode o.schema, m tenant o.name with
    | .error e, _ => (some (.error (.schema e)), m)
    | .ok _, some _ => (some (.error (.storage .duplicateKey)), m)
    | .ok _, none =>
      (some (.ok (.object (stamped x.now o))), m.set tenant o.name (some (stamped x.now o)))
  | .update tenant o =>
    match codec.encode o.schema, m tenant o.name with
    | .error e, _ => (some (.error (.schema e)), m)
    | .ok _, none => (some (.error (.notFound .object o.name)), m)
    | .ok _, some old =>
      (some (.ok (.object { o with updatedOn := x.now })),
        m.set tenant o.name (some (overwritten x.now old.createdOn o)))
  | .delete tenant name => (some (.ok .done), m.set tenant name none)
  | .find _ _ | .list _ _ => (none, m)

def after (codec : Codec) (xs : List Step) : Contents :=
  xs.foldl (fun m x => (m.step codec x).2) empty

theorem after_concat (codec : Codec) (xs : List Step) (x : Step) :
    after codec (xs ++ [x]) = ((after codec xs).step codec x).2 := by
  rw [after, List.foldl_append]
  rfl

end Contents

namespace Store

def row (s : Store) (tenant name : String) : Option StoredObject :=
  s.objects.find? (StoredObject.hasKey tenant name)

theorem hasKey_of_row_eq {s : Store} {tenant name : String} {r : StoredObject}
    (h : s.row tenant name = some r) : r.tenant = tenant ∧ r.name = name :=
  StoredObject.hasKey_iff.1 (List.find?_some h)

theorem contains_eq (s : Store) (tenant name : String) :
    s.contains tenant name = (s.row tenant name).isSome := by
  rw [contains, row, Bool.eq_iff_iff, List.any_eq_true, List.find?_isSome]

theorem row_append {s : Store} {r : StoredObject} (h : s.row r.tenant r.name = none)
    (tenant name : String) : (Store.mk (s.objects ++ [r])).row tenant name =
      if tenant = r.tenant ∧ name = r.name then some r else s.row tenant name := by
  rw [row, List.find?_append]
  by_cases hkey : tenant = r.tenant ∧ name = r.name
  · obtain ⟨rfl, rfl⟩ := hkey
    have hself : r.hasKey r.tenant r.name := StoredObject.hasKey_iff.2 ⟨rfl, rfl⟩
    have hnone : s.objects.find? (StoredObject.hasKey r.tenant r.name) = none := h
    simp [hnone, hself]
  · have hother : r.hasKey tenant name = false := by
      rw [Bool.eq_false_iff, Ne, StoredObject.hasKey_iff]
      rintro ⟨rfl, rfl⟩
      exact hkey ⟨rfl, rfl⟩
    simp [hkey, hother, row]

theorem row_map {s : Store} {f : StoredObject → StoredObject}
    (h : ∀ r, (f r).tenant = r.tenant ∧ (f r).name = r.name) (tenant name : String) :
    (Store.mk (s.objects.map f)).row tenant name = (s.row tenant name).map f := by
  have hkey : StoredObject.hasKey tenant name ∘ f = StoredObject.hasKey tenant name := by
    funext r
    rw [Function.comp, StoredObject.hasKey, StoredObject.hasKey, (h r).1, (h r).2]
  rw [row, List.find?_map, hkey]
  rfl

theorem row_delete (s : Store) (t n tenant name : String) :
    (s.delete t n).row tenant name =
      if tenant = t ∧ name = n then none else s.row tenant name := by
  rw [row, delete, List.find?_filter]
  by_cases hkey : tenant = t ∧ name = n
  · obtain ⟨rfl, rfl⟩ := hkey
    simp
  · rw [if_neg hkey]
    refine congrArg (List.find? · s.objects) (funext fun r => ?_)
    cases hr : r.hasKey tenant name with
    | false => simp
    | true =>
      have hother : r.hasKey t n = false := by
        obtain ⟨rfl, rfl⟩ := StoredObject.hasKey_iff.1 hr
        rw [Bool.eq_false_iff, Ne, StoredObject.hasKey_iff]
        exact hkey
      simp [hother]

end Store

/-- The row is that of the object. -/
def StoredObject.Holds (codec : Codec) (tenant : String) (r : StoredObject) (o : CatalogObject) :
    Prop :=
  ∃ blob, codec.encode o.schema = .ok blob ∧ r = rowOf tenant blob o

/-- Under each key the store has the row of the object that the map has there, or neither has
anything. -/
def Represents (codec : Codec) (s : Store) (m : Contents) : Prop :=
  ∀ tenant name, Option.Rel (StoredObject.Holds codec tenant) (s.row tenant name) (m tenant name)

namespace Represents

variable {codec : Codec} {s s' : Store} {m : Contents}

theorem empty : Represents codec .empty .empty := fun _ _ => .none

theorem row_eq_none (h : Represents codec s m) {tenant name : String}
    (hm : m tenant name = none) : s.row tenant name = none := by
  have hrel := h tenant name
  rw [hm] at hrel
  generalize s.row tenant name = r at hrel
  cases hrel
  rfl

theorem exists_row (h : Represents codec s m) {tenant name : String} {o : CatalogObject}
    (hm : m tenant name = some o) : ∃ r, s.row tenant name = some r ∧ r.Holds codec tenant o := by
  have hrel := h tenant name
  rw [hm] at hrel
  generalize s.row tenant name = r at hrel ⊢
  cases hrel with
  | some hholds => exact ⟨_, rfl, hholds⟩

theorem contains_eq (h : Represents codec s m) (tenant name : String) :
    s.contains tenant name = (m tenant name).isSome := by
  rw [Store.contains_eq]
  cases hm : m tenant name with
  | none => rw [h.row_eq_none hm, Option.isSome_none, Option.isSome_none]
  | some o =>
    obtain ⟨r, hr, -⟩ := h.exists_row hm
    rw [hr, Option.isSome_some, Option.isSome_some]

/-- A change at one key on both sides. -/
theorem set (h : Represents codec s m) {t n : String} {r : Option StoredObject}
    {o : Option CatalogObject} (hr : Option.Rel (StoredObject.Holds codec t) r o)
    (hrow : ∀ tenant name, s'.row tenant name =
      if tenant = t ∧ name = n then r else s.row tenant name) :
    Represents codec s' (m.set t n o) := by
  intro tenant name
  rw [hrow, Contents.set]
  by_cases hkey : tenant = t ∧ name = n
  · rw [if_pos hkey, if_pos hkey, hkey.1]
    exact hr
  · rw [if_neg hkey, if_neg hkey]
    exact h tenant name

theorem create (h : Represents codec s m) {tenant : String} {o : CatalogObject}
    {blob : Option Text.Octets} (hblob : codec.encode o.schema = .ok blob)
    (habsent : m tenant o.name = none) (now : Instant) :
    Represents codec ⟨s.objects ++ [rowOf tenant blob (stamped now o)]⟩
      (m.set tenant o.name (some (stamped now o))) :=
  h.set (.some ⟨blob, hblob, rfl⟩) (row_append (h.row_eq_none habsent))

theorem update (h : Represents codec s m) {tenant : String} {o old : CatalogObject}
    {blob : Option Text.Octets} (hblob : codec.encode o.schema = .ok blob)
    (hpresent : m tenant o.name = some old) (now : Instant) :
    Represents codec ⟨s.objects.map (overwriteRow tenant blob now o)⟩
      (m.set tenant o.name (some (overwritten now old.createdOn o))) := by
  obtain ⟨r, hr, _, -, rfl⟩ := h.exists_row hpresent
  have hkept (q : StoredObject) := overwriteRow_kept tenant blob now o q
  refine h.set (.some ⟨blob, hblob, rfl⟩) fun t n => ?_
  rw [row_map fun q => ⟨(hkept q).1, (hkept q).2.1⟩]
  by_cases hkey : t = tenant ∧ n = o.name
  · obtain ⟨rfl, rfl⟩ := hkey
    have hself := StoredObject.hasKey_iff.2 (hasKey_of_row_eq hr)
    rw [hr, Option.map_some, overwriteRow, if_pos hself, if_pos ⟨rfl, rfl⟩]
    rfl
  · rw [if_neg hkey]
    cases ht : s.row t n with
    | none => rfl
    | some q =>
      have hother : ¬ q.hasKey tenant o.name := by
        rw [StoredObject.hasKey_iff, (hasKey_of_row_eq ht).1, (hasKey_of_row_eq ht).2]
        exact hkey
      rw [Option.map_some, overwriteRow, if_neg hother]

theorem delete (h : Represents codec s m) (tenant name : String) :
    Represents codec (s.delete tenant name) (m.set tenant name none) :=
  h.set .none (s.row_delete tenant name)

end Represents

/-- The store after a step, and what the step answers, follow from the map alone. -/
theorem Represents.step {codec : Codec} {s : Store} {m : Contents} (h : Represents codec s m)
    (x : Step) : Represents codec (s.step codec x).2 (m.step codec x).2 ∧
      ∀ a ∈ (m.step codec x).1, (s.step codec x).1 = a := by
  obtain ⟨operation, now⟩ := x
  cases operation with
  | create tenant o =>
    cases hblob : codec.encode o.schema with
    | error e => simp [Contents.step, Store.step, create_eq, hblob, h]
    | ok blob =>
      cases hm : m tenant o.name with
      | none =>
        have hnew := h.create hblob hm now
        simp [Contents.step, Store.step, create_eq, h.contains_eq, hblob, hm, hnew]
      | some old => simp [Contents.step, Store.step, create_eq, h.contains_eq, hblob, hm, h]
  | update tenant o =>
    cases hblob : codec.encode o.schema with
    | error e => simp [Contents.step, Store.step, update_eq, hblob, h]
    | ok blob =>
      cases hm : m tenant o.name with
      | none => simp [Contents.step, Store.step, update_eq, h.contains_eq, hblob, hm, h]
      | some old =>
        have hnew := h.update hblob hm now
        simp [Contents.step, Store.step, update_eq, h.contains_eq, hblob, hm, hnew]
  | delete tenant name =>
    have hnew := h.delete tenant name
    simp [Contents.step, Store.step, hnew]
  | find tenant name => simp [Contents.step, Store.step, h]
  | list tenant kind => simp [Contents.step, Store.step, h]

namespace Store

def key (r : StoredObject) : String × String := (r.tenant, r.name)

/-- No two rows have the same key. -/
def Distinct (s : Store) : Prop := (s.objects.map key).Nodup

/-- The event that made the row is a create under its key, at the time the row tells, and no later
event deletes that key. -/
def CreatedBy (events : List Event) (r : StoredObject) : Prop :=
  ∃ earlier o a later, events = earlier ++ ⟨⟨.create r.tenant o, r.createdOn⟩, .ok a⟩ :: later ∧
    o.name = r.name ∧ ∀ e ∈ later, e.step.operation ≠ .delete r.tenant r.name

theorem distinct_empty : empty.Distinct := List.nodup_nil

theorem Distinct.step {s : Store} (h : s.Distinct) (codec : Codec) (x : Step) :
    (s.step codec x).2.Distinct := by
  have heffect := s.step_effect codec x
  generalize s.step codec x = r at heffect ⊢
  cases heffect with
  | kept => exact h
  | @created tenant o _ _ _ habsent =>
    have hfresh : (tenant, o.name) ∉ s.objects.map key := by
      intro hmem
      obtain ⟨r, hr, hkey⟩ := List.mem_map.1 hmem
      have hpresent : s.contains tenant o.name := by
        refine List.any_eq_true.2 ⟨r, hr, StoredObject.hasKey_iff.2 ?_⟩
        exact Prod.mk.inj hkey
      rw [habsent] at hpresent
      cases hpresent
    rw [Distinct, List.map_append]
    refine List.nodup_append.2 ⟨h, by simp, ?_⟩
    rintro k hk l hl rfl
    rw [List.mem_singleton.1 hl] at hk
    exact hfresh hk
  | @updated tenant o blob =>
    have hkeys : (s.objects.map (overwriteRow tenant blob x.now o)).map key = s.objects.map key := by
      rw [List.map_map]
      refine List.map_congr_left fun r _ => ?_
      obtain ⟨htenant, hname, -⟩ := overwriteRow_kept tenant blob x.now o r
      exact Prod.ext htenant hname
    rw [Distinct, hkeys]
    exact h
  | deleted => exact h.sublist ((List.filter_sublist).map key)

theorem CreatedBy.concat {events : List Event} {r : StoredObject} (h : CreatedBy events r)
    {e : Event} (he : e.step.operation ≠ .delete r.tenant r.name) :
    CreatedBy (events ++ [e]) r := by
  obtain ⟨earlier, o, a, later, rfl, hname, hkept⟩ := h
  refine ⟨earlier, o, a, later ++ [e], by simp, hname, ?_⟩
  intro d hd
  rcases List.mem_append.1 hd with hd | hd
  · exact hkept d hd
  · rw [List.mem_singleton.1 hd]
    exact he

private theorem createdBy_record {codec : Codec} {run : List Event × Store}
    (h : ∀ r ∈ run.2.objects, CreatedBy run.1 r) (x : Step) :
    ∀ r ∈ (record codec run x).2.objects, CreatedBy (record codec run x).1 r := by
  obtain ⟨events, s⟩ := run
  have heffect := s.step_effect codec x
  unfold record
  generalize s.step codec x = next at heffect ⊢
  intro r hr
  cases heffect with
  | kept _ hx => exact (h r hr).concat (hx _ _)
  | @created tenant o blob a hx _ =>
    rcases List.mem_append.1 hr with hr | hr
    · exact (h r hr).concat (by simp [hx])
    · obtain rfl := List.mem_singleton.1 hr
      obtain ⟨operation, now⟩ := x
      obtain rfl : operation = .create tenant o := hx
      exact ⟨events, o, a, [], rfl, rfl, by simp⟩
  | @updated tenant o blob a hx =>
    obtain ⟨q, hq, rfl⟩ := List.mem_map.1 hr
    obtain ⟨htenant, hname, hcreated⟩ := overwriteRow_kept tenant blob x.now o q
    have hq := (h q hq).concat (e := ⟨x, .ok a⟩) (by simp [hx])
    rw [CreatedBy, htenant, hname, hcreated]
    exact hq
  | @deleted tenant name hx =>
    obtain ⟨hr, hother⟩ := List.mem_filter.1 hr
    -- A row that is left has another key than the one deleted.
    refine (h r hr).concat fun hdelete => ?_
    obtain ⟨rfl, rfl⟩ : tenant = r.tenant ∧ name = r.name := by
      simpa using hx.symm.trans hdelete
    have hself : r.hasKey r.tenant r.name := StoredObject.hasKey_iff.2 ⟨rfl, rfl⟩
    rw [hself] at hother
    cases hother

/-- What a run has made of the store, against what it has made of the map. -/
structure Tracks (codec : Codec) (events : List Event) (s : Store) (m : Contents) : Prop where
  distinct : s.Distinct
  represents : Represents codec s m
  created : ∀ r ∈ s.objects, CreatedBy events r

/-- A step does to the store what it does to the map. -/
structure Follows (codec : Codec) (s : Store) (m : Contents) (x : Step) : Prop where
  outcome : ∀ a ∈ (m.step codec x).1, (s.step codec x).1 = a
  represents : Represents codec (s.step codec x).2 (m.step codec x).2
  kept : (∃ e, (s.step codec x).1 = .error e) ∨ x.operation.reads → (s.step codec x).2 = s

theorem tracks_run (codec : Codec) (xs : List Step) :
    Tracks codec (run codec xs).1 (run codec xs).2 (Contents.after codec xs) := by
  induction xs using List.reverseRecOn with
  | nil => exact ⟨distinct_empty, .empty, by simp [run, empty]⟩
  | append_singleton xs x ih =>
    rw [run_concat, Contents.after_concat]
    exact ⟨ih.distinct.step codec x, (ih.represents.step x).1, createdBy_record ih.created x⟩

end Store
end MetricsView
