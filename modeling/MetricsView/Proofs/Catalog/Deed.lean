import MetricsView.Proofs.Catalog.Refinement

/-! # All that happens to a store

Rows are written and read through the operations of the catalog. Besides, somebody may overwrite a
column of a row in the file: a number with any integer, a schema with any blob or with null. Each
write is about one key: what it answers and what it leaves there follow from the row there, and all
other rows stay. -/
namespace MetricsView

namespace Store

open Text (Octets)

/-- A new value for a column. -/
inductive Cell where
  | kindCode (code : Int)
  | schema (blob : Option Octets)
  | managed (value : Int)

def Cell.put (r : StoredObject) : Cell → StoredObject
  | kindCode code => { r with kindCode := code }
  | schema blob => { r with schema := blob }
  | managed value => { r with managed := value }

inductive Write where
  | create (tenant : String) (o : CatalogObject)
  | update (tenant : String) (o : CatalogObject)
  | delete (tenant name : String)
  | overwrite (tenant name : String) (cell : Cell)

/-- The tenant and the exact name that the write is about. -/
def Write.key : Write → String × String
  | create tenant o => (tenant, o.name)
  | update tenant o => (tenant, o.name)
  | delete tenant name => (tenant, name)
  | overwrite tenant name _ => (tenant, name)

inductive Read where
  | find (tenant name : String)
  | list (tenant : String) (kind : Option ObjectKind)

def Read.tenant : Read → String
  | find tenant _ => tenant
  | list tenant _ => tenant

inductive Deed where
  | write (w : Write)
  | read (r : Read)

def Deed.tenant : Deed → String
  | write w => w.key.1
  | read r => r.tenant

inductive Result where
  | outcome (o : Outcome)
  /-- So many rows were overwritten. -/
  | overwritten (rows : Nat)

def operate (codec : Codec) (s : Store) (now : Instant) (x : Operation) : Result × Store :=
  (.outcome (s.step codec ⟨x, now⟩).1, (s.step codec ⟨x, now⟩).2)

/-- Applies `f` to the row under the key. -/
def alter (s : Store) (tenant name : String) (f : StoredObject → StoredObject) : Store :=
  ⟨s.objects.map fun r => if r.hasKey tenant name then f r else r⟩

def perform (codec : Codec) (s : Store) (now : Instant) : Deed → Result × Store
  | .write (.create tenant o) => s.operate codec now (.create tenant o)
  | .write (.update tenant o) => s.operate codec now (.update tenant o)
  | .write (.delete tenant name) => s.operate codec now (.delete tenant name)
  | .write (.overwrite tenant name cell) =>
    (.overwritten (s.objects.countP (StoredObject.hasKey tenant name)),
      s.alter tenant name fun r => cell.put r)
  | .read (.find tenant name) => s.operate codec now (.find tenant name)
  | .read (.list tenant kind) => s.operate codec now (.list tenant kind)

/-- A deed with the time that the clock shows. -/
structure Act where
  deed : Deed
  now : Instant

/-- An act with its result. -/
structure Occurrence where
  act : Act
  result : Result

/-- What comes of a list of acts, one after the other. -/
def account (codec : Codec) : Store → List Act → List Occurrence
  | _, [] => []
  | s, x :: xs =>
    ⟨x, (s.perform codec x.now x.deed).1⟩ :: account codec (s.perform codec x.now x.deed).2 xs

/-- The store after a list of acts. -/
def afterActs (codec : Codec) : Store → List Act → Store
  | s, [] => s
  | s, x :: xs => afterActs codec (s.perform codec x.now x.deed).2 xs

theorem account_append (codec : Codec) (s : Store) (xs ys : List Act) :
    s.account codec (xs ++ ys) = s.account codec xs ++ (s.afterActs codec xs).account codec ys := by
  induction xs generalizing s with
  | nil => rfl
  | cons x xs ih => simp [account, afterActs, ih]

theorem afterActs_append (codec : Codec) (s : Store) (xs ys : List Act) :
    s.afterActs codec (xs ++ ys) = (s.afterActs codec xs).afterActs codec ys := by
  induction xs generalizing s with
  | nil => rfl
  | cons x xs ih => simp [afterActs, ih]

/-- The account goes through the acts in their order. -/
theorem map_act_account (codec : Codec) (s : Store) (xs : List Act) :
    (s.account codec xs).map Occurrence.act = xs := by
  induction xs generalizing s with
  | nil => rfl
  | cons x xs ih => simp [account, ih]

theorem Distinct.alter {s : Store} (h : s.Distinct) {tenant name : String}
    {f : StoredObject → StoredObject} (hf : ∀ r, key (f r) = key r) :
    (s.alter tenant name f).Distinct := by
  have hkeys : (s.alter tenant name f).objects.map key = s.objects.map key := by
    simp only [Store.alter, List.map_map]
    apply List.map_congr_left
    intro r _
    by_cases hr : r.hasKey tenant name <;> simp [hr, hf]
  rw [Distinct, hkeys]
  exact h

private theorem key_put (c : Cell) (r : StoredObject) : key (c.put r) = key r := by
  cases c <;> rfl

theorem Distinct.perform {s : Store} (h : s.Distinct) (codec : Codec) (now : Instant) (d : Deed) :
    (s.perform codec now d).2.Distinct := by
  cases d with
  | write w =>
    cases w with
    | create tenant o => exact h.step codec _
    | update tenant o => exact h.step codec _
    | delete tenant name => exact h.step codec _
    | overwrite tenant name cell => exact h.alter (key_put cell)
  | read r => cases r <;> exact h.step codec _

theorem Distinct.afterActs {s : Store} (h : s.Distinct) (codec : Codec) (xs : List Act) :
    (s.afterActs codec xs).Distinct := by
  induction xs generalizing s with
  | nil => exact h
  | cons x xs ih => exact ih (h.perform codec x.now x.deed)

private theorem countP_hasKey {s : Store} (h : s.Distinct) (tenant name : String) :
    s.objects.countP (StoredObject.hasKey tenant name) =
      if (s.row tenant name).isSome then 1 else 0 := by
  have hkey : StoredObject.hasKey tenant name = (· == (tenant, name)) ∘ key := by
    funext r
    rw [Bool.eq_iff_iff, StoredObject.hasKey_iff]
    simp [key]
  have hmem : (tenant, name) ∈ s.objects.map key ↔ (s.row tenant name).isSome := by
    simp [row, List.find?_isSome, StoredObject.hasKey, key]
  have hcount : (s.objects.map key).count (tenant, name) =
      if (tenant, name) ∈ s.objects.map key then 1 else 0 := h.count
  simp only [hmem] at hcount
  rw [hkey, ← List.countP_map]
  exact hcount

/-- The result of a write, and the row that it leaves, where there was this one. -/
def Write.onRow (codec : Codec) (now : Instant) (r : Option StoredObject) :
    Write → Result × Option StoredObject
  | create tenant o =>
    match codec.encode o.schema, r with
    | .error e, _ => (.outcome (.error (.schema e)), r)
    | .ok _, some _ => (.outcome (.error (.storage .duplicateKey)), r)
    | .ok blob, none =>
      (.outcome (.ok (.object (stamped now o))), some (rowOf tenant blob (stamped now o)))
  | update tenant o =>
    match codec.encode o.schema, r with
    | .error e, _ => (.outcome (.error (.schema e)), r)
    | .ok _, none => (.outcome (.error (.notFound .object o.name)), r)
    | .ok blob, some old =>
      (.outcome (.ok (.object { o with updatedOn := now })),
        some (rowOf tenant blob (overwritten now old.createdOn o)))
  | delete _ _ => (.outcome (.ok .done), none)
  | overwrite _ _ cell => (.overwritten (if r.isSome then 1 else 0), r.map fun r => cell.put r)

theorem perform_create (codec : Codec) (s : Store) (now : Instant) (tenant : String)
    (o : CatalogObject) : s.perform codec now (.write (.create tenant o)) =
      match codec.encode o.schema with
      | .error e => (.outcome (.error (.schema e)), s)
      | .ok blob =>
        if (s.row tenant o.name).isSome then (.outcome (.error (.storage .duplicateKey)), s)
        else (.outcome (.ok (.object (stamped now o))),
          ⟨s.objects ++ [rowOf tenant blob (stamped now o)]⟩) := by
  simp only [perform, operate, step, create_eq, contains_eq]
  cases codec.encode o.schema with
  | error e => rfl
  | ok blob => cases s.row tenant o.name <;> rfl

theorem perform_update (codec : Codec) (s : Store) (now : Instant) (tenant : String)
    (o : CatalogObject) : s.perform codec now (.write (.update tenant o)) =
      match codec.encode o.schema with
      | .error e => (.outcome (.error (.schema e)), s)
      | .ok blob =>
        if (s.row tenant o.name).isSome then
          (.outcome (.ok (.object { o with updatedOn := now })), s.alter tenant o.name fun r =>
            rowOf tenant blob (overwritten now r.createdOn o))
        else (.outcome (.error (.notFound .object o.name)), s) := by
  simp only [perform, operate, step, update_eq, contains_eq]
  cases codec.encode o.schema with
  | error e => rfl
  | ok blob => cases s.row tenant o.name <;> rfl

/-- An altered store under the key and elsewhere. -/
theorem row_alter (s : Store) {t n : String} {f : StoredObject → StoredObject}
    (hf : ∀ r, r.hasKey t n → (f r).hasKey t n) (tenant name : String) :
    (s.alter t n f).row tenant name =
      if tenant = t ∧ name = n then (s.row t n).map f else s.row tenant name := by
  have hkept (r : StoredObject) : (if r.hasKey t n then f r else r).tenant = r.tenant ∧
      (if r.hasKey t n then f r else r).name = r.name := by
    by_cases hr : r.hasKey t n
    · have hnew := StoredObject.hasKey_iff.1 (hf r hr)
      have hold := StoredObject.hasKey_iff.1 hr
      simp [hr, hnew, hold]
    · simp [hr]
  rw [alter, row_map hkept]
  by_cases hkey : tenant = t ∧ name = n
  · obtain ⟨rfl, rfl⟩ := hkey
    rw [if_pos ⟨rfl, rfl⟩]
    cases hrow : s.row tenant name with
    | none => rfl
    | some r =>
      have hr := StoredObject.hasKey_iff.2 (hasKey_of_row_eq hrow)
      simp [hr]
  · rw [if_neg hkey]
    cases hrow : s.row tenant name with
    | none => rfl
    | some r =>
      have hr : ¬ r.hasKey t n := by
        rw [StoredObject.hasKey_iff]
        obtain ⟨rfl, rfl⟩ := hasKey_of_row_eq hrow
        exact hkey
      simp [hr]

/-- What a write does under its key and elsewhere. -/
structure Write.Local (codec : Codec) (now : Instant) (w : Write) (s : Store)
    (next : Result × Store) : Prop where
  result : next.1 = (w.onRow codec now (s.row w.key.1 w.key.2)).1
  row : ∀ tenant name, next.2.row tenant name =
    if tenant = w.key.1 ∧ name = w.key.2 then (w.onRow codec now (s.row w.key.1 w.key.2)).2
    else s.row tenant name

/-- A write that leaves the row is local if it leaves the store. -/
theorem Write.Local.of_kept {codec : Codec} {now : Instant} {w : Write} {s : Store} {a : Result}
    (h : w.onRow codec now (s.row w.key.1 w.key.2) = (a, s.row w.key.1 w.key.2)) :
    w.Local codec now s (a, s) := by
  refine ⟨by rw [h], fun tenant name => ?_⟩
  by_cases hkey : tenant = w.key.1 ∧ name = w.key.2
  · rw [if_pos hkey, h, hkey.1, hkey.2]
  · rw [if_neg hkey]

/-- A write is about its key alone. -/
theorem write_local {s : Store} (h : s.Distinct) (codec : Codec) (now : Instant) (w : Write) :
    w.Local codec now s (s.perform codec now (.write w)) := by
  cases w with
  | create tenant o =>
    rw [perform_create]
    cases hblob : codec.encode o.schema with
    | error e => exact .of_kept (by simp [Write.onRow, hblob])
    | ok blob =>
      cases hrow : s.row tenant o.name with
      | some old => exact .of_kept (by simp [Write.onRow, Write.key, hblob, hrow])
      | none =>
        have hnew := row_append (r := rowOf tenant blob (stamped now o)) hrow
        refine ⟨by simp [Write.onRow, Write.key, hblob, hrow], fun t n => ?_⟩
        simp only [Write.onRow, Write.key, hblob, hrow]
        exact hnew t n
  | update tenant o =>
    rw [perform_update]
    cases hblob : codec.encode o.schema with
    | error e => exact .of_kept (by simp [Write.onRow, hblob])
    | ok blob =>
      cases hrow : s.row tenant o.name with
      | none => exact .of_kept (by simp [Write.onRow, Write.key, hblob, hrow])
      | some old =>
        have hkept (r : StoredObject) (_ : r.hasKey tenant o.name) :
            (rowOf tenant blob (overwritten now r.createdOn o)).hasKey tenant o.name :=
          StoredObject.hasKey_iff.2 ⟨rfl, rfl⟩
        refine ⟨by simp [Write.onRow, Write.key, hblob, hrow], fun t n => ?_⟩
        simp [Write.onRow, Write.key, hblob, hrow, row_alter s hkept]
  | delete tenant name =>
    refine ⟨rfl, fun t n => ?_⟩
    simp only [Write.onRow, Write.key]
    exact s.row_delete tenant name t n
  | overwrite tenant name cell =>
    have hkept (r : StoredObject) (hr : r.hasKey tenant name) :
        (cell.put r).hasKey tenant name := by
      cases cell <;> exact hr
    exact ⟨congrArg Result.overwritten (countP_hasKey h tenant name), row_alter s hkept⟩

end Store
end MetricsView
