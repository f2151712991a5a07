import Mathlib.Data.List.Sort
import MetricsView.Proofs.Catalog.Deed
import MetricsView.Proofs.Catalog.Reading

/-! # Two stores that agree

Rows agree when they are the same but for their times, and the times agree. Stores agree on some
keys when their rows under these keys do, in whatever order the stores keep them. Then the deeds
that are about these keys have results that agree, and the stores agree afterwards. -/
namespace MetricsView

open Traversal

variable {R : Instant → Instant → Prop}

structure StoredObject.Agrees (R : Instant → Instant → Prop) (r q : StoredObject) : Prop where
  same : q = { r with
    createdOn := q.createdOn, updatedOn := q.updatedOn, refreshedOn := q.refreshedOn }
  createdOn : R r.createdOn q.createdOn
  updatedOn : R r.updatedOn q.updatedOn
  refreshedOn : R r.refreshedOn q.refreshedOn

structure CatalogObject.Agrees (R : Instant → Instant → Prop) (o p : CatalogObject) : Prop where
  same : p = { o with
    createdOn := p.createdOn, updatedOn := p.updatedOn, refreshedOn := p.refreshedOn }
  createdOn : R o.createdOn p.createdOn
  updatedOn : R o.updatedOn p.updatedOn
  refreshedOn : R o.refreshedOn p.refreshedOn

namespace StoredObject.Agrees

variable {r q : StoredObject}

theorem key_eq (h : r.Agrees R q) : Store.key r = Store.key q := by
  rw [h.same]
  rfl

theorem kindCode_eq (h : r.Agrees R q) : r.kindCode = q.kindCode := by
  rw [h.same]

theorem refl (hR : ∀ t, R t t) (r : StoredObject) : r.Agrees R r :=
  ⟨rfl, hR _, hR _, hR _⟩

theorem kind?_eq (h : r.Agrees R q) : r.kind? = q.kind? := by
  rw [kind?, kind?, h.kindCode_eq]

theorem decode (h : r.Agrees R q) (codec : Codec) (kind : ObjectKind) :
    Matches (CatalogObject.Agrees R) (r.decode codec kind) (q.decode codec kind) := by
  obtain ⟨hsame, hcreated, hupdated, hrefreshed⟩ := h
  have hschema : q.schema = r.schema := by rw [hsame]
  unfold StoredObject.decode
  rw [hschema]
  cases codec.decode r.schema with
  | error e => exact .error _
  | ok schema =>
    refine .ok ⟨?_, hcreated, hupdated, hrefreshed⟩
    rw [hsame]

theorem put (h : r.Agrees R q) (c : Store.Cell) : (c.put r).Agrees R (c.put q) := by
  obtain ⟨hsame, hcreated, hupdated, hrefreshed⟩ := h
  cases c <;> refine ⟨?_, hcreated, hupdated, hrefreshed⟩ <;> rw [hsame] <;> rfl

end StoredObject.Agrees

/-- Objects that agree are written as rows that agree. -/
theorem CatalogObject.Agrees.rowOf {o p : CatalogObject} (h : o.Agrees R p) (tenant : String)
    (blob : Option Text.Octets) :
    (Store.rowOf tenant blob o).Agrees R (Store.rowOf tenant blob p) := by
  obtain ⟨hsame, hcreated, hupdated, hrefreshed⟩ := h
  refine ⟨?_, hcreated, hupdated, hrefreshed⟩
  rw [hsame]
  rfl

namespace Store

inductive Answer.Agrees (R : Instant → Instant → Prop) : Answer → Answer → Prop where
  | object {o p} (h : o.Agrees R p) : Agrees R (.object o) (.object p)
  | done : Agrees R .done .done
  | found {o p} (h : Option.Rel (CatalogObject.Agrees R) o p) : Agrees R (.found o) (.found p)
  | listed {os ps} (h : List.Forall₂ (CatalogObject.Agrees R) os ps) :
      Agrees R (.listed os) (.listed ps)

/-- Answers agree in all but times; failures are the same. -/
inductive Result.Agrees (R : Instant → Instant → Prop) : Result → Result → Prop where
  | outcome {a b} (h : Matches (Answer.Agrees R) a b) : Agrees R (.outcome a) (.outcome b)
  | overwritten (rows) : Agrees R (.overwritten rows) (.overwritten rows)

/-- The same deed, at times that agree. -/
structure Act.Agrees (R : Instant → Instant → Prop) (x y : Act) : Prop where
  deed : x.deed = y.deed
  now : R x.now y.now

structure Occurrence.Agrees (R : Instant → Instant → Prop) (e f : Occurrence) : Prop where
  act : e.act.Agrees R f.act
  result : e.result.Agrees R f.result

/-- The rows under these keys agree. -/
def AgreesOn (R : Instant → Instant → Prop) (K : Set (String × String)) (s s' : Store) : Prop :=
  ∀ tenant name, (tenant, name) ∈ K →
    Option.Rel (StoredObject.Agrees R) (s.row tenant name) (s'.row tenant name)

theorem AgreesOn.refl (hR : ∀ t, R t t) (K : Set (String × String)) (s : Store) :
    AgreesOn R K s s := by
  intro tenant name _
  cases s.row tenant name with
  | none => exact .none
  | some r => exact .some (.refl hR r)

variable {codec : Codec}

/-- A write has results that agree where the rows agree, and leaves rows that agree. -/
theorem Write.onRow_agrees (w : Write) (codec : Codec) (hR : ∀ t, R t t) {now now' : Instant}
    (hnow : R now now') {r q : Option StoredObject} (h : Option.Rel (StoredObject.Agrees R) r q) :
    (w.onRow codec now r).1.Agrees R (w.onRow codec now' q).1 ∧
      Option.Rel (StoredObject.Agrees R) (w.onRow codec now r).2 (w.onRow codec now' q).2 := by
  cases w with
  | create tenant o =>
    have hnew : (stamped now o).Agrees R (stamped now' o) := ⟨rfl, hnow, hnow, hnow⟩
    cases hblob : codec.encode o.schema with
    | error e =>
      simp only [onRow, hblob]
      exact ⟨.outcome (.error _), h⟩
    | ok blob =>
      cases h with
      | none =>
        simp only [onRow, hblob]
        exact ⟨.outcome (.ok (.object hnew)), .some (hnew.rowOf tenant blob)⟩
      | some hr =>
        simp only [onRow, hblob]
        exact ⟨.outcome (.error _), .some hr⟩
  | update tenant o =>
    cases hblob : codec.encode o.schema with
    | error e =>
      simp only [onRow, hblob]
      exact ⟨.outcome (.error _), h⟩
    | ok blob =>
      cases h with
      | none =>
        simp only [onRow, hblob]
        exact ⟨.outcome (.error _), .none⟩
      | @some r q hr =>
        have hnew : (overwritten now r.createdOn o).Agrees R (overwritten now' q.createdOn o) :=
          ⟨rfl, hr.createdOn, hnow, hR _⟩
        simp only [onRow, hblob]
        exact ⟨.outcome (.ok (.object ⟨rfl, hR _, hnow, hR _⟩)), .some (hnew.rowOf tenant blob)⟩
  | delete tenant name => exact ⟨.outcome (.ok .done), .none⟩
  | overwrite tenant name cell =>
    cases h with
    | none => exact ⟨.overwritten 0, .none⟩
    | some hr => exact ⟨.overwritten 1, .some (hr.put cell)⟩

variable {s s' : Store} {tenant : String} {p : StoredObject → Bool}

/-- A selection of rows of one tenant that looks at their keys and kinds only. -/
structure Selects (tenant : String) (p : StoredObject → Bool) : Prop where
  tenant_eq : ∀ r, p r → r.tenant = tenant
  congr : ∀ r q, key r = key q → r.kindCode = q.kindCode → p r = p q

theorem selects_tenant (tenant : String) : Selects tenant fun r => r.tenant = tenant := by
  refine ⟨fun r hr => of_decide_eq_true hr, fun r q hkey _ => ?_⟩
  have htenant : r.tenant = q.tenant := congrArg Prod.fst hkey
  rw [htenant]

theorem selects_kind (tenant : String) (code : Int) :
    Selects tenant fun r => r.tenant = tenant && r.kindCode = code := by
  refine ⟨fun r hr => by simp_all, fun r q hkey hcode => ?_⟩
  have htenant : r.tenant = q.tenant := congrArg Prod.fst hkey
  rw [htenant, hcode]

theorem selects_folded (tenant name : String) :
    Selects tenant fun r => r.tenant = tenant && Text.lowercase r.name = Text.lowercase name := by
  refine ⟨fun r hr => by simp_all, fun r q hkey _ => ?_⟩
  have htenant : r.tenant = q.tenant := congrArg Prod.fst hkey
  have hname : r.name = q.name := congrArg Prod.snd hkey
  rw [htenant, hname]

theorem row_of_mem_selected (hd : s.Distinct) (hp : Selects tenant p) {r : StoredObject}
    (hr : r ∈ s.selected p) : s.row tenant r.name = some r := by
  obtain ⟨hmem, hsel⟩ := mem_selected.1 hr
  rw [← hp.tenant_eq r hsel]
  exact row_of_mem hd hmem

/-- The tenant's keys. -/
def keysOf (tenant : String) : Set (String × String) := {k | k.1 = tenant}

private theorem mem_names_selected_iff (h : AgreesOn R (keysOf tenant) s s') (hd : s.Distinct)
    (hd' : s'.Distinct) (hp : Selects tenant p) (name : String) :
    name ∈ (s.selected p).map StoredObject.name ↔ name ∈ (s'.selected p).map StoredObject.name := by
  have hselected {t : Store} (ht : t.Distinct) : name ∈ (t.selected p).map StoredObject.name ↔
      ∃ r, t.row tenant name = some r ∧ p r := by
    constructor
    · intro hname
      obtain ⟨r, hr, rfl⟩ := List.mem_map.1 hname
      exact ⟨r, row_of_mem_selected ht hp hr, (mem_selected.1 hr).2⟩
    · rintro ⟨r, hr, hsel⟩
      rw [← (hasKey_of_row_eq hr).2]
      exact List.mem_map_of_mem (mem_selected.2 ⟨List.mem_of_find?_eq_some hr, hsel⟩)
  rw [hselected hd, hselected hd']
  have hrel := h tenant name rfl
  generalize s.row tenant name = r at hrel
  generalize s'.row tenant name = q at hrel
  cases hrel with
  | none => simp
  | some hrq => simp [hp.congr _ _ hrq.key_eq hrq.kindCode_eq]

/-- The listing order is an order of names. -/
theorem sorted_names_selected (s : Store) (p : StoredObject → Bool) :
    ((s.selected p).map StoredObject.name).Pairwise fun a b =>
      toLex (Text.lowercase a, a) ≤ toLex (Text.lowercase b, b) := by
  rw [List.pairwise_map]
  exact s.selected_sorted p

/-- Reads of stores that agree go through the same names. -/
theorem names_selected_eq (h : AgreesOn R (keysOf tenant) s s') (hd : s.Distinct)
    (hd' : s'.Distinct) (hp : Selects tenant p) :
    (s.selected p).map StoredObject.name = (s'.selected p).map StoredObject.name := by
  have hperm := (List.perm_ext_iff_of_nodup (nodup_names_selected hd hp.tenant_eq)
    (nodup_names_selected hd' hp.tenant_eq)).2 (mem_names_selected_iff h hd hd' hp)
  apply hperm.eq_of_pairwise _ (s.sorted_names_selected p) (s'.sorted_names_selected p)
  intro a b _ _ hab hba
  have hrank := le_antisymm hab hba
  exact congrArg (fun k => (ofLex k).2) hrank

theorem AgreesOn.selected (h : AgreesOn R (keysOf tenant) s s') (hd : s.Distinct)
    (hd' : s'.Distinct) (hp : Selects tenant p) :
    List.Forall₂ (StoredObject.Agrees R) (s.selected p) (s'.selected p) := by
  have hnames := names_selected_eq h hd hd' hp
  rw [← List.forall₂_eq_eq_eq, List.forall₂_map_left_iff, List.forall₂_map_right_iff] at hnames
  obtain ⟨hlength, hzip⟩ := List.forall₂_iff_zip.1 hnames
  refine List.forall₂_iff_zip.2 ⟨hlength, fun {r q} hrq => ?_⟩
  obtain ⟨hr, hq⟩ := List.of_mem_zip hrq
  have hrel := h tenant r.name rfl
  rw [row_of_mem_selected hd hp hr, hzip hrq, row_of_mem_selected hd' hp hq] at hrel
  cases hrel with
  | some hagrees => exact hagrees

private theorem forall₂_zip_kinds {rows rows' : List StoredObject} (kinds : List ObjectKind)
    (h : List.Forall₂ (StoredObject.Agrees R) rows rows') (codec : Codec) :
    List.Forall₂ (fun x y => Matches (CatalogObject.Agrees R) (x.1.decode codec x.2)
      (y.1.decode codec y.2)) (rows.zip kinds) (rows'.zip kinds) := by
  induction h generalizing kinds with
  | nil => simp
  | cons hr _ ih =>
    cases kinds with
    | nil => simp
    | cons kind kinds => exact .cons (hr.decode codec kind) (ih kinds)

theorem AgreesOn.select (h : AgreesOn R (keysOf tenant) s s') (hd : s.Distinct)
    (hd' : s'.Distinct) (hp : Selects tenant p) (codec : Codec) :
    Matches (List.Forall₂ (CatalogObject.Agrees R)) (s.select codec p) (s'.select codec p) := by
  have hrows := h.selected hd hd' hp
  have hkinds : Matches (List.Forall₂ Eq) ((s.selected p).mapM StoredObject.kind?)
      ((s'.selected p).mapM StoredObject.kind?) := by
    refine matches_mapM (hrows.imp fun r q hrq => ?_)
    rw [hrq.kind?_eq]
    cases q.kind? with
    | ok kind => exact .ok rfl
    | error e => exact .error e
  refine hkinds.bind fun kinds kinds' heq => ?_
  rw [List.forall₂_eq_eq_eq] at heq
  subst heq
  exact matches_mapM (forall₂_zip_kinds kinds hrows codec)

theorem AgreesOn.list (h : AgreesOn R (keysOf tenant) s s') (hd : s.Distinct)
    (hd' : s'.Distinct) (codec : Codec) (kind : Option ObjectKind) :
    Matches (List.Forall₂ (CatalogObject.Agrees R)) (s.list codec tenant kind)
      (s'.list codec tenant kind) := by
  unfold Store.list
  split
  · exact h.select hd hd' (selects_tenant tenant) codec
  · exact h.select hd hd' (selects_tenant tenant) codec
  · exact h.select hd hd' (selects_kind tenant _) codec

theorem AgreesOn.find (h : AgreesOn R (keysOf tenant) s s') (hd : s.Distinct)
    (hd' : s'.Distinct) (codec : Codec) (name : String) :
    Matches (Option.Rel (CatalogObject.Agrees R)) (s.find codec tenant name)
      (s'.find codec tenant name) := by
  refine (h.select hd hd' (selects_folded tenant name) codec).bind fun os ps hos => .ok ?_
  cases hos with
  | nil => exact .none
  | cons ho _ => exact .some ho

end Store
end MetricsView
