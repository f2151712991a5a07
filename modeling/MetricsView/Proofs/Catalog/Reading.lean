import Mathlib.Data.List.Nodup
import Mathlib.Data.Prod.Lex
import Mathlib.Data.String.Basic
import MetricsView.Proofs.Catalog.Refinement
import MetricsView.Proofs.Schema
import MetricsView.Proofs.Traversal

/-! # What reads of the catalog return

A read selects rows, puts them in listing order and decodes them. It fails if one of them can not
be decoded, and otherwise answers with all of them. -/
namespace MetricsView

open Traversal

/-- The row is decoded to the object. -/
def StoredObject.Reads (codec : Codec) (r : StoredObject) (o : CatalogObject) : Prop :=
  ∃ kind, r.kind? = .ok kind ∧ r.decode codec kind = .ok o

theorem StoredObject.kind?_eq_ok_iff {r : StoredObject} {kind : ObjectKind} :
    r.kind? = .ok kind ↔ ObjectKind.ofCode? r.kindCode = some kind := by
  rw [kind?]
  cases ObjectKind.ofCode? r.kindCode <;> simp

theorem ObjectKind.code_of_ofCode? {code : Int} {kind : ObjectKind}
    (h : ofCode? code = some kind) : kind.code = code := by
  have hfound := List.find?_some h
  simpa using hfound

/-- The parts of the object that a row has as they are. -/
theorem StoredObject.Reads.parts {codec : Codec} {r : StoredObject} {o : CatalogObject}
    (h : r.Reads codec o) : o.name = r.name ∧ o.kind.code = r.kindCode := by
  obtain ⟨kind, hkind, hdecode⟩ := h
  have hcode := ObjectKind.code_of_ofCode? (kind?_eq_ok_iff.1 hkind)
  unfold decode at hdecode
  split at hdecode
  · obtain rfl := Except.ok.inj hdecode
    exact ⟨rfl, hcode⟩
  · cases hdecode

/-- What a row is decoded to, column by column. -/
theorem StoredObject.reads_iff {codec : Codec} {r : StoredObject} {o : CatalogObject} :
    r.Reads codec o ↔ ∃ kind schema, r.kind? = .ok kind ∧ codec.decode r.schema = .ok schema ∧
      o = ⟨r.name, kind, r.sql, schema, r.managed ≠ 0, r.createdOn, r.updatedOn, r.refreshedOn⟩ := by
  unfold Reads decode
  constructor
  · rintro ⟨kind, hkind, hdecode⟩
    cases hschema : codec.decode r.schema with
    | error e => simp [hschema] at hdecode
    | ok schema =>
      simp only [hschema] at hdecode
      exact ⟨kind, schema, hkind, rfl, (Except.ok.inj hdecode).symm⟩
  · rintro ⟨kind, schema, hkind, hschema, rfl⟩
    exact ⟨kind, hkind, by simp only [hschema]⟩

/-- The row of an object is decoded to that object, if its schema survives. -/
theorem StoredObject.Holds.reads {codec : Codec} (hcodec : codec.RoundTrips) {tenant : String}
    {r : StoredObject} {o : CatalogObject} (h : r.Holds codec tenant o) : r.Reads codec o := by
  obtain ⟨blob, hencode, rfl⟩ := h
  obtain ⟨blob', hencode', hdecode⟩ := hcodec.exists_blob o.schema
  obtain rfl : blob = blob' := Except.ok.inj (hencode.symm.trans hencode')
  refine ⟨o.kind, kind?_eq_ok_iff.2 (ObjectKind.ofCode?_code o.kind), ?_⟩
  obtain ⟨_, _, _, _, managed, _, _, _⟩ := o
  cases managed <;> simp [decode, Store.rowOf, hdecode]

namespace Store

variable {codec : Codec} {s : Store} {p : StoredObject → Bool}

/-- The rows that a read decodes, in the order of its answer. -/
def selected (s : Store) (p : StoredObject → Bool) : List StoredObject :=
  (s.objects.filter p).mergeSort StoredObject.precedes

theorem mem_selected {r : StoredObject} : r ∈ s.selected p ↔ r ∈ s.objects ∧ p r := by
  rw [selected, List.mem_mergeSort, List.mem_filter]

private theorem forall₂_zip {rows : List StoredObject} {kinds : List ObjectKind}
    {os : List CatalogObject} (hkinds : List.Forall₂ (fun r k => r.kind? = .ok k) rows kinds)
    (h : List.Forall₂ (fun x o => x.1.decode codec x.2 = .ok o) (rows.zip kinds) os) :
    List.Forall₂ (StoredObject.Reads codec) rows os := by
  induction hkinds generalizing os with
  | nil =>
    cases h
    exact .nil
  | cons hkind _ ih =>
    cases h with
    | cons hdecode hrest => exact .cons ⟨_, hkind, hdecode⟩ (ih hrest)

private theorem exists_kinds {rows : List StoredObject} {os : List CatalogObject}
    (h : List.Forall₂ (StoredObject.Reads codec) rows os) :
    ∃ kinds, List.Forall₂ (fun r k => r.kind? = .ok k) rows kinds ∧
      List.Forall₂ (fun x o => x.1.decode codec x.2 = .ok o) (rows.zip kinds) os := by
  induction h with
  | nil => exact ⟨[], .nil, .nil⟩
  | cons hread _ ih =>
    obtain ⟨kind, hkind, hdecode⟩ := hread
    obtain ⟨kinds, hkinds, hrest⟩ := ih
    exact ⟨kind :: kinds, .cons hkind hkinds, .cons hdecode hrest⟩

/-- A read answers when all the rows that it selects are decoded, and with what they are decoded
to. -/
theorem select_eq_ok_iff {os : List CatalogObject} : s.select codec p = .ok os ↔
    List.Forall₂ (StoredObject.Reads codec) (s.selected p) os := by
  rw [select, bind_eq_ok_iff]
  constructor
  · rintro ⟨kinds, hkinds, h⟩
    exact forall₂_zip (mapM_eq_ok_iff.1 hkinds) (mapM_eq_ok_iff.1 h)
  · intro h
    obtain ⟨kinds, hkinds, hrest⟩ := exists_kinds h
    exact ⟨kinds, mapM_eq_ok_iff.2 hkinds, mapM_eq_ok_iff.2 hrest⟩

end Store

open Store

theorem Store.row_of_mem {s : Store} (h : s.Distinct) {r : StoredObject} (hr : r ∈ s.objects) :
    s.row r.tenant r.name = some r := by
  have hself : r.hasKey r.tenant r.name := StoredObject.hasKey_iff.2 ⟨rfl, rfl⟩
  obtain ⟨q, hq⟩ := Option.isSome_iff_exists.1 (List.find?_isSome.2 ⟨r, hr, hself⟩)
  have hkey : key q = key r :=
    Prod.ext (hasKey_of_row_eq hq).1 (hasKey_of_row_eq hq).2
  rw [row, hq, List.inj_on_of_nodup_map h (List.mem_of_find?_eq_some hq) hr hkey]

theorem StoredObject.Holds.name {codec : Codec} {tenant : String} {r : StoredObject}
    {o : CatalogObject} (h : r.Holds codec tenant o) : r.name = o.name := by
  obtain ⟨_, -, rfl⟩ := h
  rfl

/-- Two rows of the tenant with one name have one key. -/
theorem Store.nodup_names_selected {s : Store} (hd : s.Distinct) {tenant : String}
    {p : StoredObject → Bool} (hp : ∀ r, p r → r.tenant = tenant) :
    ((s.selected p).map StoredObject.name).Nodup := by
  have hkeys : ((s.selected p).map key).Nodup := by
    refine ((List.mergeSort_perm _ _).map key).nodup_iff.2 ?_
    exact hd.sublist ((List.filter_sublist).map key)
  rw [List.Nodup, List.pairwise_map] at hkeys ⊢
  refine hkeys.imp_of_mem fun {a b} ha hb hkey hname => hkey ?_
  have htenant {r : StoredObject} (hr : r ∈ s.selected p) : r.tenant = tenant :=
    hp r (mem_selected.1 hr).2
  exact Prod.ext ((htenant ha).trans (htenant hb).symm) hname

private theorem forall₂_filterMap {α β : Type} {R : α → β → Prop} {f : α → Option β} {as : List α}
    (h : ∀ a ∈ as, ∃ b, f a = some b ∧ R a b) : List.Forall₂ R as (as.filterMap f) := by
  induction as with
  | nil => exact .nil
  | cons a as ih =>
    obtain ⟨⟨b, hb, hab⟩, has⟩ := List.forall_mem_cons.1 h
    rw [List.filterMap_cons_some hb]
    exact .cons hab (ih has)

/-- The names that differ from this one in case at most. -/
def Store.folded (name n : String) : Bool := Text.lowercase n = Text.lowercase name

/-- Selects the rows of a tenant by their names. -/
def StoredObject.named (tenant : String) (q : String → Bool) (r : StoredObject) : Bool :=
  r.tenant = tenant && q r.name

theorem StoredObject.named_iff {tenant : String} {q : String → Bool} {r : StoredObject} :
    r.named tenant q ↔ r.tenant = tenant ∧ q r.name := by
  rw [named, Bool.and_eq_true, decide_eq_true_iff]

namespace Represents

variable {codec : Codec} {s : Store} {m : Contents}

private theorem exists_object (h : Represents codec s m) (hd : s.Distinct) {r : StoredObject}
    (hr : r ∈ s.objects) : ∃ o, m r.tenant r.name = some o ∧ r.Holds codec r.tenant o := by
  have hrel := h r.tenant r.name
  rw [row_of_mem hd hr] at hrel
  generalize m r.tenant r.name = o at hrel
  cases hrel with
  | some hholds => exact ⟨_, rfl, hholds⟩

/-- The objects of the map, in the order of the selected rows. -/
def answer (s : Store) (m : Contents) (p : StoredObject → Bool) : List CatalogObject :=
  (s.selected p).filterMap fun r => m r.tenant r.name

theorem select_eq (h : Represents codec s m) (hd : s.Distinct) (hcodec : codec.RoundTrips)
    (p : StoredObject → Bool) : s.select codec p = .ok (answer s m p) := by
  refine select_eq_ok_iff.2 (forall₂_filterMap fun r hr => ?_)
  obtain ⟨o, ho, hholds⟩ := h.exists_object hd (mem_selected.1 hr).1
  exact ⟨o, ho, hholds.reads hcodec⟩

private theorem mem_answer {p : StoredObject → Bool} {o : CatalogObject} :
    o ∈ answer s m p ↔ ∃ r ∈ s.objects, p r ∧ m r.tenant r.name = some o := by
  simp [answer, mem_selected, and_assoc]

theorem name_eq (h : Represents codec s m) {tenant name : String} {o : CatalogObject}
    (hm : m tenant name = some o) : o.name = name := by
  obtain ⟨r, hr, hholds⟩ := h.exists_row hm
  rw [← hholds.name, (hasKey_of_row_eq hr).2]

/-- What is selected by tenant and name, said of the map. -/
theorem mem_answer_iff (h : Represents codec s m) {tenant : String} {q : String → Bool}
    {o : CatalogObject} : o ∈ answer s m (StoredObject.named tenant q) ↔
      m tenant o.name = some o ∧ q o.name := by
  rw [mem_answer]
  constructor
  · rintro ⟨r, -, hsel, hm⟩
    obtain ⟨rfl, hq⟩ := StoredObject.named_iff.1 hsel
    have hname := h.name_eq hm
    rw [hname]
    exact ⟨hm, hq⟩
  · rintro ⟨hm, hq⟩
    obtain ⟨r, hr, hholds⟩ := h.exists_row hm
    obtain ⟨rfl, hname⟩ := hasKey_of_row_eq hr
    refine ⟨r, List.mem_of_find?_eq_some hr, StoredObject.named_iff.2 ⟨rfl, ?_⟩, hname.symm ▸ hm⟩
    rw [hname]
    exact hq

private theorem nodup_answer (h : Represents codec s m) (hd : s.Distinct) (tenant : String)
    (q : String → Bool) :
    ((answer s m (StoredObject.named tenant q)).map CatalogObject.name).Nodup := by
  have htenant (r : StoredObject) (hr : StoredObject.named tenant q r) : r.tenant = tenant :=
    (StoredObject.named_iff.1 hr).1
  have hrows := nodup_names_selected hd htenant
  rw [List.Nodup, List.pairwise_map] at hrows ⊢
  rw [answer, List.pairwise_filterMap]
  refine hrows.imp fun {a b} hne oa hoa ob hob hname => hne ?_
  rw [← h.name_eq hoa, ← h.name_eq hob, hname]

theorem list_eq (h : Represents codec s m) (hd : s.Distinct) (hcodec : codec.RoundTrips)
    (tenant : String) : s.list codec tenant none =
      .ok (answer s m (StoredObject.named tenant fun _ => true)) := by
  have hall : (fun r : StoredObject => decide (r.tenant = tenant)) =
      StoredObject.named tenant fun _ => true := by
    funext r
    rw [StoredObject.named, Bool.and_true]
  rw [← h.select_eq hd hcodec, list, hall]

theorem find_eq (h : Represents codec s m) (hd : s.Distinct) (hcodec : codec.RoundTrips)
    (tenant name : String) : s.find codec tenant name =
      .ok (answer s m (StoredObject.named tenant (folded name))).head? := by
  change (s.select codec (StoredObject.named tenant (folded name)) >>= _) = _
  rw [h.select_eq hd hcodec]
  rfl

/-- A look-up never fails. What it finds is in the map under a name that differs in case at most,
and it finds nothing only where nothing is under any such name. -/
theorem exists_found (h : Represents codec s m) (hd : s.Distinct) (hcodec : codec.RoundTrips)
    (tenant name : String) : ∃ found, s.find codec tenant name = .ok found ∧
      (∀ o ∈ found, m tenant o.name = some o ∧ Text.lowercase o.name = Text.lowercase name) ∧
      (found = none → ∀ n, Text.lowercase n = Text.lowercase name → m tenant n = none) := by
  refine ⟨_, h.find_eq hd hcodec tenant name, fun o ho => ?_, fun hnone n hn => ?_⟩
  · obtain ⟨hm, hfolded⟩ := h.mem_answer_iff.1 (List.mem_of_head? ho)
    exact ⟨hm, of_decide_eq_true hfolded⟩
  · rw [List.head?_eq_none_iff] at hnone
    cases hm : m tenant n with
    | none => rfl
    | some o =>
      have hname := h.name_eq hm
      have hmem : o ∈ answer s m (StoredObject.named tenant (folded name)) :=
        h.mem_answer_iff.2 ⟨hname.symm ▸ hm, decide_eq_true (hname.symm ▸ hn)⟩
      rw [hnone] at hmem
      cases hmem

end Represents

/-- Where a row stands in a listing. -/
def StoredObject.rank (r : StoredObject) : String ×ₗ String := toLex (Text.lowercase r.name, r.name)

theorem StoredObject.precedes_iff {a b : StoredObject} : a.precedes b ↔ a.rank ≤ b.rank := by
  rw [rank, rank, Prod.Lex.toLex_le_toLex]
  simp [precedes]

theorem Store.selected_sorted (s : Store) (p : StoredObject → Bool) :
    (s.selected p).Pairwise fun a b => a.rank ≤ b.rank := by
  refine (List.pairwise_mergeSort (fun a b c hab hbc => ?_) (fun a b => ?_) _).imp
    StoredObject.precedes_iff.1
  · rw [StoredObject.precedes_iff] at hab hbc ⊢
    exact hab.trans hbc
  · rw [Bool.or_eq_true, StoredObject.precedes_iff, StoredObject.precedes_iff]
    exact le_total _ _

/-- A look-up sees the row, and none before it. -/
structure Store.First (s : Store) (tenant name : String) (r : StoredObject) : Prop where
  mem : r ∈ s.objects
  tenant_eq : r.tenant = tenant
  folded : Text.lowercase r.name = Text.lowercase name
  le : ∀ q ∈ s.objects, q.tenant = tenant → Text.lowercase q.name = Text.lowercase name →
    r.name ≤ q.name

theorem Store.exists_first {codec : Codec} {s : Store} {tenant name : String} {o : CatalogObject}
    (h : s.find codec tenant name = .ok (some o)) :
    ∃ r, s.First tenant name r ∧ r.Reads codec o := by
  obtain ⟨os, hselect, hhead⟩ := Traversal.bind_eq_ok_iff.1 h
  have hreads := select_eq_ok_iff.1 hselect
  have hsorted := s.selected_sorted (StoredObject.named tenant (folded name))
  have hmem (r : StoredObject) :
      r ∈ s.selected (StoredObject.named tenant (folded name)) ↔
        r ∈ s.objects ∧ r.tenant = tenant ∧ Text.lowercase r.name = Text.lowercase name := by
    rw [mem_selected, StoredObject.named_iff, folded, decide_eq_true_iff]
  change List.Forall₂ _ (s.selected (StoredObject.named tenant (folded name))) os
    at hreads
  generalize s.selected (StoredObject.named tenant (folded name)) = rows
    at hreads hsorted hmem
  cases hreads with
  | nil => cases hhead
  | @cons r o' rest _ hread _ =>
    obtain rfl : o' = o := Option.some.inj (Except.ok.inj hhead)
    obtain ⟨hr, htenant, hfolded⟩ := (hmem r).1 (by simp)
    refine ⟨r, ⟨hr, htenant, hfolded, fun q hq hqtenant hqfolded => ?_⟩, hread⟩
    rcases List.mem_cons.1 ((hmem q).2 ⟨hq, hqtenant, hqfolded⟩) with rfl | hrest
    · exact le_rfl
    · have hle := (List.pairwise_cons.1 hsorted).1 q hrest
      rw [StoredObject.rank, StoredObject.rank, Prod.Lex.toLex_le_toLex, hfolded, hqfolded] at hle
      simpa using hle

private theorem filter_name_eq_singleton_iff {os : List CatalogObject}
    (h : (os.map CatalogObject.name).Nodup) {o : CatalogObject} :
    os.filter (fun p => p.name = o.name) = [o] ↔ o ∈ os := by
  constructor
  · intro hfilter
    have hmem : o ∈ os.filter fun p => p.name = o.name := by simp [hfilter]
    exact (List.mem_filter.1 hmem).1
  · intro ho
    induction os with
    | nil => cases ho
    | cons p os ih =>
      obtain ⟨hfresh, hrest⟩ := List.nodup_cons.1 h
      rcases List.mem_cons.1 ho with rfl | ho
      · have hnone : os.filter (fun p => p.name = o.name) = [] := by
          refine List.filter_eq_nil_iff.2 fun p hp hname => hfresh ?_
          rw [← of_decide_eq_true hname]
          exact List.mem_map_of_mem hp
        simp [hnone]
      · have hother : p.name ≠ o.name := by
          intro hname
          rw [hname] at hfresh
          exact hfresh (List.mem_map_of_mem ho)
        rw [List.filter_cons_of_neg (by simpa using hother)]
        exact ih hrest ho

/-- The listing of the tenant has one object of that name, and it is this one. -/
def Store.Has (s : Store) (codec : Codec) (tenant : String) (o : CatalogObject) : Prop :=
  ∃ os, s.list codec tenant none = .ok os ∧ os.filter (fun p => p.name = o.name) = [o]

theorem Represents.has_iff {codec : Codec} {s : Store} {m : Contents} (h : Represents codec s m)
    (hd : s.Distinct) (hcodec : codec.RoundTrips) {tenant : String} {o : CatalogObject} :
    s.Has codec tenant o ↔ m tenant o.name = some o := by
  have hlist := h.list_eq hd hcodec tenant
  have hone := filter_name_eq_singleton_iff (h.nodup_answer hd tenant fun _ => true) (o := o)
  rw [h.mem_answer_iff, and_iff_left rfl] at hone
  rw [← hone]
  constructor
  · rintro ⟨os, hos, hfilter⟩
    obtain rfl := Except.ok.inj (hlist.symm.trans hos)
    exact hfilter
  · exact fun hfilter => ⟨_, hlist, hfilter⟩

end MetricsView
