import MetricsView.Proofs.Catalog.Listing

/-! # Rows that can not be decoded

A row may have a code that stands for no kind, and a blob that holds no schema. A read fails with
the first such row that it sees, where codes count before blobs, and rows that it does not see do
not matter to it. Writes look at keys alone, and an update leaves a row that is decoded. -/
namespace MetricsView

open Traversal

namespace StoredObject

variable {codec : Codec} {r : StoredObject}

/-- The code of the row stands for a kind. -/
def HasKind (r : StoredObject) : Prop := ∃ kind : ObjectKind, kind.code = r.kindCode

/-- The codec makes something of the blob of the row. -/
def HasSchema (codec : Codec) (r : StoredObject) : Prop :=
  ∃ schema, codec.decode r.schema = .ok schema

theorem hasKind_iff : r.HasKind ↔ ∃ kind, r.kind? = .ok kind := by
  constructor
  · rintro ⟨kind, hcode⟩
    exact ⟨kind, kind?_eq_ok_iff.2 (hcode ▸ ObjectKind.ofCode?_code kind)⟩
  · rintro ⟨kind, hkind⟩
    exact ⟨kind, ObjectKind.code_of_ofCode? (kind?_eq_ok_iff.1 hkind)⟩

private theorem kind?_eq_error_iff {e : Failure} :
    r.kind? = .error e ↔ ¬ r.HasKind ∧ e = .storage (.unknownKind r.kindCode) := by
  rw [hasKind_iff, kind?]
  cases ObjectKind.ofCode? r.kindCode with
  | some kind => simp
  | none => simp [eq_comm]

private theorem decode_eq_error_iff {kind : ObjectKind} {e : Failure} :
    r.decode codec kind = .error e ↔ ∃ fault, codec.decode r.schema = .error fault ∧
      e = .schema fault := by
  rw [decode]
  cases codec.decode r.schema with
  | ok schema => simp
  | error fault => simp [eq_comm]

private theorem exists_decode_eq_ok_iff {kind : ObjectKind} :
    (∃ o, r.decode codec kind = .ok o) ↔ r.HasSchema codec := by
  rw [decode, HasSchema]
  cases codec.decode r.schema <;> simp

/-- A row is decoded if nothing is wrong with it. -/
theorem exists_reads_iff : (∃ o, r.Reads codec o) ↔ r.HasKind ∧ r.HasSchema codec := by
  simp only [reads_iff, hasKind_iff, HasSchema]
  constructor
  · rintro ⟨-, kind, schema, hkind, hschema, -⟩
    exact ⟨⟨kind, hkind⟩, schema, hschema⟩
  · rintro ⟨⟨kind, hkind⟩, schema, hschema⟩
    exact ⟨_, kind, schema, hkind, hschema, rfl⟩

end StoredObject

namespace Store

/-- What a read of these rows fails with. The kinds of all rows are read before the first schema. So
a code that stands for no kind counts before any blob, wherever the two rows are. -/
inductive Fault (codec : Codec) (rows : List StoredObject) : Failure → Prop where
  | kind {before r after} (hrows : rows = before ++ r :: after) (hbefore : ∀ q ∈ before, q.HasKind)
      (hr : ¬ r.HasKind) : Fault codec rows (.storage (.unknownKind r.kindCode))
  | schema {before r after e} (hkinds : ∀ q ∈ rows, q.HasKind) (hrows : rows = before ++ r :: after)
      (hbefore : ∀ q ∈ before, q.HasSchema codec) (hr : codec.decode r.schema = .error e) :
      Fault codec rows (.schema e)

variable {codec : Codec} {s s' : Store} {p : StoredObject → Bool}

theorem kinds_eq_error_iff {rows : List StoredObject} {e : Failure} :
    rows.mapM StoredObject.kind? = .error e ↔ ∃ before r after, rows = before ++ r :: after ∧
      (∀ q ∈ before, q.HasKind) ∧ ¬ r.HasKind ∧ e = .storage (.unknownKind r.kindCode) := by
  simp only [mapM_eq_error_iff, findSome?_fault?_eq_some_iff, ← StoredObject.hasKind_iff,
    StoredObject.kind?_eq_error_iff]

theorem forall_hasKind_iff {rows : List StoredObject} :
    (∀ r ∈ rows, r.HasKind) ↔ ∃ kinds, rows.mapM StoredObject.kind? = .ok kinds := by
  simp only [exists_mapM_eq_ok_iff, StoredObject.hasKind_iff]

/-- The kinds are not looked at where a blob is at fault. -/
theorem schemas_eq_error_iff {rows : List StoredObject} {kinds : List ObjectKind}
    (hlength : rows.length = kinds.length) {e : Failure} :
    (rows.zip kinds).mapM (fun x => x.1.decode codec x.2) = .error e ↔
      ∃ before r after fault, rows = before ++ r :: after ∧ (∀ q ∈ before, q.HasSchema codec) ∧
        codec.decode r.schema = .error fault ∧ e = .schema fault := by
  have hfault : (fun x : StoredObject × ObjectKind => fault? (x.1.decode codec x.2)) =
      (fun r => fault? (r.decode codec .unspecified)) ∘ Prod.fst := by
    funext ⟨r, kind⟩
    simp only [StoredObject.decode, Function.comp]
    cases codec.decode r.schema <;> rfl
  rw [mapM_eq_error_iff, hfault, ← List.findSome?_map, List.map_fst_zip hlength.le,
    findSome?_fault?_eq_some_iff]
  simp only [StoredObject.exists_decode_eq_ok_iff, StoredObject.decode_eq_error_iff]
  constructor
  · rintro ⟨before, r, after, hrows, hbefore, fault, hr, rfl⟩
    exact ⟨before, r, after, fault, hrows, hbefore, hr, rfl⟩
  · rintro ⟨before, r, after, fault, hrows, hbefore, hr, rfl⟩
    exact ⟨before, r, after, hrows, hbefore, fault, hr, rfl⟩

theorem select_eq_error_iff {e : Failure} :
    s.select codec p = .error e ↔ Fault codec (s.selected p) e := by
  rw [select, bind_eq_error_iff]
  constructor
  · rintro (h | ⟨kinds, hkinds, h⟩)
    · obtain ⟨before, r, after, hrows, hbefore, hr, rfl⟩ := kinds_eq_error_iff.1 h
      exact .kind hrows hbefore hr
    · have hlength := (mapM_eq_ok_iff.1 hkinds).length_eq
      obtain ⟨before, r, after, fault, hrows, hbefore, hr, rfl⟩ :=
        (schemas_eq_error_iff hlength).1 h
      exact .schema (forall_hasKind_iff.2 ⟨kinds, hkinds⟩) hrows hbefore hr
  · rintro (⟨hrows, hbefore, hr⟩ | ⟨hkinds, hrows, hbefore, hr⟩)
    · exact .inl (kinds_eq_error_iff.2 ⟨_, _, _, hrows, hbefore, hr, rfl⟩)
    · obtain ⟨kinds, hkinds⟩ := forall_hasKind_iff.1 hkinds
      have hlength := (mapM_eq_ok_iff.1 hkinds).length_eq
      exact .inr ⟨kinds, hkinds, (schemas_eq_error_iff hlength).2 ⟨_, _, _, _, hrows, hbefore, hr, rfl⟩⟩

/-- The rows that a read is about. Who lists objects of the unspecified kind lists all. -/
def Read.sees : Read → StoredObject → Bool
  | find tenant name => fun r =>
    r.tenant = tenant && Text.lowercase r.name = Text.lowercase name
  | list tenant none | list tenant (some .unspecified) => fun r => r.tenant = tenant
  | list tenant (some kind) => fun r => r.tenant = tenant && r.kindCode = kind.code

theorem Read.selects_sees (x : Read) : Selects x.tenant x.sees := by
  cases x with
  | find tenant name => exact selects_folded tenant name
  | list tenant kind =>
    cases kind with
    | none => exact selects_tenant tenant
    | some kind =>
      cases kind with
      | unspecified => exact selects_tenant tenant
      | table | view | metricsView => exact selects_kind tenant _

theorem list_eq_select (s : Store) (codec : Codec) (tenant : String) (kind : Option ObjectKind) :
    s.list codec tenant kind = s.select codec (Read.list tenant kind).sees := by
  rcases kind with - | - | - | - | - <;> rfl

theorem find_eq_select (s : Store) (codec : Codec) (tenant name : String) :
    s.find codec tenant name = (s.select codec (Read.find tenant name).sees).map List.head? := by
  rw [find]
  unfold Read.sees
  cases s.select codec _ <;> rfl

/-- The selected rows, each once, in listing order. -/
structure InOrder (s : Store) (p : StoredObject → Bool) (rows : List StoredObject) : Prop where
  mem_iff : ∀ r, r ∈ rows ↔ r ∈ s.objects ∧ p r
  ordered : rows.Pairwise fun a b => Before a.name b.name

theorem inOrder_selected (hd : s.Distinct) {tenant : String} (hp : Selects tenant p) :
    s.InOrder p (s.selected p) :=
  ⟨fun _ => mem_selected, List.pairwise_map.1 (names_before hd hp.tenant_eq)⟩

/-- How a read of these rows ends that makes `f` of the objects. It fails if something is wrong with
one of the rows, and it gives what it makes of the objects of all of them, never of a part. -/
structure Ends {α : Type} (codec : Codec) (rows : List StoredObject) (f : List CatalogObject → α)
    (a : Except Failure α) : Prop where
  fails_iff : (∃ e, a = .error e) ↔ ∃ r ∈ rows, ¬ r.HasKind ∨ ¬ r.HasSchema codec
  error_iff : ∀ e, a = .error e ↔ Fault codec rows e
  ok_iff : ∀ b, a = .ok b ↔ ∃ os, List.Forall₂ (StoredObject.Reads codec) rows os ∧ b = f os

theorem exists_select_iff : (∃ os, s.select codec p = .ok os) ↔
    ∀ r ∈ s.selected p, r.HasKind ∧ r.HasSchema codec := by
  simp only [select_eq_ok_iff, ← StoredObject.exists_reads_iff]
  constructor
  · rintro ⟨os, hos⟩ r hr
    obtain ⟨o, -, ho⟩ := exists_zip_of_mem hos hr
    exact ⟨o, ho⟩
  · exact exists_forall₂

theorem ends_select {α : Type} (s : Store) (codec : Codec) (p : StoredObject → Bool)
    (f : List CatalogObject → α) : Ends codec (s.selected p) f ((s.select codec p).map f) := by
  refine ⟨?_, fun e => ?_, fun b => ?_⟩
  · have hfails : (∃ e, (s.select codec p).map f = .error e) ↔
        ¬ ∃ os, s.select codec p = .ok os := by
      cases s.select codec p <;> simp [Except.map]
    rw [hfails, exists_select_iff]
    simp only [not_forall, not_and_or, exists_prop]
  · rw [map_eq_error_iff, select_eq_error_iff]
  · simp only [map_eq_ok_iff, select_eq_ok_iff]

/-- Reads that see the same rows end in the same way. -/
theorem select_congr_of_sees (hd : s.Distinct) (hd' : s'.Distinct) (x : Read)
    (h : ∀ r, x.sees r → (r ∈ s.objects ↔ r ∈ s'.objects)) :
    s.select codec x.sees = s'.select codec x.sees :=
  select_congr (selected_congr hd hd' x.selects_sees.tenant_eq h)

private theorem contains_eq_false_iff {tenant name : String} :
    s.contains tenant name = false ↔ ∀ r ∈ s.objects, ¬ r.hasKey tenant name := by
  rw [contains, List.any_eq_false]

/-- An update fails if the new schema is not encoded, or else if there is no row. -/
theorem update_eq_error_iff {now : Instant} {tenant : String} {o : CatalogObject} {e : Failure} :
    s.update codec now tenant o = .error e ↔
      (∃ fault, codec.encode o.schema = .error fault ∧ e = .schema fault) ∨
        (∃ blob, codec.encode o.schema = .ok blob) ∧
          (∀ r ∈ s.objects, ¬ r.hasKey tenant o.name) ∧ e = .notFound .object o.name := by
  rw [update_eq, ← contains_eq_false_iff]
  cases codec.encode o.schema with
  | error fault => simpa using eq_comm
  | ok blob => cases s.contains tenant o.name <;> simp [eq_comm]

theorem update_eq_ok_iff {now : Instant} {tenant : String} {o answer : CatalogObject} :
    s.update codec now tenant o = .ok (answer, s') ↔ s.contains tenant o.name ∧
      ∃ blob, codec.encode o.schema = .ok blob ∧ answer = { o with updatedOn := now } ∧
        s' = ⟨s.objects.map (overwriteRow tenant blob now o)⟩ := by
  rw [update_eq]
  cases codec.encode o.schema with
  | error fault => simp
  | ok blob => cases s.contains tenant o.name <;> simp [eq_comm]

section Overwriting

variable {tenant : String} {blob : Option Text.Octets} {now : Instant} {o : CatalogObject}
  {r : StoredObject}

private theorem overwriteRow_of_hasKey (h : r.hasKey tenant o.name) :
    overwriteRow tenant blob now o r = rowOf tenant blob (overwritten now r.createdOn o) := if_pos h

theorem overwriteRow_of_not_hasKey (h : ¬ r.hasKey tenant o.name) :
    overwriteRow tenant blob now o r = r := if_neg h

/-- Whatever the row held, it is decoded to the object once that is written over it. -/
theorem reads_overwriteRow (hcodec : codec.RoundTrips) (hblob : codec.encode o.schema = .ok blob)
    (h : r.hasKey tenant o.name) :
    (overwriteRow tenant blob now o r).Reads codec (overwritten now r.createdOn o) := by
  have hnew : (rowOf tenant blob (overwritten now r.createdOn o)).Holds codec tenant
      (overwritten now r.createdOn o) := ⟨blob, hblob, rfl⟩
  rw [overwriteRow_of_hasKey h]
  exact hnew.reads hcodec

private theorem exists_row_of_update (hcodec : codec.RoundTrips) {answer : CatalogObject}
    (h : s.update codec now tenant o = .ok (answer, s')) :
    ∃ old r, s.row tenant o.name = some old ∧ s'.row tenant o.name = some r ∧
      r.Reads codec (overwritten now old.createdOn o) := by
  obtain ⟨hpresent, blob, hblob, -, rfl⟩ := update_eq_ok_iff.1 h
  rw [contains_eq, Option.isSome_iff_exists] at hpresent
  obtain ⟨old, hold⟩ := hpresent
  have hkept (q : StoredObject) := overwriteRow_kept tenant blob now o q
  have hkey : old.hasKey tenant o.name := StoredObject.hasKey_iff.2 (hasKey_of_row_eq hold)
  refine ⟨old, _, hold, ?_, reads_overwriteRow hcodec hblob hkey⟩
  rw [row_map fun q => ⟨(hkept q).1, (hkept q).2.1⟩, hold, Option.map_some]

end Overwriting

/-- What the rows of a store may hold does no harm beyond them. -/
structure ContainsDamage (codec : Codec) (s : Store) : Prop where
  /-- A list fails if something is wrong with a row that it sees, and then as the first one does. -/
  list : ∀ tenant kind, ∃ rows, s.InOrder (Read.list tenant kind).sees rows ∧
    Ends codec rows id (s.list codec tenant kind)
  /-- So does a look-up, also where the row is not the one that it would find. -/
  find : ∀ tenant name, ∃ rows, s.InOrder (Read.find tenant name).sees rows ∧
    Ends codec rows List.head? (s.find codec tenant name)
  /-- Rows that it does not see do not matter to a list. -/
  list_congr : ∀ s' : Store, s'.Distinct → ∀ tenant kind,
    (∀ r, (Read.list tenant kind).sees r → (r ∈ s.objects ↔ r ∈ s'.objects)) →
      s.list codec tenant kind = s'.list codec tenant kind
  find_congr : ∀ s' : Store, s'.Distinct → ∀ tenant name,
    (∀ r, (Read.find tenant name).sees r → (r ∈ s.objects ↔ r ∈ s'.objects)) →
      s.find codec tenant name = s'.find codec tenant name
  /-- An update does not fail for what is in its row. -/
  update : ∀ now tenant o e, s.update codec now tenant o = .error e ↔
    (∃ fault, codec.encode o.schema = .error fault ∧ e = .schema fault) ∨
      (∃ blob, codec.encode o.schema = .ok blob) ∧
        (∀ r ∈ s.objects, ¬ r.hasKey tenant o.name) ∧ e = .notFound .object o.name
  /-- A delete does not fail at all. -/
  delete : ∀ now tenant name, (s.step codec ⟨.delete tenant name, now⟩).1 = .ok .done ∧
    ∀ r, r ∈ (s.step codec ⟨.delete tenant name, now⟩).2.objects ↔
      r ∈ s.objects ∧ ¬ r.hasKey tenant name
  /-- The row that is updated is decoded to what was given, whatever was there. -/
  repair : ∀ now tenant o answer s', s.update .json now tenant o = .ok (answer, s') →
    ∃ old r, s.row tenant o.name = some old ∧ s'.row tenant o.name = some r ∧
      r.Reads .json { o with createdOn := old.createdOn, updatedOn := now }

/-- Whatever the rows of a store hold, a read fails with what is wrong with the first row that it
sees with anything wrong, codes before blobs, and otherwise it gives the objects of all these rows.
Writes do not mind, and an update mends its row. -/
theorem damage_is_contained (codec : Codec) {s : Store} (hs : s.Distinct) :
    s.ContainsDamage codec where
  list tenant kind := by
    have hends := ends_select s codec (Read.list tenant kind).sees id
    rw [Except.map_id, id, ← list_eq_select] at hends
    exact ⟨_, inOrder_selected hs (Read.list tenant kind).selects_sees, hends⟩
  find tenant name := by
    rw [find_eq_select]
    exact ⟨_, inOrder_selected hs (Read.find tenant name).selects_sees, ends_select s codec _ _⟩
  list_congr s' hs' tenant kind h := by
    rw [list_eq_select, list_eq_select, select_congr_of_sees hs hs' _ h]
  find_congr s' hs' tenant name h := by
    rw [find_eq_select, find_eq_select, select_congr_of_sees hs hs' _ h]
  update _ _ _ _ := update_eq_error_iff
  delete now tenant name := by
    refine ⟨rfl, fun r => ?_⟩
    simp [step, Store.delete]
  repair _ _ _ _ _ h := exists_row_of_update Codec.json_roundTrips h

/-- A blob that holds no schema, and after it in the listing a code that stands for no kind. -/
def damagedStore : Store := sampleStore.afterActs .json
  [⟨.write (.overwrite "acme" "A" (.schema (some [0, 255]))), ⟨7, 0⟩⟩,
    ⟨.write (.overwrite "acme" "b" (.kindCode 99)), ⟨8, 0⟩⟩]

def mendedStore : Store := (damagedStore.perform .json ⟨9, 0⟩
  (.write (.update "acme" (.ofName "b" .view)))).2

theorem damage_is_contained_sample : damagedStore.Distinct ∧ damagedStore.ContainsDamage .json ∧
    (∃ e, damagedStore.list .json "acme" none = .error e) ∧
    ∃ r, mendedStore.row "acme" "b" = some r ∧
      r.Reads .json (overwritten ⟨9, 0⟩ ⟨1, 0⟩ (.ofName "b" .view)) := by
  have hs : damagedStore.Distinct := by
    unfold Distinct
    decide
  have hcontained := damage_is_contained .json hs
  refine ⟨hs, hcontained, ?_, ?_⟩
  · obtain ⟨rows, hrows, hends⟩ := hcontained.list "acme" none
    obtain ⟨r, hr, hcode⟩ : ∃ r ∈ damagedStore.objects, r.tenant = "acme" ∧ r.kindCode = 99 := by
      decide
    have hsees : (Read.list "acme" none).sees r := decide_eq_true hcode.1
    refine hends.fails_iff.2 ⟨r, (hrows.mem_iff r).2 ⟨hr, hsees⟩, .inl ?_⟩
    rintro ⟨kind, hkind⟩
    rw [hcode.2] at hkind
    cases kind <;> cases hkind
  · have hupdate : damagedStore.update .json ⟨9, 0⟩ "acme" (.ofName "b" .view) =
        .ok ({ CatalogObject.ofName "b" .view with updatedOn := ⟨9, 0⟩ }, mendedStore) := by rfl
    obtain ⟨old, r, hold, hr, hreads⟩ := hcontained.repair _ _ _ _ _ hupdate
    change damagedStore.row "acme" "b" = some old at hold
    have hcreated : (damagedStore.row "acme" "b").map StoredObject.createdOn = some ⟨1, 0⟩ := by
      rfl
    rw [hold, Option.map_some, Option.some.injEq] at hcreated
    exact ⟨r, hr, hcreated ▸ hreads⟩

end Store
end MetricsView
