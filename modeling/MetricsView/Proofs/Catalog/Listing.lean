import MetricsView.Proofs.Catalog.Agreement
import MetricsView.Proofs.Text

/-! # What listings and look-ups show

A store has no two rows under one key, so listing order leaves no choice between the rows of a
tenant. A listing is then known from the set of these rows, and whatever selects some of them goes
through them in the order of all. A look-up by name takes the first object of the listing whose name
differs in case at most. An object that was created where there was no such name is what every such
look-up finds. -/
namespace MetricsView

open Text (octets)

theorem StoredObject.Reads.kindCode_eq_iff {codec : Codec} {r : StoredObject} {o : CatalogObject}
    (h : r.Reads codec o) (kind : ObjectKind) : r.kindCode = kind.code ↔ o.kind = kind := by
  rw [← h.parts.2]
  constructor
  · intro hcode
    have hkind := congrArg ObjectKind.ofCode? hcode
    rw [ObjectKind.ofCode?_code, ObjectKind.ofCode?_code] at hkind
    exact Option.some.inj hkind
  · rintro rfl
    rfl

namespace Store

/-- The strict order of names in listings, octet by octet: that of the names in lower case, and of
the names themselves where these are the same. -/
def Before (a b : String) : Prop :=
  octets (Text.lowercase a) < octets (Text.lowercase b) ∨
    octets (Text.lowercase a) = octets (Text.lowercase b) ∧ octets a < octets b

/-- Some acts lead from the empty store to this one. -/
def Reachable (codec : Codec) (s : Store) : Prop := ∃ xs, s = Store.empty.afterActs codec xs

theorem Reachable.distinct {codec : Codec} {s : Store} (h : s.Reachable codec) : s.Distinct := by
  obtain ⟨xs, rfl⟩ := h
  exact distinct_empty.afterActs codec xs

def rowsOf (s : Store) (tenant : String) : List StoredObject :=
  s.objects.filter fun r => r.tenant = tenant

/-- All rows of the tenant are decoded. -/
def Readable (s : Store) (codec : Codec) (tenant : String) : Prop :=
  ∀ r ∈ s.rowsOf tenant, ∃ o, r.Reads codec o

variable {s s' : Store} {tenant : String} {p : StoredObject → Bool}

/-- In listing order no two rows of a tenant are at one place. -/
theorem eq_selected (hd : s.Distinct) (hp : ∀ r, p r → r.tenant = tenant)
    {rows : List StoredObject} (hperm : rows.Perm (s.objects.filter p))
    (hsorted : rows.Pairwise fun a b => a.rank ≤ b.rank) : rows = s.selected p := by
  have hmem {r : StoredObject} (hr : r ∈ rows) : r ∈ s.objects ∧ r.tenant = tenant := by
    obtain ⟨hmem, hsel⟩ := List.mem_filter.1 (hperm.mem_iff.1 hr)
    exact ⟨hmem, hp r hsel⟩
  have hselected : (s.selected p).Perm (s.objects.filter p) := List.mergeSort_perm _ _
  refine (hperm.trans hselected.symm).eq_of_pairwise ?_ hsorted (s.selected_sorted p)
  intro a b ha hb hab hba
  obtain ⟨ha, hatenant⟩ := hmem ha
  obtain ⟨hb, hbtenant⟩ := hmem (hperm.mem_iff.2 (hselected.mem_iff.1 hb))
  have hname : a.name = b.name := congrArg (fun k => (ofLex k).2) (le_antisymm hab hba)
  exact List.inj_on_of_nodup_map hd ha hb (Prod.ext (hatenant.trans hbtenant.symm) hname)

/-- To select from what is selected is to filter it. -/
theorem selected_and (hd : s.Distinct) (hp : ∀ r, p r → r.tenant = tenant)
    (q : StoredObject → Bool) : s.selected (fun r => p r && q r) = (s.selected p).filter q := by
  refine (eq_selected hd (fun r hr => hp r (Bool.and_elim_left hr)) ?_ ?_).symm
  · have hfilter : s.objects.filter (fun r => p r && q r) = (s.objects.filter p).filter q := by
      rw [List.filter_filter]
      exact List.filter_congr fun r _ => Bool.and_comm _ _
    rw [hfilter]
    exact (List.mergeSort_perm _ _).filter q
  · exact (s.selected_sorted p).sublist List.filter_sublist

theorem nodup_filter (hd : s.Distinct) (p : StoredObject → Bool) : (s.objects.filter p).Nodup :=
  (List.Nodup.of_map key hd).sublist List.filter_sublist

/-- What is selected within a tenant depends on the set of the selected rows alone. -/
theorem selected_congr (hd : s.Distinct) (hd' : s'.Distinct) (hp : ∀ r, p r → r.tenant = tenant)
    (h : ∀ r, p r → (r ∈ s.objects ↔ r ∈ s'.objects)) : s.selected p = s'.selected p := by
  refine eq_selected hd' hp ?_ (s.selected_sorted p)
  refine (List.mergeSort_perm _ _).trans ?_
  rw [List.perm_ext_iff_of_nodup (nodup_filter hd p) (nodup_filter hd' p)]
  intro r
  rw [List.mem_filter, List.mem_filter]
  exact and_congr_left (h r)

/-- The names come in strict order, so that none comes twice. -/
theorem names_before (hd : s.Distinct) (hp : ∀ r, p r → r.tenant = tenant) :
    ((s.selected p).map StoredObject.name).Pairwise Before := by
  have hordered := (s.sorted_names_selected p).and (nodup_names_selected hd hp)
  refine hordered.imp fun {a b} ⟨hle, hne⟩ => ?_
  rcases Prod.Lex.toLex_le_toLex.1 hle with hlt | ⟨heq, hle⟩
  · exact .inl (Text.octets_lt_octets hlt)
  · exact .inr ⟨congrArg octets heq, Text.octets_lt_octets (lt_of_le_of_ne hle hne)⟩

variable {codec : Codec}

theorem select_congr {q : StoredObject → Bool} (h : s.selected p = s'.selected q) :
    s.select codec p = s'.select codec q := by
  change ((s.selected p).mapM StoredObject.kind? >>= fun kinds =>
    ((s.selected p).zip kinds).mapM fun x => x.1.decode codec x.2) = _
  rw [h]
  rfl

theorem map_name_eq {rows : List StoredObject} {os : List CatalogObject}
    (h : List.Forall₂ (StoredObject.Reads codec) rows os) :
    rows.map StoredObject.name = os.map CatalogObject.name := by
  rw [← List.forall₂_eq_eq_eq, List.forall₂_map_left_iff, List.forall₂_map_right_iff]
  exact h.imp fun r o hreads => (StoredObject.Reads.parts hreads).1.symm

/-- What all listings of the tenant show: each row once, as the object that it is decoded to, in
strict order; and of that, where a kind is asked for, what is of this kind. -/
structure Listing (s : Store) (codec : Codec) (tenant : String) (os : List CatalogObject) :
    Prop where
  rows : ∃ rows, rows.Perm (s.rowsOf tenant) ∧ List.Forall₂ (StoredObject.Reads codec) rows os
  ordered : os.Pairwise fun o p => Before o.name p.name
  all : s.list codec tenant none = .ok os
  unspecified : s.list codec tenant (some .unspecified) = .ok os
  ofKind : ∀ kind, kind ≠ .unspecified →
    s.list codec tenant (some kind) = .ok (os.filter fun o => o.kind = kind)

theorem exists_listing (hd : s.Distinct) (h : s.Readable codec tenant) :
    ∃ os, s.Listing codec tenant os := by
  have htenant := (selects_tenant tenant).tenant_eq
  have hperm : (s.selected fun r => r.tenant = tenant).Perm (s.rowsOf tenant) :=
    List.mergeSort_perm _ _
  obtain ⟨os, hos⟩ := Traversal.exists_forall₂ fun r hr => h r (hperm.mem_iff.1 hr)
  have hall : s.list codec tenant none = .ok os := select_eq_ok_iff.2 hos
  refine ⟨os, ⟨_, hperm, hos⟩, ?_, hall, hall, fun kind hkind => ?_⟩
  · have hnames := names_before hd htenant
    rw [map_name_eq hos, List.pairwise_map] at hnames
    exact hnames
  · have hlist : s.list codec tenant (some kind) =
        s.select codec fun r => r.tenant = tenant && r.kindCode = kind.code := by
      cases kind with
      | unspecified => exact absurd rfl hkind
      | table | view | metricsView => rfl
    rw [hlist, select_eq_ok_iff, selected_and hd htenant fun r => r.kindCode = kind.code]
    refine List.rel_filter ?_ hos
    intro r o hreads
    simpa using StoredObject.Reads.kindCode_eq_iff hreads kind

private theorem selected_of_rowsOf (hd : s.Distinct) (hd' : s'.Distinct)
    (h : ∀ r, r ∈ s.rowsOf tenant ↔ r ∈ s'.rowsOf tenant) (hp : Selects tenant p) :
    s.selected p = s'.selected p := by
  refine selected_congr hd hd' hp.tenant_eq fun r hr => ?_
  have hmem := h r
  simpa [rowsOf, hp.tenant_eq r hr] using hmem

theorem list_congr (hd : s.Distinct) (hd' : s'.Distinct)
    (h : ∀ r, r ∈ s.rowsOf tenant ↔ r ∈ s'.rowsOf tenant) (kind : Option ObjectKind) :
    s.list codec tenant kind = s'.list codec tenant kind := by
  unfold list
  split
  · exact select_congr (selected_of_rowsOf hd hd' h (selects_tenant tenant))
  · exact select_congr (selected_of_rowsOf hd hd' h (selects_tenant tenant))
  · exact select_congr (selected_of_rowsOf hd hd' h (selects_kind tenant _))

theorem find_congr (hd : s.Distinct) (hd' : s'.Distinct)
    (h : ∀ r, r ∈ s.rowsOf tenant ↔ r ∈ s'.rowsOf tenant) (name : String) :
    s.find codec tenant name = s'.find codec tenant name := by
  rw [find, find, select_congr (selected_of_rowsOf hd hd' h (selects_folded tenant name))]

/-- Where all rows of a tenant are decoded, they are listed, each once, in strict order and by kind.
Whatever else led to the same rows, the lists are the same. -/
theorem listing_determined_by_rows (hs : s.Reachable codec) (hr : s.Readable codec tenant) :
    (∃ os, s.Listing codec tenant os) ∧
      ∀ s' : Store, s'.Reachable codec → (∀ r, r ∈ s'.rowsOf tenant ↔ r ∈ s.rowsOf tenant) →
        ∀ kind, s'.list codec tenant kind = s.list codec tenant kind :=
  ⟨exists_listing hs.distinct hr, fun _ hs' h kind => list_congr hs'.distinct hs.distinct h kind⟩

/-- Two names that differ in case, and a third one. -/
def sampleActs : List Act :=
  [⟨.write (.create "acme" (.ofName "b" .view)), ⟨1, 0⟩⟩,
    ⟨.write (.create "acme" (.ofName "a" .table)), ⟨2, 0⟩⟩,
    ⟨.write (.create "acme" (.ofName "A" .table)), ⟨3, 0⟩⟩]

/-- The same in another order, with an object that does not last. -/
def shuffledActs : List Act :=
  [⟨.write (.create "acme" (.ofName "A" .table)), ⟨3, 0⟩⟩,
    ⟨.write (.create "acme" (.ofName "c" .table)), ⟨5, 0⟩⟩,
    ⟨.write (.create "acme" (.ofName "b" .view)), ⟨1, 0⟩⟩, ⟨.write (.delete "acme" "c"), ⟨6, 0⟩⟩,
    ⟨.write (.create "acme" (.ofName "a" .table)), ⟨2, 0⟩⟩]

def sampleStore : Store := Store.empty.afterActs .json sampleActs

def shuffledStore : Store := Store.empty.afterActs .json shuffledActs

theorem readable_sampleStore : sampleStore.Readable .json "acme" := by
  have hrows : sampleStore.rowsOf "acme" = [rowOf "acme" none (stamped ⟨1, 0⟩ (.ofName "b" .view)),
      rowOf "acme" none (stamped ⟨2, 0⟩ (.ofName "a" .table)),
      rowOf "acme" none (stamped ⟨3, 0⟩ (.ofName "A" .table))] := by decide
  have hreads {o : CatalogObject} (h : o.schema = none) :
      ∃ p, StoredObject.Reads .json (rowOf "acme" none o) p := by
    have hblob : Codec.json.encode o.schema = .ok none := h ▸ rfl
    exact ⟨o, StoredObject.Holds.reads Codec.json_roundTrips ⟨none, hblob, rfl⟩⟩
  rw [Readable, hrows]
  simp only [List.forall_mem_cons, List.not_mem_nil, false_implies, implies_true, and_true]
  exact ⟨hreads rfl, hreads rfl, hreads rfl⟩

theorem listing_determined_by_rows_samples :
    sampleStore.Reachable .json ∧ sampleStore.Readable .json "acme" ∧
    shuffledStore.Reachable .json ∧
    (∀ r, r ∈ shuffledStore.rowsOf "acme" ↔ r ∈ sampleStore.rowsOf "acme") ∧
    (∃ os, sampleStore.Listing .json "acme" os) ∧
    ∀ kind, shuffledStore.list .json "acme" kind = sampleStore.list .json "acme" kind := by
  have hs : sampleStore.Reachable .json := ⟨sampleActs, rfl⟩
  have hs' : shuffledStore.Reachable .json := ⟨shuffledActs, rfl⟩
  have hperm : (shuffledStore.rowsOf "acme").Perm (sampleStore.rowsOf "acme") := by decide
  obtain ⟨hlisting, hcongr⟩ := listing_determined_by_rows hs readable_sampleStore
  exact ⟨hs, readable_sampleStore, hs', fun _ => hperm.mem_iff, hlisting,
    hcongr _ hs' fun _ => hperm.mem_iff⟩

open Traversal

variable {codec : Codec} {s : Store} {tenant : String}

/-- The rows of a look-up are those of the listing whose folded names are the same. -/
theorem find_eq_find? (hd : s.Distinct) {os : List CatalogObject}
    (h : s.list codec tenant none = .ok os) (name : String) : s.find codec tenant name =
      .ok (os.find? fun o => Text.lowercase o.name = Text.lowercase name) := by
  have hos : List.Forall₂ (StoredObject.Reads codec) (s.selected fun r => r.tenant = tenant) os :=
    select_eq_ok_iff.1 h
  have hfound : s.select codec (fun r => r.tenant = tenant &&
      Text.lowercase r.name = Text.lowercase name) =
      .ok (os.filter fun o => Text.lowercase o.name = Text.lowercase name) := by
    rw [select_eq_ok_iff, selected_and hd (selects_tenant tenant).tenant_eq
      fun r => Text.lowercase r.name = Text.lowercase name]
    refine List.rel_filter ?_ hos
    intro r o hreads
    simp [(StoredObject.Reads.parts hreads).1]
  rw [find, hfound, ← List.head?_filter]
  rfl

private theorem exists_find_own_name (hd : s.Distinct) (hr : s.Readable codec tenant)
    {r : StoredObject}
    (hmem : r ∈ s.rowsOf tenant) : ∃ o, s.find codec tenant r.name = .ok (some o) ∧
      Text.lowercase o.name = Text.lowercase r.name := by
  obtain ⟨os, hlisting⟩ := exists_listing hd hr
  obtain ⟨rows, hperm, hos⟩ := hlisting.rows
  have hname : r.name ∈ os.map CatalogObject.name := by
    rw [← map_name_eq hos]
    exact List.mem_map_of_mem (hperm.mem_iff.2 hmem)
  obtain ⟨p, hp, hpname⟩ := List.mem_map.1 hname
  have hsome : (os.find? fun o => Text.lowercase o.name = Text.lowercase r.name).isSome :=
    List.find?_isSome.2 ⟨p, hp, by simp [hpname]⟩
  obtain ⟨o, ho⟩ := Option.isSome_iff_exists.1 hsome
  refine ⟨o, ?_, by simpa using List.find?_some ho⟩
  rw [find_eq_find? hd hlisting.all, ho]

/-- No other name of the tenant is the same in lower case. -/
def LacksVariants (s : Store) (tenant name : String) : Prop :=
  ∀ r ∈ s.rowsOf tenant, r.name ≠ name → Text.lowercase r.name ≠ Text.lowercase name

theorem create_eq_ok {s' : Store} {now : Instant} {o created : CatalogObject}
    (h : s.create codec now tenant o = .ok (created, s')) : s.contains tenant o.name = false ∧
      ∃ blob, codec.encode o.schema = .ok blob ∧
        s' = ⟨s.objects ++ [rowOf tenant blob (stamped now o)]⟩ := by
  rw [create_eq] at h
  cases hblob : codec.encode o.schema with
  | error e => simp [hblob] at h
  | ok blob =>
    cases habsent : s.contains tenant o.name with
    | true => simp [hblob, habsent] at h
    | false =>
      simp only [hblob, habsent, Bool.false_eq_true, if_false, Except.ok.injEq, Prod.mk.injEq] at h
      exact ⟨rfl, blob, rfl, h.2.symm⟩

/-- Neither the name nor a variant of it is there. -/
theorem filter_folded_eq_nil {n name : String} (habsent : s.contains tenant n = false)
    (hlacks : s.LacksVariants tenant n) (hname : Text.lowercase name = Text.lowercase n) :
    s.objects.filter (fun r => r.tenant = tenant &&
      Text.lowercase r.name = Text.lowercase name) = [] := by
  refine List.filter_eq_nil_iff.2 fun r hr hsel => ?_
  obtain ⟨htenant, hfolded⟩ : r.tenant = tenant ∧
      Text.lowercase r.name = Text.lowercase name := by simpa using hsel
  by_cases hown : r.name = n
  · have hpresent : s.contains tenant n :=
      List.any_eq_true.2 ⟨r, hr, StoredObject.hasKey_iff.2 ⟨htenant, hown⟩⟩
    rw [habsent] at hpresent
    cases hpresent
  · have hrow : r ∈ s.rowsOf tenant := List.mem_filter.2 ⟨hr, by simpa using htenant⟩
    exact hlacks r hrow hown (hfolded.trans hname)

/-- The new row is the only one that a look-up of its name sees. -/
theorem find_created (hcodec : codec.RoundTrips) {s' : Store} {now : Instant}
    {o created : CatalogObject} (h : s.create codec now tenant o = .ok (created, s'))
    (hlacks : s.LacksVariants tenant o.name) {name : String}
    (hname : Text.lowercase name = Text.lowercase o.name) :
    s'.find codec tenant name = .ok (some (stamped now o)) := by
  obtain ⟨habsent, blob, hblob, rfl⟩ := create_eq_ok h
  have hnew : StoredObject.Holds codec tenant (rowOf tenant blob (stamped now o))
    (stamped now o) := ⟨blob, hblob, rfl⟩
  have hreads : List.Forall₂ (StoredObject.Reads codec)
      (selected ⟨s.objects ++ [rowOf tenant blob (stamped now o)]⟩ fun r =>
        r.tenant = tenant && Text.lowercase r.name = Text.lowercase name)
      [stamped now o] := by
    rw [selected, List.filter_append, filter_folded_eq_nil habsent hlacks hname]
    simpa [rowOf, stamped, hname] using hnew.reads hcodec
  exact bind_eq_ok_iff.2 ⟨_, select_eq_ok_iff.2 hreads, rfl⟩

/-- Where all rows of a tenant are decoded, a look-up finds the first object of the listing that has
the name in some case, and for the name of a row there is one. An object whose name was new in every
case is found as it was created. -/
theorem find_agrees_with_listing (hs : s.Reachable .json) (hr : s.Readable .json tenant) :
    (∃ os, s.list .json tenant none = .ok os ∧ ∀ name, s.find .json tenant name =
      .ok (os.find? fun o => Text.lowercase o.name = Text.lowercase name)) ∧
    (∀ r ∈ s.rowsOf tenant, ∃ o, s.find .json tenant r.name = .ok (some o) ∧
      Text.lowercase o.name = Text.lowercase r.name) ∧
    ∀ (now : Instant) (o created : CatalogObject) (s' : Store),
      s.create .json now tenant o = .ok (created, s') → s.LacksVariants tenant o.name →
        ∀ name, Text.lowercase name = Text.lowercase o.name → s'.find .json tenant name =
          .ok (some { o with createdOn := now, updatedOn := now, refreshedOn := now }) := by
  obtain ⟨os, hlisting⟩ := exists_listing hs.distinct hr
  exact ⟨⟨os, hlisting.all, find_eq_find? hs.distinct hlisting.all⟩,
    fun r hmem => exists_find_own_name hs.distinct hr hmem,
    fun now o created s' h hlacks name hname => find_created Codec.json_roundTrips h hlacks hname⟩

/-- What the sample store becomes by one more object. -/
def extendedStore : Store := (sampleStore.perform .json ⟨9, 0⟩
  (.write (.create "acme" (.ofName "C" .metricsView)))).2

theorem find_agrees_with_listing_sample : sampleStore.Reachable .json ∧
    sampleStore.Readable .json "acme" ∧
    (∃ os, sampleStore.list .json "acme" none = .ok os ∧ sampleStore.find .json "acme" "a" =
      .ok (os.find? fun o => Text.lowercase o.name = Text.lowercase "a")) ∧
    sampleStore.LacksVariants "acme" "C" ∧
    extendedStore.find .json "acme" "c" =
      .ok (some (stamped ⟨9, 0⟩ (.ofName "C" .metricsView))) := by
  have hs : sampleStore.Reachable .json := ⟨sampleActs, rfl⟩
  have hlacks : sampleStore.LacksVariants "acme" "C" := by
    unfold LacksVariants
    decide
  have hcreate : sampleStore.create .json ⟨9, 0⟩ "acme" (.ofName "C" .metricsView) =
      .ok (stamped ⟨9, 0⟩ (.ofName "C" .metricsView), extendedStore) := by rfl
  obtain ⟨⟨os, hlist, hfind⟩, -, hcreated⟩ := find_agrees_with_listing hs readable_sampleStore
  exact ⟨hs, readable_sampleStore, ⟨os, hlist, hfind "a"⟩, hlacks,
    hcreated _ _ _ _ hcreate hlacks "c" (by decide)⟩

end Store
end MetricsView
