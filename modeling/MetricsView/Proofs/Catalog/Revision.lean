import MetricsView.Proofs.Catalog.Damage

/-! # Objects that are found, changed and written back

A look-up takes a name in any case, and an update an exact one. The object that is found has the
name of its row, so it is this row that an update of it changes. Neither what a look-up sees nor the
order in which it sees it depends on what is rewritten, so the same row is found again. -/
namespace MetricsView.Store

open Traversal

variable {codec : Codec} {s : Store} {tenant name : String} {p : StoredObject → Bool}

/-- Changes that spare the keys do not change what is selected, nor the order. -/
theorem selected_map {f : StoredObject → StoredObject} (hf : ∀ r, (f r).name = r.name)
    (hp : ∀ r, p (f r) = p r) :
    (Store.mk (s.objects.map f)).selected p = (s.selected p).map f := by
  have hprecedes (a b : StoredObject) : a.precedes b = (f a).precedes (f b) := by
    rw [StoredObject.precedes, StoredObject.precedes, hf, hf]
  have hfilter : (s.objects.map f).filter p = (s.objects.filter p).map f := by
    rw [List.filter_map]
    exact congrArg _ (List.filter_congr fun r _ => hp r)
  rw [selected, selected, hfilter, List.map_mergeSort fun a _ b _ => hprecedes a b]

/-- A look-up sees a row that is decoded to what it finds, and after it no row that is not
decoded. -/
theorem find_eq_some_iff {o : CatalogObject} : s.find codec tenant name = .ok (some o) ↔
    ∃ r rows, s.selected (Read.find tenant name).sees = r :: rows ∧ r.Reads codec o ∧
      ∀ q ∈ rows, ∃ o', q.Reads codec o' := by
  simp only [find_eq_select, map_eq_ok_iff, select_eq_ok_iff]
  constructor
  · rintro ⟨os, hos, hhead⟩
    obtain ⟨rest, rfl⟩ := List.head?_eq_some_iff.1 hhead.symm
    obtain ⟨r, rows, hr, hrows, hselected⟩ := List.forall₂_cons_right_iff.1 hos
    refine ⟨r, rows, hselected, hr, fun q hq => ?_⟩
    obtain ⟨o', -, ho'⟩ := exists_zip_of_mem hrows hq
    exact ⟨o', ho'⟩
  · rintro ⟨r, rows, hselected, hr, hrows⟩
    obtain ⟨rest, hrest⟩ := exists_forall₂ hrows
    exact ⟨o :: rest, hselected ▸ .cons hr hrest, rfl⟩

/-- The row of what was found, which is the first that the look-up sees. -/
theorem exists_row_of_find {o : CatalogObject} (h : s.find codec tenant name = .ok (some o)) :
    ∃ r rows, s.selected (Read.find tenant name).sees = r :: rows ∧ r ∈ s.objects ∧
      key r = (tenant, o.name) ∧ r.Reads codec o ∧ ∀ q ∈ rows, ∃ o', q.Reads codec o' := by
  obtain ⟨r, rows, hselected, hreads, hrows⟩ := find_eq_some_iff.1 h
  have hfirst : r ∈ s.selected (Read.find tenant name).sees := by simp [hselected]
  obtain ⟨hmem, hsees⟩ := mem_selected.1 hfirst
  have htenant : r.tenant = tenant := (selects_folded tenant name).tenant_eq r hsees
  exact ⟨r, rows, hselected, hmem, Prod.ext htenant hreads.parts.1.symm, hreads, hrows⟩

/-- The row stands at one place, and there is no other under its key. -/
theorem exists_objects_eq (hd : s.Distinct) {r : StoredObject} (hr : r ∈ s.objects) :
    ∃ before after, s.objects = before ++ r :: after ∧
      ∀ q, q ∈ before ∨ q ∈ after → ¬ q.hasKey r.tenant r.name := by
  obtain ⟨before, after, hsplit⟩ := List.append_of_mem hr
  refine ⟨before, after, hsplit, fun q hq hkey => ?_⟩
  rw [Distinct, hsplit, List.map_append, List.map_cons, List.nodup_middle, List.nodup_cons,
    ← List.map_append] at hd
  obtain ⟨htenant, hname⟩ := StoredObject.hasKey_iff.1 hkey
  have hsame : key q = key r := Prod.ext htenant hname
  exact hd.1 (hsame ▸ List.mem_map_of_mem (List.mem_append.2 hq))

section Overwriting

variable {blob : Option Text.Octets} {now : Instant} {o : CatalogObject} {r : StoredObject}

theorem map_overwriteRow_eq_self {rows : List StoredObject}
    (h : ∀ q ∈ rows, ¬ q.hasKey tenant o.name) :
    rows.map (overwriteRow tenant blob now o) = rows := by
  conv_rhs => rw [← List.map_id rows]
  exact List.map_congr_left fun q hq => overwriteRow_of_not_hasKey (h q hq)

/-- Only the row under the key is overwritten. -/
theorem exists_map_overwriteRow_eq (hd : s.Distinct) (hr : r ∈ s.objects)
    (hkey : r.hasKey tenant o.name) : ∃ before after, s.objects = before ++ r :: after ∧
      s.objects.map (overwriteRow tenant blob now o) =
        before ++ overwriteRow tenant blob now o r :: after := by
  obtain ⟨before, after, hobjects, hother⟩ := exists_objects_eq hd hr
  obtain ⟨htenant, hname⟩ := StoredObject.hasKey_iff.1 hkey
  rw [htenant, hname] at hother
  refine ⟨before, after, hobjects, ?_⟩
  rw [hobjects, List.map_append, List.map_cons,
    map_overwriteRow_eq_self fun q hq => hother q (.inl hq),
    map_overwriteRow_eq_self fun q hq => hother q (.inr hq)]

/-- Overwriting leaves no row undecoded that was decoded. -/
theorem exists_reads_overwriteRow (hcodec : codec.RoundTrips)
    (hblob : codec.encode o.schema = .ok blob) (h : ∃ p, r.Reads codec p) :
    ∃ p, (overwriteRow tenant blob now o r).Reads codec p := by
  by_cases hkey : r.hasKey tenant o.name
  · exact ⟨_, reads_overwriteRow hcodec hblob hkey⟩
  · rw [overwriteRow_of_not_hasKey hkey]
    exact h

/-- The row that a look-up saw first it sees first again. -/
theorem find_map_overwriteRow (hcodec : codec.RoundTrips) (hblob : codec.encode o.schema = .ok blob)
    {rows : List StoredObject} (hselected : s.selected (Read.find tenant name).sees = r :: rows)
    (hkey : r.hasKey tenant o.name) (hrows : ∀ q ∈ rows, ∃ o', q.Reads codec o') :
    (Store.mk (s.objects.map (overwriteRow tenant blob now o))).find codec tenant name =
      .ok (some (overwritten now r.createdOn o)) := by
  have hkept (q : StoredObject) := overwriteRow_kept tenant blob now o q
  have hsame (q : StoredObject) : (Read.find tenant name).sees (overwriteRow tenant blob now o q) =
      (Read.find tenant name).sees q := by
    simp only [Read.sees, (hkept q).1, (hkept q).2.1]
  have hselected' := selected_map (fun q => (hkept q).2.1) hsame (s := s)
  rw [hselected, List.map_cons] at hselected'
  refine find_eq_some_iff.2
    ⟨_, _, hselected', reads_overwriteRow hcodec hblob hkey, fun q' hq' => ?_⟩
  obtain ⟨q, hq, rfl⟩ := List.mem_map.1 hq'
  exact exists_reads_overwriteRow hcodec hblob (hrows q hq)

end Overwriting

/-- An update of the object that was found goes to the row that was found, and changes no other.
The look-up then finds this row again, with the columns of the new object and the time at which it
was created. -/
theorem found_row_is_revised (hs : s.Reachable .json) {o o' : CatalogObject}
    (hfound : s.find .json tenant name = .ok (some o)) (hname : o'.name = o.name) (now : Instant) :
    ∃ answer s', s.update .json now tenant o' = .ok (answer, s') ∧
      s'.find .json tenant name = .ok (some { o' with createdOn := o.createdOn, updatedOn := now }) ∧
      ∃ before r r' after, s.objects = before ++ r :: after ∧ s'.objects = before ++ r' :: after ∧
        key r = (tenant, o.name) ∧ r.Reads .json o ∧ key r' = (tenant, o.name) ∧
        r'.Reads .json { o' with createdOn := o.createdOn, updatedOn := now } := by
  obtain ⟨r, rows, hselected, hmem, hkey, hreads, hrows⟩ := exists_row_of_find hfound
  obtain ⟨htenant, hown⟩ := Prod.ext_iff.1 hkey
  have hhas : r.hasKey tenant o'.name := StoredObject.hasKey_iff.2 ⟨htenant, hown.trans hname.symm⟩
  have hcreated : o.createdOn = r.createdOn := by
    obtain ⟨_, _, _, _, rfl⟩ := StoredObject.reads_iff.1 hreads
    rfl
  rw [hcreated]
  have hcodec := Codec.json_roundTrips
  obtain ⟨blob, hblob, -⟩ := hcodec.exists_blob o'.schema
  have hpresent : s.contains tenant o'.name := List.any_eq_true.2 ⟨r, hmem, hhas⟩
  have hkept := overwriteRow_kept tenant blob now o' r
  obtain ⟨before, after, hobjects, hrevised⟩ := exists_map_overwriteRow_eq hs.distinct hmem hhas
  exact ⟨_, _, update_eq_ok_iff.2 ⟨hpresent, blob, hblob, rfl, rfl⟩,
    find_map_overwriteRow hcodec hblob hselected hhas hrows, before, r, _, after, hobjects, hrevised,
    hkey, hreads, Prod.ext (hkept.1.trans htenant) (hkept.2.1.trans hown),
    reads_overwriteRow hcodec hblob hhas⟩

/-- The first of two objects whose names differ in case. -/
def sampleFound : CatalogObject := stamped ⟨3, 0⟩ (.ofName "A" .table)

/-- The same as a view, by someone who says that it was created at the epoch. -/
def sampleRevised : CatalogObject :=
  { CatalogObject.ofName "A" .view with sql := some "SELECT 1", refreshedOn := ⟨8, 0⟩ }

theorem find_shuffledStore : shuffledStore.find .json "acme" "a" = .ok (some sampleFound) := by
  have hfilter : shuffledStore.objects.filter (Read.find "acme" "a").sees =
      [rowOf "acme" none sampleFound,
        rowOf "acme" none (stamped ⟨2, 0⟩ (.ofName "a" .table))] := by decide
  have hsorted : [rowOf "acme" none sampleFound,
      rowOf "acme" none (stamped ⟨2, 0⟩ (.ofName "a" .table))].Pairwise
        fun a b => StoredObject.precedes a b := by decide
  have hselected := List.mergeSort_of_pairwise hsorted
  rw [← hfilter] at hselected
  refine find_eq_some_iff.2 ⟨_, _, hselected.trans hfilter, ⟨.table, rfl, rfl⟩, ?_⟩
  exact List.forall_mem_singleton.2 ⟨_, .table, rfl, rfl⟩

theorem found_row_is_revised_sample : shuffledStore.Reachable .json ∧
    shuffledStore.find .json "acme" "a" = .ok (some sampleFound) ∧
    sampleRevised.name = sampleFound.name ∧
    ∃ answer s', shuffledStore.update .json ⟨9, 0⟩ "acme" sampleRevised = .ok (answer, s') ∧
      s'.find .json "acme" "a" =
        .ok (some { sampleRevised with createdOn := ⟨3, 0⟩, updatedOn := ⟨9, 0⟩ }) := by
  have hs : shuffledStore.Reachable .json := ⟨shuffledActs, rfl⟩
  have hname : sampleRevised.name = sampleFound.name := rfl
  obtain ⟨answer, s', hupdate, hfind, -⟩ :=
    found_row_is_revised hs find_shuffledStore hname ⟨9, 0⟩
  exact ⟨hs, find_shuffledStore, hname, answer, s', hupdate, hfind⟩

end MetricsView.Store
