import MetricsView.Host.Basic
import MetricsView.Proofs.Catalog.Listing
import MetricsView.Proofs.Host.World

/-! # A database in a file

What is taken for granted of a database that keeps its table in a file: a file that is not there has
no table, what a statement has done is found by whoever connects later, and the rows that are read
are those of the table. What the operations of an open catalog do follows from that. -/
namespace MetricsView

open World (fileSystem hostWith)

variable {db : Database (StateM World)}

/-- One file of a database, in all worlds. -/
structure DatabaseFile (db : Database (StateM World)) where
  position : List String
  /-- Where the database keeps what it needs besides, such as a journal. -/
  beside : List (List String)
  /-- The table in the file, if it has been made. -/
  table : World → Option Store
  /-- The locator leads to the file, which may be written or not. -/
  Leads : World → String → Bool → Prop
  /-- The connection is one to the file, which may be written or not. -/
  Connected : World → db.Connection → Bool → Prop

namespace DatabaseFile

/-- The places of the database are in the second world as they are in the first. -/
def Same (file : DatabaseFile db) (w w' : World) : Prop :=
  ∀ position ∈ file.position :: file.beside, w'.files.entry? position = w.files.entry? position

instance (file : DatabaseFile db) (w w' : World) : Decidable (file.Same w w') :=
  inferInstanceAs (Decidable (∀ position ∈ file.position :: file.beside, _))

/-- What such a file is known to do. -/
structure Lawful (file : DatabaseFile db) : Prop where
  absent {w : World} (h : w.files.entry? file.position = none) : file.table w = none
  /-- The table is nowhere but in the places of the database. -/
  same {w w' : World} (h : file.Same w w') : file.table w' = file.table w
  free {w : World} {locator : String} {writable : Bool} (h : file.Leads w locator writable) :
    ∀ position ∈ file.position :: file.beside, w.files.isDirectoryAt position = false
  /-- To connect leaves the table, which need not be there yet. -/
  connect {w : World} {locator : String} {writable : Bool} (h : file.Leads w locator writable) :
    ∃ c w', (db.connect (some locator)).run w = (.ok c, w') ∧ file.Connected w' c writable ∧
      file.table w' = file.table w
  execute {w : World} {c : db.Connection} {writable : Bool} {change : TableChange} {s : Store}
    (h : file.Connected w c writable) (hs : change.outcome writable (file.table w) = .ok s) :
    ∃ c' w', (db.execute c change).run w = (.ok c', w') ∧ file.Connected w' c' writable ∧
      file.table w' = some s
  /-- A statement that fails does nothing to the table. -/
  refuse {w : World} {c : db.Connection} {writable : Bool} {change : TableChange}
    {fault : StorageFault} (h : file.Connected w c writable)
    (hfault : change.outcome writable (file.table w) = .error fault) :
    ∃ w', (db.execute c change).run w = (.error fault, w') ∧ file.table w' = file.table w
  /-- The rows come in any order. -/
  rows {w : World} {c : db.Connection} {writable : Bool} {s : Store}
    (h : file.Connected w c writable) (hs : file.table w = some s) :
    ∃ found w', (db.rows c).run w = (.ok found, w') ∧ found.objects.Perm s.objects ∧
      file.table w' = some s

variable {file : DatabaseFile db} {w : World} {locator : String} {writable : Bool}
  {c : db.Connection} {s : Store}

/-- To open the catalog in the file makes the table, or finds it, with the rows of the store. -/
def Yields (file : DatabaseFile db) (w : World) (writable : Bool) (s : Store) : Prop :=
  TableChange.make.outcome writable (file.table w) = .ok s

theorem yields_of_table (h : file.table w = some s) (writable : Bool) :
    file.Yields w writable s := by
  rw [Yields, h]
  rfl

namespace Lawful

/-- The table does not change when directories are made. -/
private theorem table_of_makes (h : file.Lawful) {w' : World} (hmakes : w.Makes w')
    (hleads : file.Leads w' locator writable) : file.table w' = file.table w :=
  h.same fun position hposition => hmakes.entry?_eq (h.free hleads position hposition)

private theorem run_connect (h : file.Lawful) (hleads : file.Leads w locator writable)
    (hyields : file.Yields w writable s) :
    ∃ c w', (Catalog.connect db (some locator)).run w = (.ok c, w') ∧
      file.Connected w' c writable ∧ file.table w' = some s := by
  obtain ⟨c, w₁, hconnect, hconnected, hkept⟩ := h.connect hleads
  rw [Yields, ← hkept] at hyields
  obtain ⟨c', w₂, hmake, hconnected', htable⟩ := h.execute hconnected hyields
  refine ⟨c', w₂, ?_, hconnected', htable⟩
  rw [Catalog.connect, World.run_bind hconnect]
  simp only
  rw [World.run_bind hmake]
  rfl

/-- The catalog that a locator names is opened, with the rows that its file yields. -/
theorem run_openAt (h : file.Lawful)
    (henclosing : ((fileSystem.ensureEnclosing locator).run w).1 = .ok ())
    (hleads : file.Leads ((fileSystem.ensureEnclosing locator).run w).2 locator writable)
    (hyields : file.Yields w writable s) :
    ∃ c w', (Catalog.openAt (hostWith db) (some locator)).run w = (.ok c, w') ∧
      file.Connected w' c writable ∧ file.table w' = some s := by
  have hkept := h.table_of_makes (World.moves_ensureEnclosing locator w) hleads
  rw [Yields, ← hkept] at hyields
  obtain ⟨c, w', hconnect, hopen⟩ := h.run_connect hleads hyields
  have hmade : ((hostWith db).ensureEnclosing locator).run w =
      (.ok (), ((fileSystem.ensureEnclosing locator).run w).2) := Prod.ext henclosing rfl
  refine ⟨c, w', ?_, hopen⟩
  simp only [Catalog.openAt]
  rw [World.run_bind hmade]
  exact hconnect

/-- Reads find the rows of the table, whatever their order is. -/
private theorem run_rows (h : file.Lawful) (hc : file.Connected w c writable)
    (hs : file.table w = some s) (hd : s.Distinct) :
    ∃ found w', (db.rows c).run w = (.ok found, w') ∧ found.Distinct ∧
      (∀ tenant r, r ∈ found.rowsOf tenant ↔ r ∈ s.rowsOf tenant) ∧ file.table w' = some s := by
  obtain ⟨found, w', hrun, hperm, htable⟩ := h.rows hc hs
  exact ⟨found, w', hrun, (hperm.map _).nodup_iff.2 hd,
    fun tenant r => (hperm.filter fun r => r.tenant = tenant).mem_iff, htable⟩

theorem run_list (h : file.Lawful) (hc : file.Connected w c writable)
    (hs : file.table w = some s) (hd : s.Distinct) (tenant : String) (kind : Option ObjectKind) :
    ∃ w', (Catalog.list c tenant kind).run w = (s.list .json tenant kind, w') ∧
      file.table w' = some s := by
  obtain ⟨found, w', hrun, hfound, hrows, htable⟩ := h.run_rows hc hs hd
  refine ⟨w', ?_, htable⟩
  rw [Catalog.list, World.run_bind hrun, ← Store.list_congr hfound hd (hrows tenant) kind]
  rfl

theorem run_find (h : file.Lawful) (hc : file.Connected w c writable)
    (hs : file.table w = some s) (hd : s.Distinct) (tenant name : String) :
    ∃ w', (Catalog.find c tenant name).run w = (s.find .json tenant name, w') ∧
      file.table w' = some s := by
  obtain ⟨found, w', hrun, hfound, hrows, htable⟩ := h.run_rows hc hs hd
  refine ⟨w', ?_, htable⟩
  rw [Catalog.find, World.run_bind hrun, ← Store.find_congr hfound hd (hrows tenant) name]
  rfl

/-- What a create answers with, given what comes of its row. -/
private def answer (created : CatalogObject) {α : Type} :
    Except StorageFault α → Except Failure CatalogObject
  | .ok _ => .ok created
  | .error fault => .error (.storage fault)

private theorem run_create_of {r : Except StorageFault db.Connection} {w' : World}
    {tenant : String} {o : CatalogObject} {blob : Option Text.Octets}
    (hblob : Store.encodeSchema .json o = .ok blob)
    (hrun : (db.execute c (.insert (Store.rowOf tenant blob (Store.stamped w.clock o)))).run w =
      (r, w')) :
    (Catalog.create c (hostWith db).now tenant o).run w =
      (answer (Store.stamped w.clock o) r, w') := by
  have hnow : ((hostWith db).now).run w = (w.clock, w) := rfl
  rw [Catalog.create, hblob]
  simp only
  rw [World.run_bind hnow, World.run_bind hrun]
  cases r <;> rfl

private theorem create_of_insert {now : Instant} {tenant : String} {o : CatalogObject}
    {blob : Option Text.Octets} (hblob : Store.encodeSchema .json o = .ok blob) :
    s.create .json now tenant o =
      match s.insert (Store.rowOf tenant blob (Store.stamped now o)) with
      | .ok s => .ok (Store.stamped now o, s)
      | .error fault => .error (.storage fault) := by
  rw [Store.create, hblob]
  rfl

/-- In a file that may be written, a create does what it does to the store of its rows. -/
theorem run_create (h : file.Lawful) (hc : file.Connected w c true) (hs : file.table w = some s)
    (tenant : String) (o : CatalogObject) :
    ∃ w', (Catalog.create c (hostWith db).now tenant o).run w =
        ((s.create .json w.clock tenant o).map Prod.fst, w') ∧
      file.table w' = some (s.step .json ⟨.create tenant o, w.clock⟩).2 := by
  obtain ⟨blob, hblob⟩ : ∃ blob, Store.encodeSchema .json o = .ok blob := ⟨_, rfl⟩
  have houtcome (r : StoredObject) :
      (TableChange.insert r).outcome true (file.table w) = s.insert r := by
    rw [hs]
    rfl
  simp only [Store.step, create_of_insert hblob]
  cases hinsert : s.insert (Store.rowOf tenant blob (Store.stamped w.clock o)) with
  | ok s' =>
    obtain ⟨c', w', hrun, -, htable⟩ := h.execute hc ((houtcome _).trans hinsert)
    exact ⟨w', run_create_of hblob hrun, htable⟩
  | error fault =>
    obtain ⟨w', hrun, htable⟩ := h.refuse hc ((houtcome _).trans hinsert)
    exact ⟨w', run_create_of hblob hrun, htable.trans hs⟩

theorem run_create_readOnly (h : file.Lawful) (hc : file.Connected w c false)
    (hs : file.table w = some s) (tenant : String) (o : CatalogObject) :
    ∃ w', (Catalog.create c (hostWith db).now tenant o).run w =
        (.error (.storage .readOnly), w') ∧ file.table w' = some s := by
  obtain ⟨blob, hblob⟩ : ∃ blob, Store.encodeSchema .json o = .ok blob := ⟨_, rfl⟩
  have houtcome (r : StoredObject) :
      (TableChange.insert r).outcome false (file.table w) = .error .readOnly := by
    rw [hs]
    rfl
  obtain ⟨w', hrun, htable⟩ := h.refuse hc (houtcome _)
  exact ⟨w', run_create_of hblob hrun, htable.trans hs⟩

theorem run_delete (h : file.Lawful) (hc : file.Connected w c true) (hs : file.table w = some s)
    (tenant name : String) :
    ∃ w', (Catalog.delete c tenant name).run w = (.ok (), w') ∧
      file.table w' = some (s.delete tenant name) := by
  have houtcome : (TableChange.delete tenant name).outcome true (file.table w) =
      .ok (s.delete tenant name) := by
    rw [hs]
    rfl
  obtain ⟨c', w', hrun, -, htable⟩ := h.execute hc houtcome
  refine ⟨w', ?_, htable⟩
  rw [Catalog.delete, World.run_bind hrun]
  rfl

theorem run_delete_readOnly (h : file.Lawful) (hc : file.Connected w c false)
    (hs : file.table w = some s) (tenant name : String) :
    ∃ w', (Catalog.delete c tenant name).run w = (.error (.storage .readOnly), w') ∧
      file.table w' = some s := by
  have houtcome : (TableChange.delete tenant name).outcome false (file.table w) =
      .error .readOnly := by
    rw [hs]
    rfl
  obtain ⟨w', hrun, htable⟩ := h.refuse hc houtcome
  refine ⟨w', ?_, htable.trans hs⟩
  rw [Catalog.delete, World.run_bind hrun]
  rfl

end Lawful
end DatabaseFile
end MetricsView
