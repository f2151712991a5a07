import MetricsView.Proofs.Catalog.Archive

/-! # The laws of catalog files

A catalog in a file keeps the laws of a database, for all who may read the file and for all who may
write it too. -/
namespace MetricsView.Archive

open Text (Octets)
open World (fileSystem)

/-- The table in what there is in the places of a file and of its journal, if that can be read. A
file that is not there has none. -/
def contents? (file journal : Option Entry) : Option (Option Store) :=
  match file with
  | some (.file bytes) => (decode (inForce bytes journal)).toOption
  | none | some .directory => some none

def contentsAt? (w : World) (position : List String) : Option (Option Store) :=
  contents? (w.files.entry? position) (w.files.entry? (journalPosition position))

def tableAt (w : World) (position : List String) : Option Store := (contentsAt? w position).join

/-- The catalog at the place is in the file at the position, and can be read there. A journal in
force is no matter for those who may write. -/
structure Holds (p : CatalogPlace) (w : World) (position : List String) (path : String) : Prop where
  file : p.file = some path
  reaches : Reaches w (Path.normal path) position
  readable : (contentsAt? w position).isSome
  idle : p.isReadOnly → isInForce (w.files.entry? (journalPosition position)) = false

/-- Nothing keeps the file at the path from being used as a catalog. -/
structure Admits (p : CatalogPlace) (w : World) (path : String) : Prop where
  short : isTooLong ("/" ++ "/".intercalate w.workingDirectory) path = false
  passable : ∀ passed ∈ Path.passed path,
    (w.look passed).isOk ∨ w.look passed = .error .notFound
  pattern : ∀ pattern ∈ p.pattern, (w.look pattern).isOk

/-- The locator leads to the catalog in the file at the position. -/
structure LeadsTo (w : World) (locator : String) (p : CatalogPlace) (position : List String)
    (path : String) : Prop where
  noZero : zeroOctet? locator = none
  place : CatalogPlace.ofLocator locator = .ok p
  holds : Holds p w position path
  admits : Admits p w path
  present : p.access = .create ∨ (w.files.entry? position).isSome

/-- The connection is to the catalog in the file at the position, which is there. -/
structure ConnectedTo (w : World) (c : Connection) (position : List String) (path : String) :
    Prop where
  holds : Holds c.place w position path
  present : (w.files.entry? position).isSome

variable {w w' : World} {locator path : String} {position : List String} {bytes : Octets}
  {p : CatalogPlace} {c : Connection} {s : Store}

private theorem Rests.contentsAt?_eq (h : Rests w position bytes) :
    contentsAt? w position = (decode bytes).toOption := by
  rw [contentsAt?, h.file, contents?, inForce_eq_self h.journal]

namespace Holds

private theorem contentsAt?_eq (h : Holds p w position path) :
    contentsAt? w position = some (tableAt w position) := by
  obtain ⟨t, ht⟩ := Option.isSome_iff_exists.1 h.readable
  rw [tableAt, ht]
  rfl

private theorem decode_eq (h : Holds p w position path)
    (hentry : w.files.entry? position = some (.file bytes)) :
    decode (inForce bytes (w.files.entry? (journalPosition position))) =
      .ok (tableAt w position) := by
  have hcontents := h.contentsAt?_eq
  rw [contentsAt?, hentry, contents?] at hcontents
  generalize decode (inForce bytes _) = r at hcontents ⊢
  cases r with
  | error fault => cases hcontents
  | ok t => rw [Option.some.inj hcontents]

/-- What rests in the file from now on is the same table. -/
private theorem of_rests (h : Holds p w position path)
    (hreaches : Reaches w' (Path.normal path) position) (hrests : Rests w' position bytes)
    (hdecode : decode bytes = .ok (tableAt w position)) :
    Holds p w' position path ∧ tableAt w' position = tableAt w position := by
  have hcontents : contentsAt? w' position = some (tableAt w position) := by
    rw [hrests.contentsAt?_eq, hdecode]
    rfl
  refine ⟨⟨h.file, hreaches, ?_, fun _ => hrests.journal⟩, ?_⟩
  · rw [hcontents]
    rfl
  · rw [tableAt, hcontents]
    rfl

private theorem exists_file (h : Holds p w position path)
    (hpresent : (w.files.entry? position).isSome) :
    ∃ bytes, w.files.entry? position = some (.file bytes) := by
  obtain ⟨e, he⟩ := Option.isSome_iff_exists.1 hpresent
  cases e with
  | directory => exact absurd (FileTree.isDirectoryAt_iff.2 he) (by simp [h.reaches.fileFree])
  | file bytes => exact ⟨bytes, he⟩

private theorem run_fetch (h : Holds p w position path)
    (hentry : w.files.entry? position = some (.file bytes)) :
    ∃ found w', (fetch fileSystem p (Path.normal path)).run w = (.ok found, w') ∧
      Reaches w' (Path.normal path) position ∧ Rests w' position found ∧
      decode found = .ok (tableAt w position) := by
  have hdecode := h.decode_eq hentry
  rw [fetch, World.run_bind (h.reaches.run_read hentry)]
  cases hp : p.isReadOnly with
  | true =>
    have hrests : Rests w position bytes := ⟨hentry, h.idle hp⟩
    rw [inForce_eq_self hrests.journal] at hdecode
    refine ⟨bytes, w, ?_, h.reaches, hrests, hdecode⟩
    cases p.isFrozen with
    | true => rfl
    | false => exact h.reaches.run_recover_idle hrests fun _ => hp
  | false =>
    have hfrozen : p.isFrozen = false := by simp_all [CatalogPlace.isReadOnly]
    obtain ⟨w', hrecover, hreaches, hrests⟩ := h.reaches.run_recover hentry hp
    refine ⟨_, w', ?_, hreaches, hrests, hdecode⟩
    rw [hfrozen]
    exact hrecover

end Holds

namespace ConnectedTo

private theorem run_table (h : ConnectedTo w c position path) :
    ∃ w', (table fileSystem c).run w = (.ok (tableAt w position), w') ∧
      ConnectedTo w' c position path ∧ tableAt w' position = tableAt w position := by
  obtain ⟨bytes, hentry⟩ := h.holds.exists_file h.present
  obtain ⟨found, w', hfetch, hreaches, hrests, hdecode⟩ := h.holds.run_fetch hentry
  obtain ⟨hholds, htable⟩ := h.holds.of_rests hreaches hrests hdecode
  refine ⟨w', ?_, ⟨hholds, by rw [hrests.file]; rfl⟩, htable⟩
  rw [table, h.holds.file]
  simp only
  rw [World.run_bind hfetch]
  simp only [hdecode]
  rfl

private theorem run_rows (h : ConnectedTo w c position path) (hs : tableAt w position = some s) :
    ∃ w', (rows fileSystem c).run w = (.ok s, w') ∧ tableAt w' position = some s := by
  obtain ⟨w₁, htable, -, hkept⟩ := h.run_table
  refine ⟨w₁, ?_, hkept.trans hs⟩
  rw [rows, World.run_bind htable, hs]
  rfl

end ConnectedTo

private theorem run_isPassable {paths : List String}
    (h : ∀ passed ∈ paths, (w.look passed).isOk ∨ w.look passed = .error .notFound) :
    (isPassable fileSystem paths).run w = (true, w) := by
  induction paths with
  | nil => rfl
  | cons passed paths ih =>
    have hrest := ih fun q hq => h q (List.mem_cons_of_mem _ hq)
    have hhere := h passed List.mem_cons_self
    have hlook : (fileSystem.look passed).run w = (w.look passed, w) := rfl
    rw [isPassable, World.run_bind hlook]
    generalize w.look passed = kind at hhere ⊢
    cases kind with
    | ok kind => exact hrest
    | error fault =>
      obtain rfl : fault = .notFound := by simpa [Except.isOk, Except.toBool] using hhere
      exact hrest

namespace LeadsTo

/-- The file is made if it is missing, without a table. -/
private theorem run_ensureFile (h : LeadsTo w locator p position path) :
    ∃ w', (ensureFile fileSystem p.access (Path.normal path)).run w = (.ok (), w') ∧
      ConnectedTo w' ⟨p, none⟩ position path ∧ tableAt w' position = tableAt w position := by
  have hreaches := h.holds.reaches
  cases hentry : w.files.entry? position with
  | some e =>
    obtain ⟨bytes, hbytes⟩ := h.holds.exists_file (by rw [hentry]; rfl)
    refine ⟨w, ?_, ⟨h.holds, by rw [hentry]; rfl⟩, rfl⟩
    rw [ensureFile, World.run_bind (hreaches.run_read hbytes)]
    rfl
  | none =>
    have haccess : p.access = .create := by simpa [hentry] using h.present
    have hread : (fileSystem.read (Path.normal path)).run w = (.error .notFound, w) := by
      change (w.read _, w) = _
      rw [World.read_of_locateNew hreaches.file, hentry]
    have hnew : (w.put position (.file [])).files.entry? position = some (.file []) := by
      rw [World.entry?_put hreaches.file_ne_nil, if_pos rfl]
    have hjournal : (w.put position (.file [])).files.entry? (journalPosition position) =
        w.files.entry? (journalPosition position) := by
      rw [World.entry?_put hreaches.file_ne_nil, if_neg (journalPosition_ne position)]
    have hcontents : contentsAt? (w.put position (.file [])) position = some none := by
      rw [contentsAt?, hnew, contents?, inForce_of_isBlank rfl]
      rfl
    have hformer : tableAt w position = none := by
      rw [tableAt, contentsAt?, hentry]
      rfl
    refine ⟨_, ?_, ⟨⟨h.holds.file, hreaches.putFile [], by rw [hcontents]; rfl, fun hp => ?_⟩,
      by rw [hnew]; rfl⟩, ?_⟩
    · rw [ensureFile, World.run_bind hread, haccess]
      exact hreaches.run_write []
    · rw [hjournal]
      exact h.holds.idle hp
    · rw [hformer, tableAt, hcontents]
      rfl

theorem run_connect (h : LeadsTo w locator p position path) :
    ∃ w', (connect fileSystem (some locator)).run w = (.ok ⟨p, none⟩, w') ∧
      ConnectedTo w' ⟨p, none⟩ position path ∧ tableAt w' position = tableAt w position := by
  obtain ⟨w', hensure, hconnected, hkept⟩ := h.run_ensureFile
  refine ⟨w', ?_, hconnected, hkept⟩
  have hdirectory : (fileSystem.workingDirectory).run w =
      ("/" ++ "/".intercalate w.workingDirectory, w) := rfl
  have hpassable := run_isPassable h.admits.passable
  simp only [connect, h.noZero, h.place, h.holds.file]
  rw [connectFile, World.run_bind hdirectory, h.admits.short, if_neg Bool.false_ne_true,
    World.run_bind hpassable, if_neg (by simp)]
  cases hpattern : p.pattern with
  | none =>
    simp only
    rw [World.run_bind hensure]
    rfl
  | some pattern =>
    have hpresent : (fileSystem.isPresent pattern).run w = (true, w) := by
      change ((w.look pattern).isOk, w) = _
      rw [h.admits.pattern pattern hpattern]
    simp only
    rw [World.run_bind hpresent]
    simp only [Bool.not_true, Bool.false_eq_true, if_false]
    rw [World.run_bind hensure]
    rfl

end LeadsTo

end MetricsView.Archive
