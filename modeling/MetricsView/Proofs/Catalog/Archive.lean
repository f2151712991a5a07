import MetricsView.Catalog.Archive
import MetricsView.Proofs.Catalog.Database
import MetricsView.Proofs.Schema
import MetricsView.Proofs.Text

/-! # Catalog files are databases

Any store is read back from its own octets, row by row. What counts in a file is told from its
octets and from the journal beside it, and to read or to write the file leaves nothing in force
beside it. So whoever connects finds what was last written. -/
namespace MetricsView

open Json (list?_list option?_option)
open Text (Octets)

namespace StoredObject

private theorem instantOfJson?_instantToJson (t : Instant) :
    instantOfJson? (instantToJson t) = some t := by
  have hseconds : (Json.int t.seconds).int? = some t.seconds := Literal.toInt?_ofInt _
  have hnanos : (Json.int t.nanos).int? = some (t.nanos : Int) := Literal.toInt?_ofInt _
  simp [instantToJson, instantOfJson?, hseconds, hnanos]

private theorem blobOfJson?_blobToJson (blob : Octets) :
    blobOfJson? (blobToJson blob) = some blob :=
  Text.ofHex?_hex blob

private theorem ofJson?_toJson (o : StoredObject) : ofJson? o.toJson = some o := by
  have hkind : (Json.int o.kindCode).int? = some o.kindCode := Literal.toInt?_ofInt _
  have hmanaged : (Json.int o.managed).int? = some o.managed := Literal.toInt?_ofInt _
  have hsql : Json.option? Json.string? (Json.option Json.text o.sql) = some o.sql :=
    option?_option (by simp [Json.text]) fun s _ => Json.string?_text s
  have hschema : Json.option? blobOfJson? (Json.option blobToJson o.schema) = some o.schema :=
    option?_option (by simp [blobToJson, Json.text]) fun blob _ => blobOfJson?_blobToJson blob
  simp [toJson, ofJson?, hkind, hmanaged, hsql, hschema, Json.string?_text,
    instantOfJson?_instantToJson]

end StoredObject

namespace Store

end Store

namespace Archive

open World (fileSystem)

/-- Where the journal of the file at a position is. -/
def journalPosition (position : List String) : List String :=
  position.dropLast ++ [journalPath (position.getLastD "")]

/-- Whether an entry is a journal that counts against a file that is not blank. -/
def isInForce : Option Entry → Bool
  | some (.file (mark :: _)) => mark ≠ 0
  | _ => false

/-- The octets that count for a file, given what there is in the place of its journal. -/
def inForce (bytes : Octets) : Option Entry → Octets
  | some (.file (mark :: rest)) =>
    if isBlank bytes || mark = 0 then bytes else (Store.guarded? (mark :: rest)).getD bytes
  | _ => bytes

/-- The path leads to a place for a file, and the path of its journal to the place for that. -/
structure Reaches (w : World) (path : String) (position : List String) : Prop where
  file : w.locateNew path = .ok position
  journal : w.locateNew (journalPath path) = .ok (journalPosition position)
  fileFree : w.files.isDirectoryAt position = false
  journalFree : w.files.isDirectoryAt (journalPosition position) = false

/-- The file at the position has these octets, and no journal is in force. -/
structure Rests (w : World) (position : List String) (bytes : Octets) : Prop where
  file : w.files.entry? position = some (.file bytes)
  journal : isInForce (w.files.entry? (journalPosition position)) = false

variable {w w' : World} {path : String} {position place : List String} {bytes : Octets}
  {p : CatalogPlace} {s : Store}

theorem inForce_eq_self {journal : Option Entry} (h : isInForce journal = false) :
    inForce bytes journal = bytes := by
  unfold inForce
  split
  · next mark rest =>
    have hmark : mark = 0 := by simpa [isInForce] using h
    simp [hmark]
  · rfl

theorem inForce_of_isBlank (h : isBlank bytes) (journal : Option Entry) :
    inForce bytes journal = bytes := by
  unfold inForce
  split
  · simp [h]
  · rfl

private theorem exists_of_isInForce {journal : Option Entry} (h : isInForce journal) :
    ∃ mark rest, journal = some (.file (mark :: rest)) ∧ mark ≠ 0 := by
  unfold isInForce at h
  split at h
  · next mark rest => exact ⟨mark, rest, rfl, by simpa using h⟩
  · cases h

theorem journalPosition_ne (position : List String) :
    journalPosition position ≠ position := by
  intro heq
  have hlast : (journalPosition position).getLastD "" = position.getLastD "" := by rw [heq]
  have hlength := congrArg String.length hlast
  rw [journalPosition, List.getLastD_concat, journalPath, String.length_append] at hlength
  have hsuffix : "-journal".length = 8 := rfl
  omega

namespace Reaches

theorem file_ne_nil (h : Reaches w path position) : position ≠ [] :=
  World.ne_nil_of_locateNew h.file

private theorem journal_ne_nil (h : Reaches w path position) : journalPosition position ≠ [] :=
  World.ne_nil_of_locateNew h.journal

private theorem put (h : Reaches w path position) (hne : place ≠ [])
    (hfree : w.files.isDirectoryAt place = false) (content : Octets) :
    Reaches (w.put place (.file content)) path position :=
  have hkeeps : w.Keeps (w.put place (.file content)) := .put hne hfree _
  ⟨hkeeps.locateNew h.file, hkeeps.locateNew h.journal,
    World.isDirectoryAt_put hne h.fileFree content,
    World.isDirectoryAt_put hne h.journalFree content⟩

theorem putFile (h : Reaches w path position) (content : Octets) :
    Reaches (w.put position (.file content)) path position :=
  h.put h.file_ne_nil h.fileFree content

private theorem dropJournal (h : Reaches w path position) :
    Reaches (w.drop (journalPosition position)) path position :=
  have hkeeps : w.Keeps (w.drop (journalPosition position)) := .drop h.journal_ne_nil h.journalFree
  ⟨hkeeps.locateNew h.file, hkeeps.locateNew h.journal,
    World.isDirectoryAt_drop h.journal_ne_nil h.fileFree,
    World.isDirectoryAt_drop h.journal_ne_nil h.journalFree⟩

theorem run_write (h : Reaches w path position) (content : Octets) :
    (fileSystem.write path content).run w = (.ok (), w.put position (.file content)) :=
  World.run_write (World.write_of_locateNew h.file h.fileFree content)

private theorem run_removeJournal (h : Reaches w path position) (bytes : Octets)
    (hentry : w.files.entry? (journalPosition position) = some (.file bytes)) :
    (fileSystem.remove (journalPath path)).run w = (.ok (), w.drop (journalPosition position)) :=
  World.run_remove (World.remove_of_locateNew h.journal hentry)

theorem run_read (h : Reaches w path position)
    (hentry : w.files.entry? position = some (.file bytes)) :
    (fileSystem.read path).run w = (.ok bytes, w) := by
  change (w.read path, w) = _
  rw [World.read_of_locateNew h.file, hentry]

private theorem run_readJournal (h : Reaches w path position) :
    (fileSystem.read (journalPath path)).run w =
      (match w.files.entry? (journalPosition position) with
      | some (.file content) => .ok content
      | _ => .error .notFound, w) := by
  change (w.read (journalPath path), w) = _
  rw [World.read_of_locateNew h.journal]
  have hfree := h.journalFree
  rw [FileTree.isDirectoryAt] at hfree
  generalize w.files.entry? (journalPosition position) = e at hfree ⊢
  cases e with
  | none => rfl
  | some e =>
    cases e with
    | directory => simp at hfree
    | file content => rfl

/-- A file at rest is left as it is, unless it is blank and may be written. -/
theorem run_recover_idle (h : Reaches w path position) (hrests : Rests w position bytes)
    (hp : isBlank bytes → p.isReadOnly) :
    (recover fileSystem p path bytes).run w = (.ok bytes, w) := by
  have hidle := hrests.journal
  rw [recover, World.run_bind h.run_readJournal]
  generalize w.files.entry? (journalPosition position) = e at hidle ⊢
  match e with
  | none | some .directory | some (.file []) => rfl
  | some (.file (mark :: rest)) =>
    have hmark : mark = 0 := by simpa [isInForce] using hidle
    cases hblank : isBlank bytes with
    | true =>
      simp only [hp hblank, if_true, Bool.not_true, Bool.false_eq_true, if_false]
      rfl
    | false =>
      simp only [hmark, if_true, Bool.false_eq_true, if_false]
      rfl

/-- A journal beside a blank file is taken away. -/
private theorem recover_blank (h : Reaches w path position)
    (hentry : w.files.entry? position = some (.file bytes)) (hblank : isBlank bytes)
    (hp : p.isReadOnly = false) :
    ∃ w', (recover fileSystem p path bytes).run w = (.ok bytes, w') ∧
      Reaches w' path position ∧ Rests w' position bytes := by
  rw [recover, World.run_bind h.run_readJournal]
  cases hjournal : w.files.entry? (journalPosition position) with
  | none => exact ⟨w, rfl, h, hentry, by rw [hjournal]; rfl⟩
  | some e =>
    match e with
    | .directory => exact absurd (FileTree.isDirectoryAt_iff.2 hjournal) (by simp [h.journalFree])
    | .file [] => exact ⟨w, rfl, h, hentry, by rw [hjournal]; rfl⟩
    | .file (mark :: rest) =>
      refine ⟨_, ?_, h.dropJournal, ?_, ?_⟩
      · simp only [hblank, hp, if_true, Bool.not_false]
        rw [World.run_bind (h.run_removeJournal (mark :: rest) hjournal)]
        rfl
      · rwa [World.entry?_drop h.journal_ne_nil, if_neg (journalPosition_ne position).symm]
      · rw [World.entry?_drop h.journal_ne_nil, if_pos rfl]
        rfl

/-- A journal in force gives the file what it guards, and is taken away. -/
private theorem recover_inForce (h : Reaches w path position) (hblank : isBlank bytes = false)
    (hp : p.isReadOnly = false) {mark : UInt8} {rest : Octets} (hmark : mark ≠ 0)
    (hjournal : w.files.entry? (journalPosition position) = some (.file (mark :: rest))) :
    ∃ w', (recover fileSystem p path bytes).run w =
        (.ok ((Store.guarded? (mark :: rest)).getD bytes), w') ∧
      Reaches w' path position ∧
      Rests w' position ((Store.guarded? (mark :: rest)).getD bytes) := by
  have hwritten := h.putFile ((Store.guarded? (mark :: rest)).getD bytes)
  refine ⟨_, ?_, hwritten.dropJournal, ?_, ?_⟩
  · rw [recover, World.run_bind h.run_readJournal, hjournal]
    simp only [hblank, hp, hmark, if_false, Bool.false_eq_true]
    rw [World.run_bind (h.run_write _),
      World.run_bind (hwritten.run_removeJournal (mark :: rest) ?_)]
    · rfl
    · rwa [World.entry?_put h.file_ne_nil, if_neg (journalPosition_ne position)]
  · rw [World.entry?_drop h.journal_ne_nil, if_neg (journalPosition_ne position).symm,
      World.entry?_put h.file_ne_nil, if_pos rfl]
  · rw [World.entry?_drop h.journal_ne_nil, if_pos rfl]
    rfl

/-- Who may write leaves the file at rest, with the octets that count. -/
theorem run_recover (h : Reaches w path position)
    (hentry : w.files.entry? position = some (.file bytes)) (hp : p.isReadOnly = false) :
    ∃ w', (recover fileSystem p path bytes).run w =
        (.ok (inForce bytes (w.files.entry? (journalPosition position))), w') ∧
      Reaches w' path position ∧
      Rests w' position (inForce bytes (w.files.entry? (journalPosition position))) := by
  cases hblank : isBlank bytes with
  | true =>
    rw [inForce_of_isBlank hblank]
    exact h.recover_blank hentry hblank hp
  | false =>
    cases hjournal : isInForce (w.files.entry? (journalPosition position)) with
    | false =>
      rw [inForce_eq_self hjournal]
      have hrecover := h.run_recover_idle (p := p) ⟨hentry, hjournal⟩ fun hyes => ?_
      · exact ⟨w, hrecover, h, hentry, hjournal⟩
      · exact absurd hyes (by simp [hblank])
    | true =>
      obtain ⟨mark, rest, hfile, hmark⟩ := exists_of_isInForce hjournal
      have hcounts : inForce bytes (some (.file (mark :: rest))) =
          (Store.guarded? (mark :: rest)).getD bytes := by simp [inForce, hblank, hmark]
      rw [hfile, hcounts]
      exact h.recover_inForce hblank hp hmark hfile

end Reaches
end Archive
end MetricsView
