import MetricsView.Catalog.Locator
import MetricsView.Host.Basic

/-!
# Catalog files

The program takes any database for its catalog. This is one, with a file format of its own: a
signature, then the rows as a JSON array. While the file is written, a journal beside it guards the
former octets.
-/
namespace MetricsView

open Text (Octets)

namespace StoredObject

def instantToJson (t : Instant) : Json := .array [.int t.seconds, .int t.nanos]

def instantOfJson? : Json → Option Instant
  | .array [seconds, nanos] => do return ⟨← seconds.int?, (← nanos.int?).toNat⟩
  | _ => none

def blobToJson (blob : Octets) : Json := .text (Text.hex blob)

def blobOfJson? (v : Json) : Option Octets := v.string?.bind fun s => Text.ofHex? s.toList

def toJson (o : StoredObject) : Json :=
  .array [.text o.tenant, .text o.name, .int o.kindCode, .option Json.text o.sql,
    .option blobToJson o.schema, .int o.managed, instantToJson o.createdOn,
    instantToJson o.updatedOn, instantToJson o.refreshedOn]

def ofJson? : Json → Option StoredObject
  | .array [tenant, name, kindCode, sql, schema, managed, createdOn, updatedOn, refreshedOn] => do
    return ⟨← tenant.string?, ← name.string?, ← kindCode.int?, ← sql.option? Json.string?,
      ← schema.option? blobOfJson?, ← managed.int?, ← instantOfJson? createdOn,
      ← instantOfJson? updatedOn, ← instantOfJson? refreshedOn⟩
  | _ => none

end StoredObject

namespace Store

/-- The octets at the start of a catalog file. The first one keeps the file from being text. -/
def signature : Octets := 0x93 :: Text.utf8 "metrics catalog\n".toList

def toOctets (s : Store) : Octets :=
  signature ++ Text.utf8 (Json.list StoredObject.toJson s.objects).compact

def ofOctets? (bytes : Octets) : Option Store :=
  if bytes.isEmpty then some empty
  else if signature.isPrefixOf bytes then do
    let v ← Json.ofOctets? (bytes.drop signature.length)
    return ⟨← v.list? StoredObject.ofJson?⟩
  else none

def journalSignature : Octets := 0x94 :: Text.utf8 "metrics journal\n".toList

def journal (former : Octets) : Octets := journalSignature ++ former

def guarded? (bytes : Octets) : Option Octets :=
  if journalSignature.isPrefixOf bytes then some (bytes.drop journalSignature.length) else none

end Store

namespace Archive

variable {m : Type → Type} [Monad m] (files : FileSystem m)

/-- The full path of a file has at most so many octets. -/
def longestPath : Nat := 504

def isTooLong (workingDirectory path : String) : Bool :=
  longestPath < (Path.normal (Path.join workingDirectory path)).utf8ByteSize

/-- Whether the way along the paths leads through no file. What is missing on it does no harm. -/
def isPassable : List String → m Bool
  | [] => return true
  | path :: paths => do
    match ← files.look path with
    | .ok _ | .error .notFound => isPassable paths
    | .error _ => return false

def journalPath (path : String) : String := path ++ "-journal"

/-- A file with at most one octet holds nothing. -/
def isBlank (bytes : Octets) : Bool := bytes.length ≤ 1

def ensureFile (access : CatalogAccess) (path : String) : m (Except FileFault Unit) := do
  match ← files.read path with
  | .ok _ => return .ok ()
  | .error .notFound =>
    if access = .create then files.write path [] else return .error .notFound
  | .error fault => return .error fault

/-- Writes a store over the octets of a file, under the guard of a journal. -/
def overwrite (path : String) (s : Store) : m (Except StorageFault Unit) := do
  match ← files.read path with
  | .error _ => return .error .device
  | .ok former =>
    match ← files.write (journalPath path) (Store.journal former) with
    | .error _ => return .error .cannotGuard
    | .ok () =>
      match ← files.write path s.toOctets with
      | .error _ => return .error .device
      | .ok () =>
        let _ ← files.remove (journalPath path)
        return .ok ()

/-- Takes away a journal that was left behind, and gives the file back the octets that it guards.
A journal that starts with a zero octet is not in force. -/
def recover (p : CatalogPlace) (path : String) (bytes : Octets) :
    m (Except StorageFault Octets) := do
  match ← files.read (journalPath path) with
  | .ok (mark :: rest) =>
    if isBlank bytes then
      if !p.isReadOnly then let _ ← files.remove (journalPath path)
      return .ok bytes
    if mark = 0 then return .ok bytes
    if p.isReadOnly then return .error .readOnly
    let former := (Store.guarded? (mark :: rest)).getD bytes
    let _ ← files.write path former
    let _ ← files.remove (journalPath path)
    return .ok former
  | .error .isADirectory => return if isBlank bytes then .ok bytes else .error .device
  | _ => return .ok bytes

def fetch (p : CatalogPlace) (path : String) : m (Except StorageFault Octets) := do
  match ← files.read path with
  | .error _ => return .error .device
  | .ok bytes => if p.isFrozen then return .ok bytes else recover files p path bytes

def decode (bytes : Octets) : Except StorageFault (Option Store) :=
  if isBlank bytes then .ok none
  else match Store.ofOctets? bytes with
    | some s => .ok (some s)
    | none => .error .notADatabase

/-- A connection to the catalog at a place. Where there is no file, it keeps the table itself. -/
structure Connection where
  place : CatalogPlace
  kept : Option Store

/-- Connects to the catalog in a file. The locator is what a fault calls the file. -/
def connectFile (p : CatalogPlace) (locator path : String) :
    m (Except StorageFault Connection) := do
  if isTooLong (← files.workingDirectory) path then return .error (.cannotOpen locator)
  if !(← isPassable files (Path.passed path)) then return .error (.cannotOpen locator)
  if let some pattern := p.pattern then
    if !(← files.isPresent pattern) then return .error .device
  match ← ensureFile files p.access (Path.normal path) with
  | .ok () => return .ok ⟨p, none⟩
  | .error fault =>
    if fault = .isADirectory ∧ p.access = .readOnly then return .error .device
    return .error (.cannotOpen locator)

def zeroOctet? (s : String) : Option Nat := (Text.utf8 s.toList).findIdx? (· = 0)

def connect : Option String → m (Except StorageFault Connection)
  | none => return .ok ⟨.memory, none⟩
  | some locator => do
    if let some position := zeroOctet? locator then return .error (.zeroOctet position)
    match CatalogPlace.ofLocator locator with
    | .error error => return .error (.locator error)
    | .ok p =>
      match p.file with
      | some path => connectFile files p locator path
      | none => return .ok ⟨p, none⟩

def table (c : Connection) : m (Except StorageFault (Option Store)) := do
  match c.place.file with
  | none => return .ok c.kept
  | some path =>
    match ← fetch files c.place (Path.normal path) with
    | .ok bytes => return decode bytes
    | .error fault => return .error fault

def rows (c : Connection) : m (Except StorageFault Store) := do
  match ← table files c with
  | .ok (some s) => return .ok s
  | .ok none => return .error .noTable
  | .error fault => return .error fault

def keep (c : Connection) (s : Store) : m (Except StorageFault Connection) := do
  match c.place.file with
  | none => return .ok { c with kept := some s }
  | some path =>
    match ← overwrite files (Path.normal path) s with
    | .ok () => return .ok c
    | .error fault => return .error fault

def execute (c : Connection) (change : TableChange) : m (Except StorageFault Connection) := do
  match ← table files c with
  | .error fault => return .error fault
  | .ok table =>
    match change.outcome (!c.place.isReadOnly) table with
    | .error fault => return .error fault
    | .ok s => if change.writes table then keep files c s else return .ok c

abbrev database : Database m where
  Connection := Connection
  connect := connect files
  rows := rows files
  execute := execute files

end Archive
end MetricsView
