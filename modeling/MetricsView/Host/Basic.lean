import MetricsView.Catalog.Store
import MetricsView.File

/-!
# The host

What the program asks of its surroundings: files, variables, the time and a database. A catalog is
opened by connecting to its database and making the table there, if it is missing; each operation of
an open catalog is one statement.
-/
namespace MetricsView

variable {m : Type → Type} [Monad m]

/-- A database that may have the table of a catalog. -/
structure Database (m : Type → Type) where
  Connection : Type
  /-- Connects to the database that a locator names, or else to a new one in memory. -/
  connect : Option String → m (Except StorageFault Connection)
  /-- The rows of the table in any order. -/
  rows : Connection → m (Except StorageFault Store)
  execute : Connection → TableChange → m (Except StorageFault Connection)

structure Host (m : Type → Type) extends FileSystem m where
  lookUp : String → m (Option String)
  now : m Instant
  database : Database m

namespace Catalog

section Database

variable (db : Database m)

/-- Connects to the database of a catalog, which has the table from then on. -/
def connect (locator : Option String) : m (Except Failure db.Connection) := do
  match ← db.connect locator with
  | .error fault => return .error (.storage fault)
  | .ok c =>
    match ← db.execute c .make with
    | .ok c => return .ok c
    | .error fault => return .error (.storage fault)

variable {db} (c : db.Connection)

def list (tenant : String) (kind : Option ObjectKind) :
    m (Except Failure (List CatalogObject)) := do
  match ← db.rows c with
  | .ok s => return s.list .json tenant kind
  | .error fault => return .error (.storage fault)

def find (tenant name : String) : m (Except Failure (Option CatalogObject)) := do
  match ← db.rows c with
  | .ok s => return s.find .json tenant name
  | .error fault => return .error (.storage fault)

/-- Adds an object. The clock is read when its schema has been encoded. -/
def create (now : m Instant) (tenant : String) (o : CatalogObject) :
    m (Except Failure CatalogObject) := do
  match Store.encodeSchema .json o with
  | .error e => return .error e
  | .ok blob =>
    let created := Store.stamped (← now) o
    match ← db.execute c (.insert (Store.rowOf tenant blob created)) with
    | .ok _ => return .ok created
    | .error fault => return .error (.storage fault)

def delete (tenant name : String) : m (Except Failure Unit) := do
  match ← db.execute c (.delete tenant name) with
  | .ok _ => return .ok ()
  | .error fault => return .error (.storage fault)

end Database

variable (host : Host m)

/-- Opens the catalog that a locator names, after making the directories around it. Without a
locator the catalog is in memory. -/
def openAt (locator : Option String) : m (Except Failure host.database.Connection) := do
  match locator with
  | none => connect host.database none
  | some locator =>
    match ← host.ensureEnclosing locator with
    | .ok () => connect host.database (some locator)
    | .error (directory, fault) =>
      return .error (.storageUnavailable
        s!"failed to create catalog directory '{directory}': {fault.message}")

end Catalog
end MetricsView
