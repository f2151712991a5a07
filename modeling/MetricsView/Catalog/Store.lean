import MetricsView.Failure

/-!
# The catalog store

Objects are kept under their tenant and their exact name. Look-ups by name ignore case: they see
all objects of the tenant whose folded name is the same, and take the first in listing order.
-/
namespace MetricsView

open Text (Octets)

/-- An object as it is stored: its kind as a code, its schema as a blob. -/
structure StoredObject where
  tenant : String
  name : String
  kindCode : Int
  sql : Option String
  schema : Option Octets
  /-- Anything but zero means managed. -/
  managed : Int
  createdOn : Instant
  updatedOn : Instant
  refreshedOn : Instant
  deriving DecidableEq, Repr

namespace StoredObject

def hasKey (tenant name : String) (o : StoredObject) : Bool := o.tenant = tenant && o.name = name

/-- Listing order: by folded name, then by name. -/
def precedes (a b : StoredObject) : Bool :=
  let foldedA := Text.lowercase a.name
  let foldedB := Text.lowercase b.name
  foldedA < foldedB || (foldedA = foldedB && a.name ≤ b.name)

def kind? (o : StoredObject) : Except Failure ObjectKind :=
  match ObjectKind.ofCode? o.kindCode with
  | some kind => .ok kind
  | none => .error (.storage (.unknownKind o.kindCode))

def decode (codec : Codec) (o : StoredObject) (kind : ObjectKind) :
    Except Failure CatalogObject :=
  match codec.decode o.schema with
  | .ok schema => .ok ⟨o.name, kind, o.sql, schema, o.managed ≠ 0, o.createdOn, o.updatedOn,
      o.refreshedOn⟩
  | .error e => .error (.schema e)

end StoredObject

structure Store where
  objects : List StoredObject
  deriving DecidableEq, Repr

namespace Store

def empty : Store := ⟨[]⟩

/-- The selected objects in listing order. All kinds are read before the first schema. -/
def select (s : Store) (codec : Codec) (p : StoredObject → Bool) :
    Except Failure (List CatalogObject) := do
  let selected := (s.objects.filter p).mergeSort StoredObject.precedes
  let kinds ← selected.mapM StoredObject.kind?
  (selected.zip kinds).mapM fun (o, kind) => o.decode codec kind

/-- The objects of a tenant, of one kind or of all. The unspecified kind asks for all. -/
def list (s : Store) (codec : Codec) (tenant : String) (kind : Option ObjectKind) :
    Except Failure (List CatalogObject) :=
  match kind with
  | none | some .unspecified => s.select codec fun o => o.tenant = tenant
  | some kind => s.select codec fun o => o.tenant = tenant && o.kindCode = kind.code

/-- The object of that name in any case. -/
def find (s : Store) (codec : Codec) (tenant name : String) :
    Except Failure (Option CatalogObject) := do
  let found ← s.select codec fun o =>
    o.tenant = tenant && Text.lowercase o.name = Text.lowercase name
  return found.head?

def contains (s : Store) (tenant name : String) : Bool :=
  s.objects.any (StoredObject.hasKey tenant name)

def encodeSchema (codec : Codec) (o : CatalogObject) : Except Failure (Option Octets) :=
  match codec.encode o.schema with
  | .ok blob => .ok blob
  | .error e => .error (.schema e)

def stamped (now : Instant) (o : CatalogObject) : CatalogObject :=
  { o with createdOn := now, updatedOn := now, refreshedOn := now }

def rowOf (tenant : String) (blob : Option Octets) (o : CatalogObject) : StoredObject :=
  ⟨tenant, o.name, o.kind.code, o.sql, blob, if o.managed then 1 else 0, o.createdOn, o.updatedOn,
    o.refreshedOn⟩

/-- Appends a row under a new key. -/
def insert (s : Store) (r : StoredObject) : Except StorageFault Store :=
  if s.contains r.tenant r.name then .error .duplicateKey else .ok ⟨s.objects ++ [r]⟩

/-- Adds an object under a new key. All its times are `now`. -/
def create (s : Store) (codec : Codec) (now : Instant) (tenant : String) (o : CatalogObject) :
    Except Failure (CatalogObject × Store) := do
  let blob ← encodeSchema codec o
  match s.insert (rowOf tenant blob (stamped now o)) with
  | .ok s => return (stamped now o, s)
  | .error fault => throw (.storage fault)

/-- Overwrites the object of exactly that name. It keeps the time of its creation. -/
def update (s : Store) (codec : Codec) (now : Instant) (tenant : String) (o : CatalogObject) :
    Except Failure (CatalogObject × Store) := do
  let blob ← encodeSchema codec o
  if !s.contains tenant o.name then throw (.notFound .object o.name)
  let overwrite (old : StoredObject) : StoredObject :=
    { old with
      kindCode := o.kind.code
      sql := o.sql
      schema := blob
      managed := if o.managed then 1 else 0
      updatedOn := now
      refreshedOn := o.refreshedOn }
  return ({ o with updatedOn := now },
    ⟨s.objects.map fun old => if old.hasKey tenant o.name then overwrite old else old⟩)

/-- Removes the object of exactly that name, if there is one. -/
def delete (s : Store) (tenant name : String) : Store :=
  ⟨s.objects.filter fun o => !o.hasKey tenant name⟩

end Store

/-- What a statement does to the table of a database. -/
inductive TableChange where
  /-- Makes the table, unless it is there. -/
  | make
  | insert (r : StoredObject)
  | delete (tenant name : String)
  deriving DecidableEq, Repr

namespace TableChange

def writes : TableChange → Option Store → Bool
  | make, table => table.isNone
  | insert _, table | delete _ _, table => table.isSome

def apply : TableChange → Option Store → Except StorageFault Store
  | make, table => .ok (table.getD .empty)
  | insert _, none | delete _ _, none => .error .noTable
  | insert r, some s => s.insert r
  | delete tenant name, some s => .ok (s.delete tenant name)

/-- What comes of the change in a database that may be written or not. -/
def outcome (change : TableChange) (writable : Bool) (table : Option Store) :
    Except StorageFault Store :=
  if change.writes table && !writable then .error .readOnly else change.apply table

end TableChange
end MetricsView
