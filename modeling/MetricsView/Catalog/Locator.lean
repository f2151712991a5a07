import MetricsView.Decimal
import MetricsView.Text.Basic

/-!
# Catalog locators

A locator names a catalog. It is a path, or it starts with `file:` and goes on with a path, with
options behind a question mark and with a remark behind a number sign that says nothing. Both the
path and the options may hold octets in the form of a percent sign and two hexadecimal digits.
-/
namespace MetricsView

open Text (Octets)

inductive CatalogAccess where
  | readOnly
  | readWrite
  /-- The file is made if it is missing. -/
  | create
  deriving DecidableEq, Repr

inductive LocatorError where
  /-- A host other than the own one. -/
  | authority (host : String)
  | unknownMode (mode : String)
  | deniedMode (mode : String)
  | unknownCache (mode : String)
  | unknownFileSystem (name : String)
  deriving DecidableEq, Repr

def LocatorError.message : LocatorError → String
  | .authority host => s!"invalid uri authority: {host}"
  | .unknownMode mode => s!"no such access mode: {mode}"
  | .deniedMode mode => s!"access mode not allowed: {mode}"
  | .unknownCache mode => s!"no such cache mode: {mode}"
  | .unknownFileSystem name => s!"no such vfs: {name}"

namespace CatalogLocator

/-- The octets of a text in which a percent sign with two hexadecimal digits is an octet. -/
def decode : List Char → Octets
  | '%' :: a :: b :: cs =>
    match Text.hexDigit? a, Text.hexDigit? b with
    | some high, some low => UInt8.ofNat (16 * high + low) :: decode cs
    | _, _ => 0x25 :: decode (a :: b :: cs)
  | c :: cs => String.utf8EncodeChar c ++ decode cs
  | [] => []

/-- The text that a part stands for. It ends before a zero octet. -/
def part (cs : List Char) : String :=
  let octets := (decode cs).takeWhile (· ≠ 0)
  String.ofList ((Text.characters octets).map fun c => c.getD '\ufffd')

/-- The options in their order. One without a name is no option. -/
def options (query : List Char) : List (String × String) :=
  let named := (Text.parts '&' query).map fun cs =>
    let (name, value) := Text.halves '=' cs
    (part name, part value)
  named.filter fun o => o.1 ≠ ""

def value? (options : List (String × String)) (name : String) : Option String :=
  (options.find? fun o => o.1 = name).map (·.2)

/-- What a mode asks for; memory is no access to a file. -/
inductive Mode where
  | access (a : CatalogAccess)
  | memory
  deriving DecidableEq, Repr

def Mode.named : List (String × Mode) :=
  [("ro", .access .readOnly), ("rw", .access .readWrite), ("rwc", .access .create),
    ("memory", .memory)]

def Mode.ofName? (name : String) : Option Mode :=
  (Mode.named.find? fun n => n.1 = name).map (·.2)

def covers : CatalogAccess → CatalogAccess → Bool
  | .create, _ | _, .readOnly | .readWrite, .readWrite => true
  | _, _ => false

/-- A mode in place of the one before. Files may be used only in ways that the mode before allows,
unless that was memory. -/
def Mode.change (before : Mode) (name : String) : Except LocatorError Mode :=
  match before, Mode.ofName? name with
  | _, none => .error (.unknownMode name)
  | .access a, some (.access b) =>
    if covers a b then .ok (.access b) else .error (.deniedMode name)
  | _, some mode => .ok mode

def cacheModes : List String := ["shared", "private"]

def Mode.afterOption (mode : Mode) (option : String × String) : Except LocatorError Mode :=
  match option with
  | ("mode", name) => mode.change name
  | ("cache", name) =>
    if cacheModes.contains name then .ok mode else .error (.unknownCache name)
  | _ => .ok mode

/-- A number of at most ten digits behind idle zeros and within 31 bits; any other is zero. -/
def smallNumber (cs : List Char) : Nat :=
  let digits := (cs.takeWhile Char.isDigit).dropWhile (· = '0')
  let n := Digit.toNat (digits.filterMap Digit.ofChar?)
  if digits.length ≤ 10 ∧ n < 2147483648 then n else 0

/-- A number of at most eight hexadecimal digits behind idle zeros and within 31 bits; any other is
zero. -/
def smallHexNumber (cs : List Char) : Nat :=
  let digits := (cs.map Text.hexDigit?).takeWhile Option.isSome
  let digits := (digits.filterMap id).dropWhile (· = 0)
  let n := digits.foldl (fun n d => 16 * n + d) 0
  if n < 2147483648 then n else 0

/-- Whether a switch is on: a number that is no multiple of 256, or a word for it. -/
def isOn (value : String) : Bool :=
  match value.toList with
  | '0' :: x :: d :: cs =>
    if (x = 'x' || x = 'X') && (Text.hexDigit? d).isSome then smallHexNumber (d :: cs) % 256 ≠ 0
    else smallNumber (x :: d :: cs) % 256 ≠ 0
  | c :: cs =>
    if c.isDigit then smallNumber (c :: cs) % 256 ≠ 0
    else ["on", "yes", "true"].contains (String.ofList ((c :: cs).map Char.toLower))
  | [] => false

end CatalogLocator

structure CatalogPlace where
  /-- The path of the file. A catalog without one is kept in memory for a single use. -/
  file : Option String
  access : CatalogAccess
  /-- Whether nothing is written, even where the access would allow it. -/
  isFrozen : Bool
  /-- A file that has to be there, because a new one takes its rights from it. -/
  pattern : Option String
  deriving DecidableEq, Repr

namespace CatalogPlace

def memory : CatalogPlace := ⟨none, .create, false, none⟩

def isReadOnly (p : CatalogPlace) : Bool := p.access = .readOnly || p.isFrozen

def namesMemory (path : String) : Bool := path = "" || path = ":memory:"

def ofPath (path : String) : CatalogPlace :=
  if namesMemory path then memory else ⟨some path, .create, false, none⟩

/-- What follows the name of the own host, which may be left out. -/
def afterHost : List Char → Except LocatorError (List Char)
  | '/' :: '/' :: cs =>
    let host := cs.takeWhile (· ≠ '/')
    if host = [] ∨ host = "localhost".toList then .ok (cs.dropWhile (· ≠ '/'))
    else .error (.authority (String.ofList host))
  | cs => .ok cs

/-- The ways in which a file may be reached. The last one keeps what it holds in memory. -/
def fileSystems : List String := ["unix", "unix-none", "unix-dotfile", "unix-excl", "memdb"]

def ofLocatorTail (cs : List Char) : Except LocatorError CatalogPlace := do
  let cs ← afterHost cs
  let (path, query) := Text.halves '?' (Text.halves '#' cs).1
  let path := CatalogLocator.part path
  let options := CatalogLocator.options query
  let mode ← options.foldlM CatalogLocator.Mode.afterOption (.access .create)
  let fileSystem := (CatalogLocator.value? options.reverse "vfs").getD "unix"
  if !fileSystems.contains fileSystem then throw (.unknownFileSystem fileSystem)
  match mode with
  | .memory => return memory
  | .access access =>
    if namesMemory path then return { memory with access }
    let isFrozen := (CatalogLocator.value? options "immutable").any CatalogLocator.isOn
    if fileSystem = "memdb" then return { memory with access, isFrozen }
    return ⟨some path, access, isFrozen, CatalogLocator.value? options "modeof"⟩

def ofLocator (locator : String) : Except LocatorError CatalogPlace :=
  match locator.toList with
  | 'f' :: 'i' :: 'l' :: 'e' :: ':' :: cs => ofLocatorTail cs
  | _ => .ok (ofPath locator)

end CatalogPlace
end MetricsView
