import MetricsView.Decimal

/-!
# TOML values

Values as they are built up by the tables of a document, and what they mean where a boolean, a
number, a text or a record is expected. A record may be written as a table or, in the order of its
fields, as an array.
-/
namespace MetricsView.Toml

/-- How a table came to be, which decides where more may be said about it. -/
inductive Origin where
  /-- It has a header of its own, or is the whole document. -/
  | header
  /-- It lies on the path of a header. -/
  | implied
  /-- It lies on the path of a dotted key. -/
  | dotted
  | inline
  deriving DecidableEq, Repr

inductive Value where
  | string (s : String)
  /-- An integer; `none` when its digits turn out to spell no number. -/
  | integer (i : Option Int)
  /-- A float; `none` for infinities and for what is not a number. -/
  | float (x : Option Literal)
  | bool (b : Bool)
  | dateTime
  | array (items : List Value)
  /-- An array of tables with a header each, the last one in front. -/
  | series (tables : List Value)
  | table (origin : Origin) (members : List (String × Value))

abbrev Members := List (String × Value)

namespace Members

def lookup (members : Members) (key : String) : Option Value :=
  (members.find? fun m => m.1 = key).map (·.2)

def set (members : Members) (key : String) (v : Value) : Members :=
  if (lookup members key).isSome then members.map fun m => if m.1 = key then (key, v) else m
  else members ++ [(key, v)]

/-- Changes the table to which the path of a header leads. The path goes through any table but an
inline one, and into the last table of a series; tables that are not there are made. -/
def change (f : Members → Option Members) : List String → Members → Option Members
  | [], members => f members
  | key :: path, members =>
    match lookup members key with
    | none => do return set members key (.table .implied (← change f path []))
    | some (.table .inline _) => none
    | some (.table origin inner) => do
      return set members key (.table origin (← change f path inner))
    | some (.series (.table origin inner :: tables)) => do
      return set members key (.series (.table origin (← change f path inner) :: tables))
    | some _ => none

/-- Opens a table for its header. There is one header for each table. -/
def openTable (key : String) (members : Members) : Option Members :=
  match lookup members key with
  | none => some (set members key (.table .header []))
  | some (.table .implied inner) => some (set members key (.table .header inner))
  | some _ => none

def openNext (key : String) (members : Members) : Option Members :=
  match lookup members key with
  | none => some (set members key (.series [.table .header []]))
  | some (.series tables) => some (set members key (.series (.table .header [] :: tables)))
  | some _ => none

/-- Adds a value under a dotted key. The path makes tables, or extends those that dotted keys have
made. It may cross a table implied by a header, and the last table of a series, but not end
there. -/
def insert (key : String) (v : Value) : List String → Members → Option Members
  | [], members => if (lookup members key).isSome then none else some (set members key v)
  | step :: path, members =>
    match lookup members step with
    | none => do return set members step (.table .dotted (← insert key v path []))
    | some (.table origin inner) =>
      if origin = .dotted ∨ (origin = .implied ∧ !path.isEmpty) then do
        return set members step (.table origin (← insert key v path inner))
      else none
    | some (.series (.table origin inner :: tables)) =>
      if path.isEmpty then none
      else do
        return set members step (.series (.table origin (← insert key v path inner) :: tables))
    | some _ => none

end Members

namespace Value

def leastInteger : Int := -170141183460469231731687303715884105728
def greatestInteger : Int := 340282366920938463463374607431768211455

mutual

/-- Whether the numbers in the value are numbers and stay in bounds. This is asked of values that
are skipped. -/
def isBounded : Value → Bool
  | .integer i => i.any fun i => leastInteger ≤ i && i ≤ greatestInteger
  | .float (some x) => !x.overflows
  | .array items => areBounded items
  | .series tables => areBounded tables
  | .table _ members => haveBounded members
  | _ => true

def areBounded : List Value → Bool
  | [] => true
  | v :: vs => isBounded v && areBounded vs

def haveBounded : List (String × Value) → Bool
  | [] => true
  | (_, v) :: ms => isBounded v && haveBounded ms

end

def string? : Value → Option String
  | .string s => some s
  | _ => none

def intIn? (low high : Int) : Value → Option Int
  | .integer i => i.filter fun i => low ≤ i && i ≤ high
  | _ => none

def int32? : Value → Option Int := intIn? (-2147483648) 2147483647

def nat64? (v : Value) : Option Nat := (v.intIn? 0 18446744073709551615).map Int.toNat

end Value

def Members.fields? (names : List String) (members : Members) : Option (List (Option Value)) :=
  if members.all fun m => names.contains m.1 || m.2.isBounded then
    some (names.map members.lookup)
  else none

/-- The fields of a record, in the order of `names`; a missing one is `none`. Items beyond the last
field are not looked at, and a date has no fields. -/
def Value.fields? (names : List String) : Value → Option (List (Option Value))
  | .table _ members => Members.fields? names members
  | .array items => some (positions items)
  | .series tables => some (positions tables.reverse)
  | .dateTime => some (names.map fun _ => none)
  | _ => none
where
  positions (items : List Value) : List (Option Value) :=
    (items.map some).take names.length ++ List.replicate (names.length - items.length) none

def default? (d : α) (f : Value → Option α) : Option Value → Option α
  | none => some d
  | some v => f v

end MetricsView.Toml
