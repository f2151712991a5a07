import MetricsView.Json.Printer
import MetricsView.Text.Basic

/-!
# Reading JSON

A recursive reader over characters. A place of the source that holds no character, because the
octets there are not well formed, is `none`; it is accepted inside strings only, and makes the
string unusable. Values are then read as booleans, numbers, texts, lists, names out of a fixed set
or records, which may be written as objects or, in the order of their fields, as arrays.
-/
namespace MetricsView.Json

abbrev Source := List (Option Char)

def Source.ofString (s : String) : Source := s.toList.map some

def isSpace (c : Option Char) : Bool :=
  c = some ' ' || c = some '\n' || c = some '\t' || c = some '\r'

def skipSpace (cs : Source) : Source := cs.dropWhile isSpace

def afterWord : List Char → Source → Option Source
  | [], cs => some cs
  | w :: ws, some c :: cs => if w = c then afterWord ws cs else none
  | _ :: _, _ => none

/-- A part of a string: a character, or a 16-bit unit given by an escape, or neither. -/
inductive Piece where
  | char (c : Char)
  | unit (n : Nat)
  | stray

def pairChar? (high low : Nat) : Option Char :=
  if 0xd800 ≤ high ∧ high < 0xdc00 ∧ 0xdc00 ≤ low ∧ low < 0xe000 then
    some (Char.ofNat (0x10000 + (high - 0xd800) * 0x400 + (low - 0xdc00)))
  else none

/-- The characters of a string; units join in pairs. -/
def join : List Piece → Option (List Char)
  | [] => some []
  | .char c :: ps => (join ps).map (c :: ·)
  | .stray :: _ => none
  | .unit n :: ps =>
    if h : n.isValidChar then (join ps).map (Char.ofNatAux n h :: ·)
    else match ps with
      | .unit m :: ps =>
        match pairChar? n m with
        | some c => (join ps).map (c :: ·)
        | none => none
      | _ => none

def hexValue? : Option Char → Option Nat
  | some c => Text.hexDigit? c
  | none => none

def escaped? (c : Char) : Option Char :=
  match c with
  | '"' | '\\' | '/' => some c
  | 'b' => some '\x08'
  | 'f' => some '\x0c'
  | 'n' => some '\n'
  | 'r' => some '\r'
  | 't' => some '\t'
  | _ => none

/-- The pieces of a string up to its closing quote, and what follows it. -/
def pieces : Source → Option (List Piece × Source)
  | [] => none
  | none :: cs => do
    let (ps, rest) ← pieces cs
    return (.stray :: ps, rest)
  | some '"' :: cs => some ([], cs)
  | some '\\' :: some 'u' :: a :: b :: c :: d :: cs => do
    let n := 4096 * (← hexValue? a) + 256 * (← hexValue? b) + 16 * (← hexValue? c) + (← hexValue? d)
    let (ps, rest) ← pieces cs
    return (.unit n :: ps, rest)
  | some '\\' :: some c :: cs => do
    let e ← escaped? c
    let (ps, rest) ← pieces cs
    return (.char e :: ps, rest)
  | some c :: cs =>
    if c = '\\' ∨ c.toNat < 0x20 then none
    else do
      let (ps, rest) ← pieces cs
      return (.char c :: ps, rest)

/-- A string, after its opening quote. -/
def readString (cs : Source) : Option (Option String × Source) := do
  let (ps, rest) ← pieces cs
  return ((join ps).map String.ofList, rest)

def digits : Source → List Digit × Source
  | some c :: cs =>
    match Digit.ofChar? c with
    | some d => let (ds, rest) := digits cs; (d :: ds, rest)
    | none => ([], some c :: cs)
  | cs => ([], cs)

/-- The whole part: a zero that stands alone, or digits that start with another one. -/
def readWhole (cs : Source) : Option (Nat × Source) :=
  match cs with
  | some '0' :: rest => some (0, rest)
  | _ =>
    match digits cs with
    | ([], _) => none
    | (ds, rest) => some (Digit.toNat ds, rest)

def readFraction : Source → Option (List Digit × Source)
  | some '.' :: cs =>
    match digits cs with
    | ([], _) => none
    | (ds, rest) => some (ds, rest)
  | cs => some ([], cs)

/-- An exponent, after its mark. -/
def readExponent (cs : Source) : Option (Int × Source) :=
  let (negative, cs) : Bool × Source :=
    match cs with
    | some '-' :: cs => (true, cs)
    | some '+' :: cs => (false, cs)
    | cs => (false, cs)
  match digits cs with
  | ([], _) => none
  | (ds, rest) =>
    let n : Int := Digit.toNat ds
    some (if negative then -n else n, rest)

def readNumber (cs : Source) : Option (Literal × Source) := do
  let (negative, cs) : Bool × Source :=
    match cs with
    | some '-' :: cs => (true, cs)
    | cs => (false, cs)
  let (whole, cs) ← readWhole cs
  let (fraction, cs) ← readFraction cs
  match cs with
  | some 'e' :: cs | some 'E' :: cs =>
    let (e, cs) ← readExponent cs
    return (⟨negative, whole, fraction, some e⟩, cs)
  | cs => return (⟨negative, whole, fraction, none⟩, cs)

mutual

/-- A value at the front of the source. The first argument bounds the number of nested calls. -/
def readValue : Nat → Source → Option (Json × Source)
  | 0, _ => none
  | fuel + 1, cs =>
    match skipSpace cs with
    | some 'n' :: cs => (afterWord "ull".toList cs).map (.null, ·)
    | some 't' :: cs => (afterWord "rue".toList cs).map (.bool true, ·)
    | some 'f' :: cs => (afterWord "alse".toList cs).map (.bool false, ·)
    | some '"' :: cs => (readString cs).map fun r => (.string r.1, r.2)
    | some '[' :: cs =>
      match skipSpace cs with
      | some ']' :: cs => some (.array [], cs)
      | cs => readItems fuel [] cs
    | some '\x7b' :: cs =>
      match skipSpace cs with
      | some '\x7d' :: cs => some (.object [], cs)
      | cs => readMembers fuel [] cs
    | cs => (readNumber cs).map fun r => (.number r.1, r.2)

def readItems : Nat → List Json → Source → Option (Json × Source)
  | 0, _, _ => none
  | fuel + 1, done, cs =>
    match readValue fuel cs with
    | none => none
    | some (v, cs) =>
      match skipSpace cs with
      | some ',' :: cs => readItems fuel (v :: done) cs
      | some ']' :: cs => some (.array (v :: done).reverse, cs)
      | _ => none

def readMembers : Nat → List (Option String × Json) → Source → Option (Json × Source)
  | 0, _, _ => none
  | fuel + 1, done, cs =>
    match skipSpace cs with
    | some '"' :: cs =>
      match readString cs with
      | none => none
      | some (k, cs) =>
        match skipSpace cs with
        | some ':' :: cs =>
          match readValue fuel cs with
          | none => none
          | some (v, cs) =>
            match skipSpace cs with
            | some ',' :: cs => readMembers fuel ((k, v) :: done) cs
            | some '\x7d' :: cs => some (.object ((k, v) :: done).reverse, cs)
            | _ => none
        | _ => none
    | _ => none

end

def ofSource? (cs : Source) : Option Json :=
  match readValue (2 * cs.length + 2) cs with
  | some (v, rest) => if (skipSpace rest).isEmpty then some v else none
  | none => none

def ofString? (s : String) : Option Json := ofSource? (.ofString s)

def ofOctets? (bytes : Text.Octets) : Option Json := ofSource? (Text.characters bytes)

def bool? : Json → Option Bool
  | .bool b => some b
  | _ => none

def int? : Json → Option Int
  | .number n => n.toInt?
  | _ => none

def intIn? (low high : Int) (v : Json) : Option Int := do
  let i ← v.int?
  if low ≤ i ∧ i ≤ high then some i else none

def int64? : Json → Option Int := intIn? (-9223372036854775808) 9223372036854775807

def int32? : Json → Option Int := intIn? (-2147483648) 2147483647

def nat64? (v : Json) : Option Nat := (v.intIn? 0 18446744073709551615).map Int.toNat

def string? : Json → Option String
  | .string s => s
  | _ => none

def list? (f : Json → Option α) : Json → Option (List α)
  | .array items => items.mapM f
  | _ => none

def option? (f : Json → Option α) : Json → Option (Option α)
  | .null => some none
  | v => (f v).map some

/-- The name of a choice, by itself or as the only member of an object, with null. -/
def name? : Json → Option String
  | .string s => s
  | .object [(k, .null)] => k
  | _ => none

def choice? (named : List (String × α)) (v : Json) : Option α := do
  let s ← v.name?
  (named.find? fun n => n.1 = s).map (·.2)

def valuesOf (members : List (Option String × Json)) (name : String) : List Json :=
  members.filterMap fun m => if m.1 = some name then some m.2 else none

/-- A field occurs at most once. -/
def member? (members : List (Option String × Json)) (name : String) : Option (Option Json) :=
  match valuesOf members name with
  | [] => some none
  | [v] => some (some v)
  | _ => none

/-- The fields of a record, in the order of `names`; a missing one is `none`. Members with other
names are skipped, but every name has to be text. -/
def fields? (names : List String) : Json → Option (List (Option Json))
  | .array items =>
    if items.length ≤ names.length then
      some (items.map some ++ List.replicate (names.length - items.length) none)
    else none
  | .object members =>
    if members.all fun m => m.1.isSome then names.mapM (member? members) else none
  | _ => none

def required? (f : Json → Option α) : Option Json → Option α
  | none => none
  | some v => f v

def default? (d : α) (f : Json → Option α) : Option Json → Option α
  | none => some d
  | some v => f v

end MetricsView.Json
