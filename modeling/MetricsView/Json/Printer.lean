import MetricsView.Decimal

/-!
# JSON values and their text

A value keeps all that its text says: the members of an object in their order with repetitions, and
each number as the literal that was written. It is written without any blanks, or with a line for
each item, indented by two spaces for each level.
-/
namespace MetricsView

/-- A string is `none` when it holds a code unit that is no character, such as half a surrogate
pair. Such a string may be skipped but not used. -/
inductive Json where
  | null
  | bool (b : Bool)
  | number (n : Literal)
  | string (s : Option String)
  | array (items : List Json)
  | object (members : List (Option String × Json))

namespace Json

/-- Floats are written positionally from `0.00001` to below `10^16`, and with a signed exponent
elsewhere. -/
def floatLayout : Layout where
  plainFrom := -5
  plainBelow := 16
  exponentSign := .always
  tie := .even

/-- A float as a number. JSON has no numeral for infinities and for what is not a number. -/
def float (x : Float) : Json :=
  if x.isFinite then .number (floatLayout.literal x) else .null

def int (i : Int) : Json := .number (.ofInt i)

def text (s : String) : Json := .string (some s)

def option (f : α → Json) : Option α → Json
  | none => .null
  | some a => f a

def list (f : α → Json) (as : List α) : Json := .array (as.map f)

def record (members : List (String × Json)) : Json :=
  .object (members.map fun m => (some m.1, m.2))

/-- Controls are escaped, by a letter where there is one; so are the quote and the backslash. -/
def escapeChar (c : Char) : List Char :=
  if c = '"' ∨ c = '\\' then ['\\', c]
  else if c = '\x08' then ['\\', 'b']
  else if c = '\t' then ['\\', 't']
  else if c = '\n' then ['\\', 'n']
  else if c = '\x0c' then ['\\', 'f']
  else if c = '\r' then ['\\', 'r']
  else if c.toNat < 0x20 then
    ['\\', 'u', '0', '0', Nat.digitChar (c.toNat / 16), Nat.digitChar (c.toNat % 16)]
  else [c]

/-- A string that is no text is written as an unpaired surrogate. -/
def quote : Option String → List Char
  | some s => '"' :: s.toList.flatMap escapeChar ++ ['"']
  | none => "\"\\ud800\"".toList

def atom : Json → List Char
  | .null => "null".toList
  | .bool true => "true".toList
  | .bool false => "false".toList
  | .number n => n.text .always
  | .string s => quote s
  | .array _ | .object _ => []

structure Spacing where
  /-- Stands before what comes on a line of its own, at a depth. -/
  line : Nat → List Char
  colon : List Char

def Spacing.none : Spacing := ⟨fun _ => [], []⟩

def Spacing.lines : Spacing := ⟨fun depth => '\n' :: List.replicate (2 * depth) ' ', [' ']⟩

mutual

def spell (g : Spacing) (depth : Nat) : Json → List Char
  | .array [] => ['[', ']']
  | .array (v :: vs) =>
    '[' :: g.line (depth + 1) ++ spell g (depth + 1) v ++ spellItems g depth vs
  | .object [] => ['\x7b', '\x7d']
  | .object ((k, v) :: ms) =>
    '\x7b' :: g.line (depth + 1) ++ quote k ++ ':' :: g.colon ++ spell g (depth + 1) v
      ++ spellMembers g depth ms
  | v => atom v

/-- What follows the first item of an array. -/
def spellItems (g : Spacing) (depth : Nat) : List Json → List Char
  | [] => g.line depth ++ [']']
  | v :: vs => ',' :: g.line (depth + 1) ++ spell g (depth + 1) v ++ spellItems g depth vs

def spellMembers (g : Spacing) (depth : Nat) : List (Option String × Json) → List Char
  | [] => g.line depth ++ ['\x7d']
  | (k, v) :: ms =>
    ',' :: g.line (depth + 1) ++ quote k ++ ':' :: g.colon ++ spell g (depth + 1) v
      ++ spellMembers g depth ms

end

def compact (v : Json) : List Char := v.spell .none 0

def render (v : Json) : String := String.ofList v.compact

def renderLines (v : Json) : String := String.ofList (v.spell .lines 0)

end Json
end MetricsView
