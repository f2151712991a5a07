import MetricsView.Decimal
import MetricsView.Text.Basic
import MetricsView.Time
import MetricsView.Toml.Basic

/-!
# TOML literals

Numbers, in which an underscore may stand between two digits or between the sign and a digit; dates
and times of day, alone or together, with or without an offset; and strings, which end at their
closing mark: one quote, or three for a string of several lines.
-/
namespace MetricsView.Toml

/-- Whether each underscore stands before a digit and after one, or at the front where
`mayBreak` allows it. -/
def isGrouped (isDigit : Char → Bool) (mayBreak : Bool) : List Char → Bool
  | [] => true
  | ['_'] => false
  | '_' :: c :: cs => mayBreak && isDigit c && isGrouped isDigit true cs
  | c :: cs => isGrouped isDigit (isDigit c) cs

def ungroup (cs : List Char) : List Char := cs.filter (· ≠ '_')

def isHexDigit (c : Char) : Bool := (Text.hexDigit? c).isSome

def spelled? (base : Nat) (cs : List Char) : Option Nat := do
  if cs.isEmpty then none
  let ds ← cs.mapM fun c => (Text.hexDigit? c).filter (· < base)
  return ds.foldl (fun n d => base * n + d) 0

def sign : List Char → Bool × List Char
  | '-' :: cs => (true, cs)
  | '+' :: cs => (false, cs)
  | cs => (false, cs)

/-- The digits at the front of the text, of which there has to be one, and what follows them. -/
def digits? (cs : List Char) : Option (List Digit × List Char) :=
  let ds := cs.takeWhile Char.isDigit
  if ds.isEmpty then none else some (ds.filterMap Digit.ofChar?, cs.dropWhile Char.isDigit)

def fraction? : List Char → Option (List Digit × List Char)
  | '.' :: cs => digits? cs
  | cs => some ([], cs)

def exponent? : List Char → Option (Option Int)
  | [] => some none
  | 'e' :: cs | 'E' :: cs => do
    let (negative, cs) := sign cs
    match ← digits? cs with
    | (ds, []) => return some (if negative then -Digit.toNat ds else Digit.toNat ds)
    | _ => none
  | _ => none

/-- A float without its sign. No digit comes between a zero in front and the point. -/
def float? (negative : Bool) (cs : List Char) : Option Value := do
  let (whole, rest) ← digits? (ungroup cs)
  if cs.head? = some '0' ∧ 1 < whole.length then none
  let (fraction, cs) ← fraction? rest
  let exponent ← exponent? cs
  return .float (some ⟨negative, Digit.toNat whole, fraction, exponent⟩)

/-- A decimal number without its sign. Digits with a point or an exponent behind them are a float.
Digits alone are an integer that starts with no idle zero. So is what has an underscore right
behind its first digits, but it may turn out to spell no number. -/
def decimal? (signed negative : Bool) (cs : List Char) : Option Value :=
  match cs, cs.dropWhile Char.isDigit with
  | [], _ | _, '-' :: _ | _, ':' :: _ => none
  | cs, rest =>
    if rest.any fun c => c = '.' || c = 'e' || c = 'E' then
      if isGrouped Char.isDigit signed cs then float? negative cs else none
    else if (rest.isEmpty || rest.head? = some '_') && (cs.length = 1 || cs.head? ≠ some '0')
        && isGrouped isHexDigit signed cs then
      let spelled := spelled? 10 (ungroup cs)
      some (.integer (spelled.map fun (n : Nat) => if negative then -(n : Int) else n))
    else none

/-- An integer without a sign, to the given base. It spells no number if it has no digits. -/
def based? (base : Nat) (cs : List Char) : Option Value :=
  let isDigit (c : Char) : Bool := ((Text.hexDigit? c).filter (· < base)).isSome
  if cs.all (fun c => isDigit c || c = '_') && isGrouped isDigit false cs then
    some (.integer ((spelled? base (ungroup cs)).map Int.ofNat))
  else none

def number? : List Char → Option Value
  | '0' :: 'x' :: cs => based? 16 cs
  | '0' :: 'o' :: cs => based? 8 cs
  | '0' :: 'b' :: cs => based? 2 cs
  | word =>
    let (negative, cs) := sign word
    if cs = "inf".toList ∨ cs = "nan".toList then some (.float none)
    else decimal? (cs.length < word.length) negative cs

def fixed? (width : Nat) (cs : List Char) : Option (Nat × List Char) := do
  let ds ← (cs.take width).mapM Digit.ofChar?
  if ds.length = width then some (Digit.toNat ds, cs.drop width) else none

def upTo? (last : Nat) (cs : List Char) : Option (Nat × List Char) :=
  (fixed? 2 cs).filter fun r => r.1 ≤ last

def after? (mark : Char) : List Char → Option (List Char)
  | c :: cs => if c = mark then some cs else none
  | [] => none

def afterDate? (cs : List Char) : Option (List Char) := do
  let (year, cs) ← fixed? 4 cs
  let (month, cs) ← fixed? 2 (← after? '-' cs)
  let (day, cs) ← fixed? 2 (← after? '-' cs)
  if (Date.mk year month day).IsValid then some cs else none

def afterFraction? : List Char → Option (List Char)
  | '.' :: cs =>
    let rest := cs.dropWhile Char.isDigit
    if rest.length < cs.length then some rest else none
  | cs => some cs

/-- What follows a time of day. The seconds may be left out. -/
def afterTime? (cs : List Char) : Option (List Char) := do
  let (_, cs) ← upTo? 23 cs
  let (_, cs) ← upTo? 59 (← after? ':' cs)
  match cs with
  | ':' :: cs =>
    let (_, cs) ← upTo? 60 cs
    afterFraction? cs
  | cs => return cs

def isOffset (cs : List Char) : Bool :=
  match cs with
  | ['Z'] | ['z'] => true
  | '+' :: cs | '-' :: cs =>
    let minutes := do upTo? 59 (← after? ':' (← upTo? 23 cs).2)
    minutes.any fun r => r.2.isEmpty
  | _ => false

def isDateTime (cs : List Char) : Bool :=
  match afterDate? cs with
  | none => afterTime? cs = some []
  | some [] => true
  | some (c :: cs) =>
    (c = 'T' || c = 't' || c = ' ') && (afterTime? cs).any fun rest => rest.isEmpty || isOffset rest

/-- The text up to a closing mark, and what follows the mark. -/
def untilMark (escapes : Bool) (mark : List Char) : List Char → Option (List Char × List Char)
  | [] => none
  | c :: cs =>
    if mark.isPrefixOf (c :: cs) then some ([], (c :: cs).drop mark.length)
    else if escapes && c = '\\' then
      match cs with
      | [] => none
      | d :: cs => (untilMark escapes mark cs).map fun r => (c :: d :: r.1, r.2)
    else (untilMark escapes mark cs).map fun r => (c :: r.1, r.2)

/-- Controls but the tabulator stand in no text. -/
def isTextChar (c : Char) : Bool := c = '\t' || (0x20 ≤ c.toNat && c.toNat ≠ 0x7f)

def isText (cs : List Char) : Bool := cs.all isTextChar

/-- Text of several lines, each ended by a line feed or by a carriage return with a line feed. -/
def isLines : List Char → Bool
  | [] => true
  | '\n' :: cs => isLines cs
  | '\r' :: '\n' :: cs => isLines cs
  | c :: cs => isTextChar c && isLines cs

def isSpace (c : Char) : Bool := c = ' ' || c = '\t'

def isLineEnd (c : Char) : Bool := c = '\n' || c = '\r'

def endsLine (cs : List Char) : Bool := (cs.dropWhile isSpace).head?.any isLineEnd

def escaped? (c : Char) : Option Char :=
  match c with
  | '"' | '\\' => some c
  | 'b' => some '\x08'
  | 't' => some '\t'
  | 'n' => some '\n'
  | 'f' => some '\x0c'
  | 'r' => some '\r'
  | 'e' => some '\x1b'
  | _ => none

def codePoint? (digits : List Char) : Option Char := do
  let ds ← digits.mapM Text.hexDigit?
  let n := ds.foldl (fun n d => 16 * n + d) 0
  if h : n.isValidChar then some (Char.ofNatAux n h) else none

/-- A text with its escapes replaced. A backslash at the end of a line takes away the line end and
all blank space after it. -/
def unescape : List Char → Option (List Char)
  | [] => some []
  | '\\' :: 'x' :: a :: b :: cs => do return (← codePoint? [a, b]) :: (← unescape cs)
  | '\\' :: 'u' :: a :: b :: c :: d :: cs => do
    return (← codePoint? [a, b, c, d]) :: (← unescape cs)
  | '\\' :: 'U' :: a :: b :: c :: d :: e :: f :: g :: h :: cs => do
    return (← codePoint? [a, b, c, d, e, f, g, h]) :: (← unescape cs)
  | '\\' :: cs =>
    if endsLine cs then unescape (cs.dropWhile fun c => isSpace c || isLineEnd c)
    else
      match cs with
      | c :: cs => do return (← escaped? c) :: (← unescape cs)
      | [] => none
  | c :: cs => (unescape cs).map (c :: ·)
termination_by cs => cs.length
decreasing_by
  all_goals simp only [List.length_cons]
  all_goals try omega
  have := (List.dropWhile_sublist (fun c => isSpace c || isLineEnd c) (l := cs)).length_le
  omega

def line? (escapes : Bool) (quote : Char) (cs : List Char) : Option (List Char × List Char) := do
  let (body, rest) ← untilMark escapes [quote] cs
  if !isText body then none
  return (← if escapes then unescape body else some body, rest)

/-- A line end right after the opening quotes is no content. -/
def afterOpening : List Char → List Char
  | '\n' :: cs => cs
  | '\r' :: '\n' :: cs => cs
  | cs => cs

/-- The content of a string of several lines. Up to two quotes may stand before the closing
three. -/
def lines? (escapes : Bool) (quote : Char) (cs : List Char) : Option (List Char × List Char) := do
  let (body, rest) ← untilMark escapes [quote, quote, quote] (afterOpening cs)
  let extra := (rest.take 2).takeWhile (· = quote)
  let body := body ++ extra
  if !isLines body then none
  return (← if escapes then unescape body else some body, rest.drop extra.length)

def lineString? : List Char → Option (String × List Char)
  | '"' :: cs => (line? true '"' cs).map fun r => (String.ofList r.1, r.2)
  | '\'' :: cs => (line? false '\'' cs).map fun r => (String.ofList r.1, r.2)
  | _ => none

def string? : List Char → Option (String × List Char)
  | '"' :: '"' :: '"' :: cs => (lines? true '"' cs).map fun r => (String.ofList r.1, r.2)
  | '\'' :: '\'' :: '\'' :: cs => (lines? false '\'' cs).map fun r => (String.ofList r.1, r.2)
  | cs => lineString? cs

end MetricsView.Toml
