/-!
# Decimals

A literal keeps what a decimal numeral shows: its sign, its digits on both sides of the point and
its exponent. A float is written with the fewest digits that round to it, and of several such
decimals with the one nearest to its exact value, positionally while its magnitude lies in the range
of the layout and with an exponent otherwise.
-/
namespace MetricsView

abbrev Digit := Fin 10

namespace Digit

def toChar (d : Digit) : Char := Nat.digitChar d.val

def ofChar? (c : Char) : Option Digit :=
  if h : c.toNat - 48 < 10 then if 48 ≤ c.toNat then some ⟨c.toNat - 48, h⟩ else none else none

/-- The decimal digits of a number, most significant first; `0` has one digit. -/
def ofNat (n : Nat) : List Digit := (Nat.toDigits 10 n).filterMap ofChar?

def toNat (ds : List Digit) : Nat := ds.foldl (fun n d => 10 * n + d.val) 0

end Digit

/-- A decimal numeral. An empty `fraction` is written without a point. -/
structure Literal where
  negative : Bool
  whole : Nat
  fraction : List Digit
  exponent : Option Int
  deriving DecidableEq

namespace Literal

def ofInt (i : Int) : Literal := ⟨i < 0, i.natAbs, [], none⟩

/-- The integer that the literal spells, if it has neither point nor exponent. A negated zero
spells no integer. -/
def toInt? (l : Literal) : Option Int :=
  if l.fraction.isEmpty && l.exponent.isNone then
    if l.negative then if l.whole = 0 then none else some (-l.whole) else some l.whole
  else none

inductive ExponentSign where
  | always | ifNegative
  deriving DecidableEq

def exponentText (sign : ExponentSign) (e : Int) : List Char :=
  let mark := if e < 0 then ['-'] else if sign = .always then ['+'] else []
  'e' :: mark ++ Nat.toDigits 10 e.natAbs

def text (sign : ExponentSign) (l : Literal) : List Char :=
  (if l.negative then ['-'] else []) ++ Nat.toDigits 10 l.whole
    ++ (if l.fraction.isEmpty then [] else '.' :: l.fraction.map Digit.toChar)
    ++ (match l.exponent with | none => [] | some e => exponentText sign e)

/-- Appends digits to `n` for as long as the result fits 64 bits; the rest is returned. -/
def absorb (n : Nat) : List Digit → Nat × List Digit
  | [] => (n, [])
  | d :: ds =>
    if 10 * n + d.val < 18446744073709551616 then absorb (10 * n + d.val) ds else (n, d :: ds)

/-- The float nearest to the literal's value. -/
def nearest (l : Literal) : Float :=
  let digits := Digit.toNat (Digit.ofNat l.whole ++ l.fraction)
  let e := l.exponent.getD 0 - l.fraction.length
  let x := Float.ofScientific digits (e < 0) e.natAbs
  if l.negative then -x else x

def powerOfTen (k : Nat) : Float := nearest ⟨false, 1, [], some k⟩

/-- `x · 10^e`, in one rounding step per power of ten; `none` when the result is not finite. -/
def scale (x : Float) (e : Int) : Option Float :=
  if x == 0 then some x
  else if 308 < e then none
  else if 0 ≤ e then
    let y := x * powerOfTen e.toNat
    if y.isInf then none else some y
  else if -308 ≤ e then some (x / powerOfTen e.natAbs)
  else scale (x / powerOfTen 308) (e + 308)
termination_by (-e).toNat
decreasing_by omega

/-- The float a literal stands for where the nearest one is not asked for: the leading digits that
fit 64 bits are rounded once and then scaled. Exact whenever the digits fit 53 bits and the scale
is at most `10^22`; `none` when the result is not finite. -/
def approximate (l : Literal) : Option Float :=
  let (n, long) := absorb 0 (Digit.ofNat l.whole)
  let (n, rest) := absorb n l.fraction
  let e := l.exponent.getD 0 + long.length - (l.fraction.length - rest.length : Nat)
  (scale (Float.ofNat n) e).map fun x => if l.negative then -x else x

/-- The values that round to an infinite float start in the middle between the largest finite float
and the next power of two. -/
def firstInfinite : Nat := Nat.pow 2 1024 - Nat.pow 2 970

def overflows (l : Literal) : Bool :=
  let digits := Digit.ofNat l.whole ++ l.fraction
  let n := Digit.toNat digits
  let e := l.exponent.getD 0 - l.fraction.length
  if 0 ≤ e then n ≠ 0 && (400 < e || firstInfinite ≤ n * Nat.pow 10 e.toNat)
  else e.natAbs ≤ digits.length && firstInfinite * Nat.pow 10 e.natAbs ≤ n

end Literal

/-- A positive finite float, exactly: `mantissa · 2^scale`. The gap to the next smaller float is
half the gap to the next larger one when `narrow` is set. -/
structure Binary where
  mantissa : Nat
  scale : Int
  narrow : Bool
  deriving DecidableEq

/-- `coefficient · 10^scale`. -/
structure Decimal where
  coefficient : Nat
  scale : Int
  deriving DecidableEq

/-- Which of two equally near decimals is taken. -/
inductive Tie where
  | even | up
  deriving DecidableEq

namespace Binary

/-- The number of fractions of 52 bits. -/
def fractions : Nat := 4503599627370496

def ofFloat (x : Float) : Binary :=
  let bits : Nat := x.toBits.toNat
  let fraction := bits % fractions
  let biased : Nat := bits / fractions % 2048
  if biased = 0 then ⟨fraction, -1074, false⟩
  else ⟨fractions + fraction, (biased : Int) - 1075, fraction = 0 && 1 < biased⟩

/-- `base^e`, or 1 for a negative exponent. -/
def power (base : Nat) (e : Int) : Nat := Nat.pow base e.toNat

/-- Compares `n` quarters of the unit `2^scale` with `d`. -/
def compareQuarters (x : Binary) (n : Nat) (d : Decimal) : Ordering :=
  let p := x.scale - 2
  compare (n * power 2 p * power 10 (-d.scale)) (d.coefficient * power 10 d.scale * power 2 (-p))

/-- Whether `d` rounds to `x`: it lies between the midpoints to the neighbouring floats, or on
one of them if the mantissa is even. -/
def roundsFrom (x : Binary) (d : Decimal) : Bool :=
  let low := x.compareQuarters (4 * x.mantissa - if x.narrow then 1 else 2) d
  let high := x.compareQuarters (4 * x.mantissa + 2) d
  let ends := x.mantissa % 2 = 0
  (low = .lt || (ends && low = .eq)) && (high = .gt || (ends && high = .eq))

/-- The largest multiple of `10^scale` that does not exceed `x`, as its coefficient. -/
def floorAt (x : Binary) (scale : Int) : Nat :=
  (x.mantissa * power 2 x.scale * power 10 (-scale)) / (power 2 (-x.scale) * power 10 scale)

/-- The number of digits before the point, or minus the number of zeros directly after it. -/
def magnitude (x : Binary) : Int :=
  let whole := x.floorAt 0
  if whole = 0 then
    match (List.range 400).find? fun zeros => 0 < x.floorAt (-(zeros + 1 : Nat)) with
    | some zeros => -zeros
    | none => -400
  else (Nat.toDigits 10 whole).length

/-- Whether `x` lies nearer to the lower of two neighbouring decimals at `scale`. -/
def prefersLower (x : Binary) (tie : Tie) (scale : Int) (lower : Nat) : Bool :=
  match x.compareQuarters (8 * x.mantissa) ⟨2 * lower + 1, scale⟩ with
  | .lt => true
  | .gt => false
  | .eq => tie = .even && lower % 2 = 0

/-- The decimal at `scale` that rounds to `x` and lies nearest to it. -/
def roundingAt? (x : Binary) (tie : Tie) (scale : Int) : Option Decimal :=
  let lower := x.floorAt scale
  let below : Decimal := ⟨lower, scale⟩
  let above : Decimal := ⟨lower + 1, scale⟩
  match x.roundsFrom below && 0 < lower, x.roundsFrom above with
  | true, true => some (if x.prefersLower tie scale lower then below else above)
  | true, false => some below
  | false, true => some above
  | false, false => none

def exact (x : Binary) : Decimal :=
  ⟨x.mantissa * power 2 x.scale * power 5 (-x.scale), min x.scale 0⟩

def shortest (x : Binary) (tie : Tie) : Decimal :=
  let top := x.magnitude
  let found := (List.range 17).findSome? fun n => x.roundingAt? tie (top - (n + 1 : Nat))
  found.getD x.exact

end Binary

/-- The decisions of a float format. A finite number is written positionally when the exponent of
its leading digit is at least `plainFrom` and below `plainBelow`. -/
structure Layout where
  plainFrom : Int
  plainBelow : Int
  exponentSign : Literal.ExponentSign
  tie : Tie

namespace Decimal

/-- The digits without trailing zeros, and the exponent of the leading one. -/
def significant (d : Decimal) : List Digit × Int :=
  let digits := Digit.ofNat d.coefficient
  ((digits.reverse.dropWhile (·.val = 0)).reverse, digits.length + d.scale - 1)

end Decimal

namespace Layout

/-- Positional notation has at least one digit after the point. -/
def positional (negative : Bool) (digits : List Digit) (leading : Int) : Literal :=
  if leading < 0 then ⟨negative, 0, List.replicate (-leading - 1).toNat 0 ++ digits, none⟩
  else
    let places := leading.toNat + 1
    let whole := digits.take places ++ List.replicate (places - digits.length) 0
    let fraction := digits.drop places
    ⟨negative, Digit.toNat whole, if fraction.isEmpty then [0] else fraction, none⟩

/-- Scientific notation has one digit before the point, and no point when nothing follows it. -/
def scientific (negative : Bool) (digits : List Digit) (leading : Int) : Literal :=
  ⟨negative, Digit.toNat (digits.take 1), digits.drop 1, some leading⟩

def literal (layout : Layout) (x : Float) : Literal :=
  let negative := x.toBits.toNat / 9223372036854775808 = 1
  if x == 0 then ⟨negative, 0, [0], none⟩
  else
    let (digits, leading) := ((Binary.ofFloat x).shortest layout.tie).significant
    if layout.plainFrom ≤ leading ∧ leading < layout.plainBelow then
      positional negative digits leading
    else scientific negative digits leading

def text (layout : Layout) (x : Float) : List Char :=
  (layout.literal x).text layout.exponentSign

end Layout
end MetricsView
