import MetricsView.Text.CharClass

/-!
# Time

Instants are points of universal time to the nanosecond; a leap second is the last second of its
minute with a billion nanoseconds more. Dates are those of the proleptic Gregorian calendar, with
years that start in March inside the arithmetic so that the leap day comes last. Instants are read
by RFC 3339 with some freedom: blanks between the parts, a blank in place of the `T`, numbers
without leading zeros, signed years of any length, and `UTC` for the offset.
-/
namespace MetricsView

structure Date where
  year : Int
  month : Nat
  day : Nat
  deriving DecidableEq, Repr

namespace Date

def isLeap (year : Int) : Bool := year % 4 = 0 && (year % 100 ≠ 0 || year % 400 = 0)

def daysInMonth (year : Int) : Nat → Nat
  | 2 => if isLeap year then 29 else 28
  | 4 | 6 | 9 | 11 => 30
  | _ => 31

def IsValid (d : Date) : Prop :=
  1 ≤ d.month ∧ d.month ≤ 12 ∧ 1 ≤ d.day ∧ d.day ≤ daysInMonth d.year d.month

instance (d : Date) : Decidable d.IsValid := inferInstanceAs (Decidable (_ ∧ _))

def toDays (d : Date) : Int :=
  let shifted := if d.month ≤ 2 then d.year - 1 else d.year
  let cycle := shifted / 400
  let yearOfCycle := shifted % 400
  let month : Int := if d.month ≤ 2 then d.month + 9 else d.month - 3
  let dayOfYear := (153 * month + 2) / 5 + d.day - 1
  cycle * 146097 + yearOfCycle * 365 + yearOfCycle / 4 - yearOfCycle / 100 + dayOfYear - 719468

def ofDays (days : Int) : Date :=
  let n := days + 719468
  let cycle := n / 146097
  let day := n % 146097
  let yearOfCycle := (day - day / 1460 + day / 36524 - day / 146096) / 365
  let dayOfYear := day - (365 * yearOfCycle + yearOfCycle / 4 - yearOfCycle / 100)
  let month := (5 * dayOfYear + 2) / 153
  let year := cycle * 400 + yearOfCycle
  if month < 10 then ⟨year, (month + 3).toNat, (dayOfYear - (153 * month + 2) / 5 + 1).toNat⟩
  else ⟨year + 1, (month - 9).toNat, (dayOfYear - (153 * month + 2) / 5 + 1).toNat⟩

end Date

/-- Seconds since 1970-01-01T00:00:00Z and nanoseconds after that. -/
structure Instant where
  seconds : Int
  nanos : Nat
  deriving DecidableEq, Repr

namespace Instant

def epoch : Instant := ⟨0, 0⟩

/-- The first and the last second of the years that have a calendar date here. -/
def firstSecond : Int := -8334601228800
def lastSecond : Int := 8210266876799

def ofSeconds? (seconds : Int) (nanos : Nat) : Option Instant :=
  if firstSecond ≤ seconds ∧ seconds ≤ lastSecond then some ⟨seconds, nanos⟩ else none

def ofMillis? (millis : Int) : Option Instant :=
  ofSeconds? (millis / 1000) ((millis % 1000).toNat * 1000000)

def padded (width n : Nat) : List Char :=
  let digits := Nat.toDigits 10 n
  List.replicate (width - digits.length) '0' ++ digits

/-- Years of four digits stand bare; all others have a sign. -/
def yearText (year : Int) : List Char :=
  if 0 ≤ year ∧ year ≤ 9999 then padded 4 year.toNat
  else (if year < 0 then '-' else '+') :: padded 4 year.natAbs

/-- The fewest of three, six or nine digits that give the fraction exactly. -/
def fractionText (nanos : Nat) : List Char :=
  if nanos = 0 then []
  else if nanos % 1000000 = 0 then '.' :: padded 3 (nanos / 1000000)
  else if nanos % 1000 = 0 then '.' :: padded 6 (nanos / 1000)
  else '.' :: padded 9 nanos

def text (t : Instant) : String :=
  let date := Date.ofDays (t.seconds / 86400)
  let time := (t.seconds % 86400).toNat
  let (leap, nanos) := if 1000000000 ≤ t.nanos then (1, t.nanos - 1000000000) else (0, t.nanos)
  String.ofList <|
    yearText date.year ++ '-' :: padded 2 date.month ++ '-' :: padded 2 date.day
      ++ 'T' :: padded 2 (time / 3600) ++ ':' :: padded 2 (time / 60 % 60)
      ++ ':' :: padded 2 (time % 60 + leap) ++ fractionText nanos ++ ['Z']

open Text (skipBlanks)

def number? (width : Nat) (cs : List Char) : Option (Nat × List Char) :=
  let digits := (cs.take width).takeWhile Char.isDigit
  if digits.isEmpty then none
  else some (digits.foldl (fun n c => 10 * n + (c.toNat - 48)) 0, cs.drop digits.length)

/-- A number after blanks that lies between the bounds. -/
def field? (low high : Nat) (cs : List Char) : Option (Nat × List Char) := do
  let (n, cs) ← number? 2 (skipBlanks cs)
  if low ≤ n ∧ n ≤ high then some (n, cs) else none

def mark? (mark : Char) (cs : List Char) : Option (List Char) :=
  match skipBlanks cs with
  | c :: cs => if c = mark then some cs else none
  | [] => none

/-- An unsigned year has up to four digits. -/
def year? (cs : List Char) : Option (Int × List Char) :=
  match skipBlanks cs with
  | '-' :: cs => (number? cs.length cs).map fun r => (-(r.1 : Int), r.2)
  | '+' :: cs => (number? cs.length cs).map fun r => ((r.1 : Int), r.2)
  | cs => (number? 4 cs).map fun r => ((r.1 : Int), r.2)

def date? (cs : List Char) : Option (Date × List Char) := do
  let (year, cs) ← year? cs
  let (month, cs) ← field? 1 12 (← mark? '-' cs)
  let (day, cs) ← field? 1 31 (← mark? '-' cs)
  let date : Date := ⟨year, month, day⟩
  if date.IsValid then some (date, cs) else none

/-- Nanoseconds after a point; digits beyond the ninth are dropped. -/
def fraction? : List Char → Option (Nat × List Char)
  | '.' :: cs => do
    let (n, rest) ← number? 9 cs
    return (n * Nat.pow 10 (9 - (cs.length - rest.length)), rest.dropWhile Char.isDigit)
  | cs => some (0, cs)

/-- The second of the day and the nanoseconds. The sixtieth second of any minute is a leap
second. -/
def timeOfDay? (cs : List Char) : Option (Nat × Nat × List Char) := do
  let (hour, cs) ← field? 0 23 cs
  let (minute, cs) ← field? 0 59 (← mark? ':' cs)
  let (second, cs) ← field? 0 60 (← mark? ':' cs)
  let (nanos, cs) ← fraction? cs
  let start := 3600 * hour + 60 * minute
  return if second = 60 then (start + 59, nanos + 1000000000, cs) else (start + second, nanos, cs)

def pair? : List Char → Option (Nat × List Char)
  | a :: b :: cs =>
    if a.isDigit && b.isDigit then some (10 * (a.toNat - 48) + (b.toNat - 48), cs) else none
  | _ => none

def offset? (cs : List Char) : Option (Int × List Char) :=
  match cs with
  | 'Z' :: cs | 'z' :: cs => some (0, cs)
  | a :: b :: c :: rest =>
    if [a, b, c].map Char.toUpper = ['U', 'T', 'C'] then some (0, rest)
    else do
      let negative ← if a = '+' then some false else if a = '-' ∨ a = '−' then some true else none
      let (hours, cs) ← pair? (b :: c :: rest)
      let (minutes, cs) ← pair? (cs.dropWhile fun c => c = ':' || Text.isBlank c)
      if 60 ≤ minutes ∨ 24 ≤ hours then none
      else
        let seconds : Int := 3600 * hours + 60 * minutes
        return (if negative then -seconds else seconds, cs)
  | _ => none

def ofText? (s : String) : Option Instant := do
  let (date, cs) ← date? s.toList
  let cs ← match cs with
    | 'T' :: cs | 't' :: cs | ' ' :: cs => some cs
    | _ => none
  let (second, nanos, cs) ← timeOfDay? cs
  let (offset, cs) ← offset? (skipBlanks cs)
  let seconds := date.toDays * 86400 + second
  if (skipBlanks cs).isEmpty && (ofSeconds? seconds nanos).isSome then
    ofSeconds? (seconds - offset) nanos
  else none

end Instant
end MetricsView
