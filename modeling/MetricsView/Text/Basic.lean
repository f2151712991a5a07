/-!
# Texts

A text cut at a mark, octets as pairs of hexadecimal digits, and characters as octets in UTF-8. When
octets are read as characters, one that belongs to no well-formed sequence stands in the result as
`none`, so that a reader can tell where the damage is.
-/
namespace MetricsView.Text

def parts (mark : Char) : List Char → List (List Char)
  | [] => [[]]
  | c :: cs =>
    match parts mark cs with
    | [] => [[c]]
    | part :: more => if c = mark then [] :: part :: more else (c :: part) :: more

/-- What stands before the first mark, and what follows that mark. -/
def halves (mark : Char) (cs : List Char) : List Char × List Char :=
  (cs.takeWhile (· ≠ mark), (cs.dropWhile (· ≠ mark)).drop 1)

abbrev Octets := List UInt8

def hexDigit? (c : Char) : Option Nat :=
  if '0' ≤ c ∧ c ≤ '9' then some (c.toNat - '0'.toNat)
  else if 'a' ≤ c ∧ c ≤ 'f' then some (c.toNat - 'a'.toNat + 10)
  else if 'A' ≤ c ∧ c ≤ 'F' then some (c.toNat - 'A'.toNat + 10)
  else none

def hexOctet (b : UInt8) : List Char :=
  [Nat.digitChar (b.toNat / 16), Nat.digitChar (b.toNat % 16)]

def hex (bytes : Octets) : String := String.ofList (bytes.flatMap hexOctet)

def ofHex? : List Char → Option Octets
  | [] => some []
  | a :: b :: rest => do
    let high ← hexDigit? a
    let low ← hexDigit? b
    return UInt8.ofNat (16 * high + low) :: (← ofHex? rest)
  | [_] => none

def utf8 (cs : List Char) : Octets := cs.flatMap fun c => String.utf8EncodeChar c

def isContinuation (b : UInt8) : Bool := b &&& 0xc0 == 0x80

/-- The six low bits of each continuation octet, appended to `n`. -/
def continued (n : Nat) (bs : Octets) : Nat :=
  bs.foldl (fun n b => 64 * n + (b.toNat &&& 0x3f)) n

/-- The character encoded by a lead octet and its continuation octets. Overlong forms, surrogates
and values beyond the last code point encode none. -/
def charOf? (lead : UInt8) (tail : Octets) : Option Char :=
  if !tail.all isContinuation then none
  else
    let (bits, least) := match tail.length with
      | 1 => (0x20, 0x80)
      | 2 => (0x10, 0x800)
      | _ => (0x08, 0x10000)
    let n := continued (lead.toNat % bits) tail
    if h : least ≤ n ∧ n.isValidChar then some (Char.ofNatAux n h.2) else none

/-- The number of continuation octets that a lead octet announces; `none` for an octet that leads
no sequence. -/
def continuations? (b : UInt8) : Option Nat :=
  if b < 0x80 then some 0
  else if 0xc0 ≤ b && b < 0xe0 then some 1
  else if 0xe0 ≤ b && b < 0xf0 then some 2
  else if 0xf0 ≤ b && b < 0xf8 then some 3
  else none

def characters : Octets → List (Option Char)
  | [] => []
  | b :: rest =>
    match continuations? b with
    | some 0 => some (Char.ofNat b.toNat) :: characters rest
    | some 1 =>
      match rest with
      | x :: more =>
        match charOf? b [x] with
        | some c => some c :: characters more
        | none => none :: characters (x :: more)
      | [] => [none]
    | some 2 =>
      match rest with
      | x :: y :: more =>
        match charOf? b [x, y] with
        | some c => some c :: characters more
        | none => none :: characters (x :: y :: more)
      | short => none :: characters short
    | some _ =>
      match rest with
      | x :: y :: z :: more =>
        match charOf? b [x, y, z] with
        | some c => some c :: characters more
        | none => none :: characters (x :: y :: z :: more)
      | short => none :: characters short
    | none => none :: characters rest
termination_by bs => bs.length

/-- The text that the octets encode, if they are well formed throughout. -/
def ofUtf8? (bytes : Octets) : Option String := (characters bytes).mapM id |>.map String.ofList

end MetricsView.Text
