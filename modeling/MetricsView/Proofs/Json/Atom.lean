import Mathlib.Data.List.Basic
import Mathlib.Data.Nat.Init
import MetricsView.Json.Printer
import MetricsView.Json.Reader
import MetricsView.Proofs.Text

/-! # Reading strings and numerals

Each character of a string is written as one piece, which the reader takes back for it. A literal is
written with its sign, its digits and its exponent as they are, and these are what the reader
takes. -/
namespace MetricsView.Json

/-- The characters as a source without damage. -/
def source (cs : List Char) : Source := cs.map some

@[simp] theorem source_nil : source [] = [] := rfl

@[simp] theorem source_cons (c : Char) (cs : List Char) : source (c :: cs) = some c :: source cs :=
  rfl

@[simp] theorem source_append (cs ds : List Char) : source (cs ++ ds) = source cs ++ source ds :=
  List.map_append

@[simp] theorem length_source (cs : List Char) : (source cs).length = cs.length :=
  List.length_map some

/-- A piece that stands for a character by itself. -/
inductive Piece.Spells : Piece → Char → Prop where
  | char (c : Char) : Spells (.char c) c
  | unit (c : Char) : Spells (.unit c.toNat) c

theorem Piece.Spells.join_cons {p : Piece} {c : Char} (h : p.Spells c) (ps : List Piece) :
    join (p :: ps) = (join ps).map (c :: ·) := by
  cases h with
  | char => rfl
  | unit =>
    have hvalid : c.toNat.isValidChar := c.valid
    -- The definition computes once it is known what follows the unit.
    rcases ps with _ | ⟨_ | _ | _, ps⟩ <;> exact dif_pos hvalid

/-- The reader takes this text for the piece, whatever follows. -/
def Piece.WrittenAs (p : Piece) (cs : List Char) : Prop :=
  ∀ rest, pieces (source cs ++ rest) = (pieces rest).map fun r => (p :: r.1, r.2)

private theorem writtenAs_plain {c : Char} (hquote : c ≠ '"') (hslash : c ≠ '\\')
    (h : ¬ c.toNat < 0x20) : (Piece.char c).WrittenAs [c] := by
  intro rest
  have hplain : ¬ (c = '\\' ∨ c.toNat < 0x20) := by
    rintro (hc | hc)
    · exact hslash hc
    · exact h hc
  rw [source_cons, source_nil, List.singleton_append, pieces, if_neg hplain]
  · cases pieces rest <;> rfl
  · exact hquote
  · exact fun _ _ _ _ _ _ => hslash
  · exact fun _ _ _ => hslash

theorem writtenAs_letter {letter c : Char} (h : escaped? letter = some c) (hu : letter ≠ 'u') :
    (Piece.char c).WrittenAs ['\\', letter] := by
  intro rest
  simp only [source_cons, source_nil, List.cons_append, List.nil_append]
  rw [pieces]
  · simp only [h]
    cases pieces rest <;> rfl
  · exact fun _ _ _ _ _ _ => hu

private theorem writtenAs_control {c : Char} (h : c.toNat < 0x20) : (Piece.unit c.toNat).WrittenAs
    ['\\', 'u', '0', '0', Nat.digitChar (c.toNat / 16), Nat.digitChar (c.toNat % 16)] := by
  intro rest
  have hhigh := Text.hexDigit?_digitChar (c.toNat / 16) (by omega)
  have hlow := Text.hexDigit?_digitChar (c.toNat % 16) (by omega)
  have hzero : Text.hexDigit? '0' = some 0 := by decide
  have hvalue : 16 * (c.toNat / 16) + c.toNat % 16 = c.toNat := by omega
  simp only [source_cons, source_nil, List.cons_append, List.nil_append, pieces, hexValue?, hhigh,
    hlow, hzero, Option.bind_eq_bind, Option.bind_some, Nat.mul_zero, Nat.zero_add, hvalue]
  cases pieces rest <;> rfl

/-- Every character is written so that one piece is read for it. -/
theorem exists_writtenAs_escapeChar (c : Char) :
    ∃ p : Piece, p.Spells c ∧ p.WrittenAs (escapeChar c) := by
  unfold escapeChar
  split
  · next h =>
    refine ⟨.char c, .char c, ?_⟩
    rcases h with rfl | rfl
    · exact writtenAs_letter rfl (by decide)
    · exact writtenAs_letter rfl (by decide)
  next h =>
  split
  · next h => exact ⟨.char c, .char c, writtenAs_letter (h ▸ rfl) (by decide)⟩
  split
  · next h => exact ⟨.char c, .char c, writtenAs_letter (h ▸ rfl) (by decide)⟩
  split
  · next h => exact ⟨.char c, .char c, writtenAs_letter (h ▸ rfl) (by decide)⟩
  split
  · next h => exact ⟨.char c, .char c, writtenAs_letter (h ▸ rfl) (by decide)⟩
  split
  · next h => exact ⟨.char c, .char c, writtenAs_letter (h ▸ rfl) (by decide)⟩
  split
  · next h => exact ⟨.unit c.toNat, .unit c, writtenAs_control h⟩
  · next hcontrol =>
    exact ⟨.char c, .char c, writtenAs_plain (mt .inl h) (mt .inr h) hcontrol⟩

private theorem pieces_escaped (cs : List Char) : ∃ ps, join ps = some cs ∧
    ∀ rest, pieces (source (cs.flatMap escapeChar) ++ some '"' :: rest) = some (ps, rest) := by
  induction cs with
  | nil =>
    refine ⟨[], rfl, fun rest => ?_⟩
    rw [List.flatMap_nil, source_nil, List.nil_append, pieces]
  | cons c cs ih =>
    obtain ⟨p, hspells, hwritten⟩ := exists_writtenAs_escapeChar c
    obtain ⟨ps, hjoin, hpieces⟩ := ih
    refine ⟨p :: ps, ?_, fun rest => ?_⟩
    · rw [hspells.join_cons, hjoin, Option.map_some]
    · rw [List.flatMap_cons, source_append, List.append_assoc, hwritten, hpieces, Option.map_some]

/-- What a string is written as, without the opening quote. -/
def afterQuote (s : Option String) : List Char := (quote s).tail

theorem quote_eq (s : Option String) : quote s = '"' :: afterQuote s := by
  cases s <;> rfl

private theorem source_afterQuote (s : String) (rest : Source) :
    source (afterQuote (some s)) ++ rest =
    source (s.toList.flatMap escapeChar) ++ some '"' :: rest := by
  have htext : afterQuote (some s) = s.toList.flatMap escapeChar ++ ['"'] := rfl
  rw [htext, source_append, List.append_assoc]
  rfl

private theorem readString_surrogate (rest : Source) :
    readString (some '\\' :: some 'u' :: some 'd' :: some '8' :: some '0' :: some '0' :: some '"'
      :: rest) = some (none, rest) := by
  have hd : hexValue? (some 'd') = some 13 := by decide
  have h8 : hexValue? (some '8') = some 8 := by decide
  have h0 : hexValue? (some '0') = some 0 := by decide
  have hinvalid : ¬ Nat.isValidChar 0xd800 := by decide
  have hjoin : join [.unit 0xd800] = none := dif_neg hinvalid
  simp [readString, pieces, hd, h8, h0, hjoin]

/-- Every string is read back, the one that holds no text included. -/
theorem readString_afterQuote (s : Option String) (rest : Source) :
    readString (source (afterQuote s) ++ rest) = some (s, rest) := by
  cases s with
  | none => exact readString_surrogate rest
  | some s =>
    obtain ⟨ps, hjoin, hpieces⟩ := pieces_escaped s.toList
    rw [source_afterQuote, readString, hpieces]
    change some ((join ps).map String.ofList, rest) = _
    rw [hjoin, Option.map_some, String.ofList_toList]

end MetricsView.Json

namespace MetricsView

namespace Digit

@[simp] theorem ofChar?_toChar : ∀ d : Digit, ofChar? d.toChar = some d := by decide

private theorem toChar_ne_zero : ∀ d : Digit, d ≠ 0 → d.toChar ≠ '0' := by decide

private theorem toChar_ne_minus : ∀ d : Digit, d.toChar ≠ '-' := by decide

private theorem toNat_concat (ds : List Digit) (d : Digit) :
    toNat (ds ++ [d]) = 10 * toNat ds + d.val := by
  rw [toNat, List.foldl_append]
  rfl

/-- The decimal digits of a number, without a leading zero unless it is the only one. -/
theorem exists_toDigits (n : Nat) : ∃ d ds, Nat.toDigits 10 n = (d :: ds).map toChar ∧
    toNat (d :: ds) = n ∧ (d = 0 → ds = []) := by
  induction n using Nat.strongRecOn with
  | ind n ih =>
    rw [Nat.toDigits_eq_if (by decide)]
    split
    · next h =>
      refine ⟨⟨n, h⟩, [], rfl, ?_, fun _ => rfl⟩
      simp [toNat]
    · next h =>
      obtain ⟨d, ds, htext, hvalue, hzero⟩ := ih (n / 10) (by omega)
      have hlast : n % 10 < 10 := Nat.mod_lt _ (by decide)
      refine ⟨d, ds ++ [⟨n % 10, hlast⟩], ?_, ?_, ?_⟩
      · rw [htext, ← List.cons_append, List.map_append]
        rfl
      · rw [← List.cons_append, toNat_concat, hvalue]
        exact Nat.div_add_mod n 10
      · -- A leading zero would be the only digit of `n / 10`, which is not zero.
        rintro rfl
        rw [hzero rfl] at hvalue
        have hsmall : n / 10 = 0 := hvalue.symm
        omega

end Digit

namespace Json

/-- The source does not go on with a digit. -/
def EndsDigits : Source → Prop
  | some c :: _ => Digit.ofChar? c = none
  | _ => True

section
-- A digit is told by its code, and unfolding that test for an unknown character is endless.
attribute [local irreducible] Digit.ofChar?

theorem digits_cons (c : Char) (cs : Source) : digits (some c :: cs) =
    match Digit.ofChar? c with
    | some d => (d :: (digits cs).1, (digits cs).2)
    | none => ([], some c :: cs) := rfl

end

private theorem digits_of_endsDigits {rest : Source} (h : EndsDigits rest) :
    digits rest = ([], rest) := by
  match rest with
  | [] | none :: _ => rfl
  | some c :: rest =>
    rw [EndsDigits] at h
    rw [digits_cons, h]

theorem digits_source (ds : List Digit) {rest : Source} (h : EndsDigits rest) :
    digits (source (ds.map Digit.toChar) ++ rest) = (ds, rest) := by
  induction ds with
  | nil => exact digits_of_endsDigits h
  | cons d ds ih =>
    rw [List.map_cons, source_cons, List.cons_append, digits_cons, Digit.ofChar?_toChar, ih]

private theorem readWhole_source (n : Nat) {rest : Source} (h : EndsDigits rest) :
    readWhole (source (Nat.toDigits 10 n) ++ rest) = some (n, rest) := by
  obtain ⟨d, ds, htext, hvalue, hzero⟩ := Digit.exists_toDigits n
  have hdigits := digits_source (d :: ds) h
  rw [htext]
  by_cases hd : d = 0
  · obtain rfl := hd
    rw [hzero rfl] at hvalue ⊢
    rw [← hvalue]
    rfl
  · unfold readWhole
    split
    · next heq => exact absurd (Option.some.inj (List.cons.inj heq).1) (Digit.toChar_ne_zero d hd)
    · rw [hdigits]
      simp only [hvalue]

/-- What may follow a numeral. -/
def EndsNumber : Source → Prop
  | some c :: _ => Digit.ofChar? c = none ∧ c ≠ '.' ∧ c ≠ 'e' ∧ c ≠ 'E'
  | _ => True

theorem EndsNumber.endsDigits {rest : Source} (h : EndsNumber rest) : EndsDigits rest := by
  match rest with
  | [] | none :: _ => trivial
  | some c :: rest => exact h.1

/-- The point and the digits after it, as they are written. -/
def fractionText (ds : List Digit) : List Char :=
  if ds.isEmpty then [] else '.' :: ds.map Digit.toChar

private theorem readFraction_source (ds : List Digit) {rest : Source} (h : EndsDigits rest)
    (hpoint : ∀ cs, rest ≠ some '.' :: cs) :
    readFraction (source (fractionText ds) ++ rest) = some (ds, rest) := by
  cases ds with
  | nil =>
    change readFraction rest = _
    unfold readFraction
    split
    · next cs => exact absurd rfl (hpoint cs)
    · rfl
  | cons d ds =>
    change readFraction (some '.' :: (source ((d :: ds).map Digit.toChar) ++ rest)) = _
    rw [readFraction, digits_source _ h]

private theorem readExponent_source (e : Int) {rest : Source} (h : EndsDigits rest) :
    readExponent (source ((if e < 0 then ['-'] else ['+']) ++ Nat.toDigits 10 e.natAbs) ++ rest) =
      some (e, rest) := by
  obtain ⟨d, ds, htext, hvalue, -⟩ := Digit.exists_toDigits e.natAbs
  have hdigits := digits_source (d :: ds) h
  rw [htext]
  split
  · next hneg =>
    have he : -(e.natAbs : Int) = e := by omega
    simp only [List.cons_append, List.nil_append, source_cons, readExponent, hdigits, hvalue, he]
    rfl
  · next hpos =>
    have he : (e.natAbs : Int) = e := by omega
    simp only [List.cons_append, List.nil_append, source_cons, readExponent, hdigits, hvalue, he]
    rfl

/-- The mark of an exponent with its sign and its digits, as they are written. -/
def exponentText : Option Int → List Char
  | none => []
  | some e => Literal.exponentText .always e

theorem text_eq (l : Literal) : l.text .always =
    (if l.negative then ['-'] else []) ++ Nat.toDigits 10 l.whole ++ fractionText l.fraction
      ++ exponentText l.exponent := by
  rw [Literal.text, fractionText]
  cases l.exponent <;> rfl

/-- The exponent, if there is one, and the literal that it completes. -/
def complete (negative : Bool) (whole : Nat) (fraction : List Digit) :
    Source → Option (Literal × Source)
  | some 'e' :: cs | some 'E' :: cs => do
    let (e, cs) ← readExponent cs
    return (⟨negative, whole, fraction, some e⟩, cs)
  | cs => return (⟨negative, whole, fraction, none⟩, cs)

/-- A number after its sign. -/
def readUnsigned (negative : Bool) (cs : Source) : Option (Literal × Source) := do
  let (whole, cs) ← readWhole cs
  let (fraction, cs) ← readFraction cs
  complete negative whole fraction cs

private theorem readNumber_of_ne_minus {cs : Source} (h : ∀ ds, cs ≠ some '-' :: ds) :
    readNumber cs = readUnsigned false cs := by
  unfold readNumber
  split
  next negative ds heq =>
    split at heq
    · next ds => exact absurd rfl (h ds)
    · cases heq
      rfl

private theorem endsDigits_fraction {ds : List Digit} {rest : Source} (h : EndsDigits rest) :
    EndsDigits (source (fractionText ds) ++ rest) := by
  cases ds with
  | nil => exact h
  | cons d ds => exact (by decide : Digit.ofChar? '.' = none)

theorem readUnsigned_source (negative : Bool) (whole : Nat) (fraction : List Digit)
    {after : Source} (hdigits : EndsDigits after) (hpoint : ∀ cs, after ≠ some '.' :: cs) :
    readUnsigned negative (source (Nat.toDigits 10 whole ++ fractionText fraction) ++ after) =
      complete negative whole fraction after := by
  rw [readUnsigned, source_append, List.append_assoc,
    readWhole_source whole (endsDigits_fraction hdigits), Option.bind_eq_bind, Option.bind_some]
  simp only [readFraction_source fraction hdigits hpoint, Option.bind_eq_bind, Option.bind_some]

private theorem complete_of_endsNumber (negative : Bool) (whole : Nat) (fraction : List Digit)
    {rest : Source} (h : EndsNumber rest) :
    complete negative whole fraction rest = some (⟨negative, whole, fraction, none⟩, rest) := by
  unfold complete
  split
  · exact absurd rfl h.2.2.1
  · exact absurd rfl h.2.2.2
  · rfl

private theorem complete_exponent (negative : Bool) (whole : Nat) (fraction : List Digit) (e : Int)
    {rest : Source} (h : EndsDigits rest) :
    complete negative whole fraction (source (exponentText (some e)) ++ rest) =
      some (⟨negative, whole, fraction, some e⟩, rest) := by
  change (readExponent (source ((if e < 0 then ['-'] else ['+']) ++ Nat.toDigits 10 e.natAbs) ++
    rest) >>= _) = _
  rw [readExponent_source e h]
  rfl

private theorem readUnsigned_text (l : Literal) {rest : Source} (h : EndsNumber rest) :
    readUnsigned l.negative (source (Nat.toDigits 10 l.whole ++ fractionText l.fraction
      ++ exponentText l.exponent) ++ rest) = some (l, rest) := by
  obtain ⟨negative, whole, fraction, exponent⟩ := l
  rw [source_append, List.append_assoc]
  cases exponent with
  | none =>
    have hpoint (cs : Source) : rest ≠ some '.' :: cs := by
      rintro rfl
      exact h.2.1 rfl
    rw [exponentText, source_nil, List.nil_append, readUnsigned_source _ _ _ h.endsDigits hpoint]
    exact complete_of_endsNumber _ _ _ h
  | some e =>
    have hdigits : EndsDigits (source (exponentText (some e)) ++ rest) :=
      (by decide : Digit.ofChar? 'e' = none)
    have hpoint (cs : Source) : source (exponentText (some e)) ++ rest ≠ some '.' :: cs := by
      intro hcs
      exact absurd (Option.some.inj (List.cons.inj hcs).1) (by decide)
    rw [readUnsigned_source _ _ _ hdigits hpoint]
    exact complete_exponent _ _ _ e h.endsDigits

/-- Every literal is read back, if what follows can not be taken for a part of it. -/
theorem readNumber_text (l : Literal) {rest : Source} (h : EndsNumber rest) :
    readNumber (source (l.text .always) ++ rest) = some (l, rest) := by
  have hunsigned := readUnsigned_text l h
  rw [text_eq]
  cases hneg : l.negative with
  | true =>
    rw [hneg] at hunsigned
    exact hunsigned
  | false =>
    rw [hneg] at hunsigned
    rw [readNumber_of_ne_minus]
    · exact hunsigned
    · obtain ⟨d, ds, htext, -, -⟩ := Digit.exists_toDigits l.whole
      rw [htext]
      intro cs hcs
      exact Digit.toChar_ne_minus d (Option.some.inj (List.cons.inj hcs).1)

end Json
end MetricsView
