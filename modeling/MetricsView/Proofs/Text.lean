import Mathlib.Data.List.Basic
import Mathlib.Data.String.Basic
import MetricsView.Proofs.Traversal
import MetricsView.Text.Basic

/-! # Texts and their octets

Every octet is written as two digits, from which it is read back. In UTF-8 a character is written as
a lead octet and up to three continuation octets: the reader finds the number of the latter in the
former, and gets the character back from the bits of all of them. UTF-8 keeps the order of
characters, so texts are ordered as their octets are, one by one. -/
namespace MetricsView.Text

theorem hexDigit?_digitChar : ∀ n < 16, hexDigit? (Nat.digitChar n) = some n := by decide

/-- The digits that octets are written with. -/
def IsLowerHexDigit (c : Char) : Prop := '0' ≤ c ∧ c ≤ '9' ∨ 'a' ≤ c ∧ c ≤ 'f'

theorem isLowerHexDigit_digitChar : ∀ n < 16, IsLowerHexDigit (Nat.digitChar n) := by
  unfold IsLowerHexDigit
  decide

private theorem isLowerHexDigit_of_mem_hexOctet {b : UInt8} {c : Char} (h : c ∈ hexOctet b) :
    IsLowerHexDigit c := by
  have hb := b.toNat_lt
  rcases List.mem_pair.1 h with rfl | rfl
  · exact isLowerHexDigit_digitChar _ (by omega)
  · exact isLowerHexDigit_digitChar _ (by omega)

theorem isLowerHexDigit_of_mem_hex {bytes : Octets} {c : Char} (h : c ∈ (hex bytes).toList) :
    IsLowerHexDigit c := by
  rw [hex, String.toList_ofList] at h
  obtain ⟨b, -, hc⟩ := List.mem_flatMap.1 h
  exact isLowerHexDigit_of_mem_hexOctet hc

theorem length_hex (bytes : Octets) : (hex bytes).length = 2 * bytes.length := by
  rw [hex, String.length_ofList, List.length_flatMap]
  simp [hexOctet, Nat.mul_comm]

theorem ofHex?_hexOctet (b : UInt8) (cs : List Char) :
    ofHex? (hexOctet b ++ cs) = (ofHex? cs).map (b :: ·) := by
  have hb := b.toNat_lt
  have hhigh := hexDigit?_digitChar (b.toNat / 16) (by omega)
  have hlow := hexDigit?_digitChar (b.toNat % 16) (by omega)
  have hvalue : UInt8.ofNat (16 * (b.toNat / 16) + b.toNat % 16) = b := by
    rw [Nat.div_add_mod, UInt8.ofNat_toNat]
  simp only [hexOctet, List.cons_append, List.nil_append, ofHex?, hhigh, hlow,
    Option.bind_eq_bind, Option.bind_some, hvalue]
  cases ofHex? cs <;> rfl

theorem ofHex?_hex (bytes : Octets) : ofHex? (hex bytes).toList = some bytes := by
  rw [hex, String.toList_ofList]
  induction bytes with
  | nil => rfl
  | cons b bytes ih => rw [List.flatMap_cons, ofHex?_hexOctet, ih, Option.map_some]

theorem hex_injective : Function.Injective hex := by
  intro bytes bytes' h
  have hread := ofHex?_hex bytes
  rw [h, ofHex?_hex] at hread
  exact (Option.some.inj hread).symm

/-- The octet with the six low bits of `n`. -/
def continuation (n : Nat) : UInt8 := UInt8.ofNat (n % 64 + 128)

private theorem sixBits_of_lt : ∀ n < 64, isContinuation (UInt8.ofNat (n + 128)) ∧
    (UInt8.ofNat (n + 128)).toNat &&& 0x3f = n := by
  decide

private theorem isContinuation_continuation (n : Nat) : isContinuation (continuation n) :=
  (sixBits_of_lt _ (Nat.mod_lt _ (by decide))).1

@[simp] theorem continued_nil (n : Nat) : continued n [] = n := rfl

@[simp] theorem continued_continuation (n m : Nat) (bs : Octets) :
    continued n (continuation m :: bs) = continued (64 * n + m % 64) bs := by
  obtain ⟨-, hbits⟩ := sixBits_of_lt (m % 64) (Nat.mod_lt _ (by decide))
  rw [continued, List.foldl_cons, continuation, hbits]
  rfl

/-- For so many continuation octets: the number of values of the bits in the lead octet, and the
least character that is written so. -/
def shape : Nat → Nat × Nat
  | 1 => (0x20, 0x80)
  | 2 => (0x10, 0x800)
  | _ => (0x08, 0x10000)

private theorem leadOfOne_of_lt : ∀ n < 128,
    continuations? (UInt8.ofNat n) = some 0 ∧ (UInt8.ofNat n).toNat = n := by
  decide

private theorem leadOfTwo_of_lt : ∀ n < 32, continuations? (UInt8.ofNat (n + 192)) = some 1 ∧
    (UInt8.ofNat (n + 192)).toNat % (shape 1).1 = n := by
  decide

private theorem leadOfThree_of_lt : ∀ n < 16, continuations? (UInt8.ofNat (n + 224)) = some 2 ∧
    (UInt8.ofNat (n + 224)).toNat % (shape 2).1 = n := by
  decide

private theorem leadOfFour_of_lt : ∀ n < 8, continuations? (UInt8.ofNat (n + 240)) = some 3 ∧
    (UInt8.ofNat (n + 240)).toNat % (shape 3).1 = n := by
  decide

theorem toNat_lt (c : Char) : c.toNat < 0x110000 := by
  rcases c.valid with h | h
  · exact Nat.lt_trans h (by decide)
  · exact h.2

private theorem charOf?_eq (lead : UInt8) (tail : Octets) : charOf? lead tail =
    if !tail.all isContinuation then none
    else
      let n := continued (lead.toNat % (shape tail.length).1) tail
      if h : (shape tail.length).2 ≤ n ∧ n.isValidChar then some (Char.ofNatAux n h.2) else none :=
  rfl

private theorem charOf?_of_continued {lead : UInt8} {tail : Octets} {n : Nat}
    (htail : tail.all isContinuation)
    (hbits : continued (lead.toNat % (shape tail.length).1) tail = n)
    (hleast : (shape tail.length).2 ≤ n) (hvalid : n.isValidChar) :
    charOf? lead tail = some (Char.ofNatAux n hvalid) := by
  subst hbits
  rw [charOf?_eq, htail]
  exact dif_pos ⟨hleast, hvalid⟩

theorem charOf?_continuations {lead : UInt8} {c : Char} {ns : List Nat}
    (hleast : (shape ns.length).2 ≤ c.toNat)
    (hbits : continued (lead.toNat % (shape ns.length).1) (ns.map continuation) = c.toNat) :
    charOf? lead (ns.map continuation) = some c := by
  have htail : (ns.map continuation).all isContinuation := by
    simp [isContinuation_continuation]
  rw [← List.length_map continuation] at hleast hbits
  exact charOf?_of_continued htail hbits hleast c.valid

private theorem characters_two {c : Char} (hleast : 0x80 ≤ c.toNat) (hmost : c.toNat ≤ 0x7ff)
    (rest : Octets) :
    characters (UInt8.ofNat (c.toNat / 64 % 32 + 192) :: continuation c.toNat :: rest) =
      some c :: characters rest := by
  obtain ⟨hlead, hbits⟩ := leadOfTwo_of_lt (c.toNat / 64 % 32) (Nat.mod_lt _ (by decide))
  generalize UInt8.ofNat (c.toNat / 64 % 32 + 192) = lead at hlead hbits ⊢
  have hchar : charOf? lead ([c.toNat].map continuation) = some c := by
    refine charOf?_continuations hleast ?_
    change continued (_ % (shape 1).1) [continuation c.toNat] = c.toNat
    rw [hbits, continued_continuation, continued_nil]
    omega
  rw [characters.eq_def]
  simp only [hlead]
  rw [show charOf? lead [continuation c.toNat] = some c from hchar]

private theorem characters_three {c : Char} (hleast : 0x800 ≤ c.toNat) (hmost : c.toNat ≤ 0xffff)
    (rest : Octets) :
    characters (UInt8.ofNat (c.toNat / 4096 % 16 + 224) :: continuation (c.toNat / 64) ::
      continuation c.toNat :: rest) = some c :: characters rest := by
  obtain ⟨hlead, hbits⟩ := leadOfThree_of_lt (c.toNat / 4096 % 16) (Nat.mod_lt _ (by decide))
  generalize UInt8.ofNat (c.toNat / 4096 % 16 + 224) = lead at hlead hbits ⊢
  have hchar : charOf? lead ([c.toNat / 64, c.toNat].map continuation) = some c := by
    refine charOf?_continuations hleast ?_
    change continued (_ % (shape 2).1) [continuation (c.toNat / 64), continuation c.toNat] = c.toNat
    rw [hbits, continued_continuation, continued_continuation, continued_nil]
    omega
  rw [characters.eq_def]
  simp only [hlead]
  rw [show charOf? lead [continuation (c.toNat / 64), continuation c.toNat] = some c from hchar]

private theorem characters_four {c : Char} (hleast : 0x10000 ≤ c.toNat) (rest : Octets) :
    characters (UInt8.ofNat (c.toNat / 262144 % 8 + 240) :: continuation (c.toNat / 4096) ::
      continuation (c.toNat / 64) :: continuation c.toNat :: rest) =
      some c :: characters rest := by
  have hmost := toNat_lt c
  obtain ⟨hlead, hbits⟩ := leadOfFour_of_lt (c.toNat / 262144 % 8) (Nat.mod_lt _ (by decide))
  generalize UInt8.ofNat (c.toNat / 262144 % 8 + 240) = lead at hlead hbits ⊢
  have hchar :
      charOf? lead ([c.toNat / 4096, c.toNat / 64, c.toNat].map continuation) = some c := by
    refine charOf?_continuations hleast ?_
    change continued (_ % (shape 3).1)
      [continuation (c.toNat / 4096), continuation (c.toNat / 64), continuation c.toNat] = c.toNat
    rw [hbits, continued_continuation, continued_continuation, continued_continuation,
      continued_nil]
    omega
  rw [characters.eq_def]
  simp only [hlead]
  rw [show charOf? lead [continuation (c.toNat / 4096), continuation (c.toNat / 64),
    continuation c.toNat] = some c from hchar]

/-- A character is read from its octets, whatever follows them. -/
theorem characters_encodeChar_append (c : Char) (rest : Octets) :
    characters (String.utf8EncodeChar c ++ rest) = some c :: characters rest := by
  unfold String.utf8EncodeChar
  simp only
  split
  · next h =>
    obtain ⟨hlead, hvalue⟩ := leadOfOne_of_lt c.val.toNat (by omega)
    rw [List.singleton_append, characters.eq_def]
    simp only [hlead, hvalue]
    exact congrArg (some · :: _) (Char.ofNat_toNat c)
  split
  · next hone htwo => exact characters_two (Nat.lt_of_not_le hone) htwo rest
  split
  · next htwo hthree => exact characters_three (Nat.lt_of_not_le htwo) hthree rest
  · next hthree => exact characters_four (Nat.lt_of_not_le hthree) rest

theorem characters_utf8 (cs : List Char) : characters (utf8 cs) = cs.map some := by
  induction cs with
  | nil => rw [utf8, List.flatMap_nil, characters, List.map_nil]
  | cons c cs ih =>
    rw [utf8, List.flatMap_cons, characters_encodeChar_append, List.map_cons, ← ih, utf8]

theorem ofUtf8?_utf8 (cs : List Char) : ofUtf8? (utf8 cs) = some (String.ofList cs) := by
  have hcharacters : (cs.map some).mapM id = some (cs.map id) := by
    rw [List.mapM_map]
    exact Traversal.mapM_eq_pure fun _ _ => rfl
  rw [ofUtf8?, characters_utf8, hcharacters, List.map_id, Option.map_some]

private theorem ofNat_lt_iff {m n : Nat} (hm : m < 256) (hn : n < 256) :
    UInt8.ofNat m < UInt8.ofNat n ↔ m < n := by
  rw [UInt8.lt_iff_toNat_lt, UInt8.toNat_ofNat_of_lt' hm, UInt8.toNat_ofNat_of_lt' hn]

private theorem ofNat_inj {m n : Nat} (hm : m < 256) (hn : n < 256) :
    UInt8.ofNat m = UInt8.ofNat n ↔ m = n := by
  rw [← UInt8.toNat_inj, UInt8.toNat_ofNat_of_lt' hm, UInt8.toNat_ofNat_of_lt' hn]

/-- The last digits to base 64 matter where all others are the same. -/
private theorem digits_lt {m n : Nat} (h : m < n) :
    m / 64 < n / 64 ∨ m / 64 = n / 64 ∧ m % 64 < n % 64 := by
  omega

private theorem utf8EncodeChar_append_lt {c d : Char} (h : c < d) (as bs : Octets) :
    String.utf8EncodeChar c ++ as < String.utf8EncodeChar d ++ bs := by
  have hd : d.val.toNat < 0x110000 := toNat_lt d
  have hcd : c.val.toNat < d.val.toNat := h
  unfold String.utf8EncodeChar
  simp only
  generalize c.val.toNat = m at *
  generalize d.val.toNat = n at *
  have hdigits (m : Nat) : m / 4096 = m / 64 / 64 ∧ m / 262144 = m / 64 / 64 / 64 := by omega
  have hlast := digits_lt hcd
  have hmiddle := digits_lt (m := m / 64) (n := n / 64)
  have hfirst := digits_lt (m := m / 64 / 64) (n := n / 64 / 64)
  -- With more octets the lead octet is greater; with as many the digits are compared in order.
  split_ifs <;>
    simp (disch := omega) only [List.cons_append, List.nil_append, List.cons_lt_cons_iff,
      ofNat_lt_iff, ofNat_inj, hdigits] <;>
    omega

theorem utf8_lt_utf8 {cs ds : List Char} (h : cs < ds) : utf8 cs < utf8 ds := by
  induction cs generalizing ds with
  | nil =>
    cases ds with
    | nil => exact absurd h (List.lt_irrefl _)
    | cons d ds =>
      cases hoctets : utf8 (d :: ds) with
      | nil =>
        have hnil := (List.append_eq_nil_iff.1 hoctets).1
        exact absurd hnil String.utf8EncodeChar_ne_nil
      | cons b bs => exact List.nil_lt_cons b bs
  | cons c cs ih =>
    cases ds with
    | nil => cases h
    | cons d ds =>
      rcases List.cons_lt_cons_iff.1 h with hcd | ⟨rfl, htail⟩
      · exact utf8EncodeChar_append_lt hcd _ _
      · exact List.append_left_lt (ih htail)

/-- The octets of a text. -/
def octets (s : String) : Octets := utf8 s.toList

theorem octets_lt_octets {s t : String} (h : s < t) : octets s < octets t :=
  utf8_lt_utf8 (String.lt_iff_toList_lt.1 h)

end MetricsView.Text
