import Mathlib

/-! # Integers as floats

An integer of magnitude up to `2^53` is the value of its float. On the way to the float nothing is
rounded: a mantissa of 53 bits holds the integer, shifted to the left until it fills them. -/
namespace MetricsView.Binary64

open Float.Model UnpackedFloat

/-- So far a number is shifted for its leading bit to become the first of 53. -/
def room (n : Nat) : Nat := 52 - n.log2

/-- A mantissa with its leading bit in place. -/
structure Normal (m : Nat) : Prop where
  least : 2 ^ 52 ≤ m
  most : m < 2 ^ 53

/-- The exponent of a float that is neither too small nor too large for a full mantissa. -/
structure InRange (e : Int) : Prop where
  least : -1074 ≤ e
  most : e ≤ 971

variable {m n : Nat} {e : Int} {s : Sign}

theorem Normal.pos (h : Normal m) : 0 < m := Nat.lt_of_lt_of_le (by decide) h.least

theorem Normal.log2 (h : Normal m) : m.log2 = 52 := by
  have hleast := (Nat.le_log2 h.pos.ne').2 h.least
  have hmost := (Nat.log2_lt h.pos.ne').2 h.most
  omega

theorem log2_shiftLeft (hm : m ≠ 0) (k : Nat) : (m <<< k).log2 = m.log2 + k := by
  induction k with
  | zero => rfl
  | succ k ih =>
    have hne : m <<< k ≠ 0 := by simpa [Nat.shiftLeft_eq] using hm
    rw [Nat.shiftLeft_succ, Nat.log2_two_mul hne, ih]
    rfl

theorem normal_shiftLeft (hn : 0 < n) (hmost : n < 2 ^ 53) : Normal (n <<< room n) := by
  have hlog := (Nat.log2_lt hn.ne').2 hmost
  have hne : n <<< room n ≠ 0 := by simpa [Nat.shiftLeft_eq] using hn.ne'
  have hfull : (n <<< room n).log2 = 52 := by
    rw [log2_shiftLeft hn.ne', room]
    omega
  exact ⟨(Nat.le_log2 hne).1 (by omega), (Nat.log2_lt hne).1 (by omega)⟩

theorem inRange_room (n : Nat) : InRange (-(room n : Int)) := by
  have hroom : room n ≤ 52 := Nat.sub_le ..
  exact ⟨by omega, by omega⟩

/-- Shifting back what was shifted loses no bit. -/
theorem shiftRight_shiftLeft (m k : Nat) :
    ExtendedMantissa.mk (m <<< k) false false >>> k = ExtendedMantissa.mk m false false := by
  change k.repeat ExtendedMantissa.shiftRightOne _ = _
  induction k generalizing m with
  | zero => rfl
  | succ k ih =>
    rw [Nat.repeat, Nat.shiftLeft_succ_inside, ih, ExtendedMantissa.shiftRightOne]
    simp

theorem shift_exact (hm : Normal m) (he : -1074 ≤ e) (k : Nat) :
    shiftToTargetExponent Format.binary64 (m <<< k) (e - k) .exact =
      (ExtendedMantissa.mk m false false, e) := by
  have htarget : Format.binary64.targetExponent (totalExponent (m <<< k) (e - k)) = e := by
    rw [totalExponent, log2_shiftLeft hm.pos.ne', hm.log2]
    simp only [Format.targetExponent, Format.mantissaBits, Format.minExponent]
    omega
  have hshift : (e - (e - (k : Int))).toNat = k := by omega
  have hback : e - (k : Int) + (k : Int) = e := by omega
  simp only [shiftToTargetExponent, htarget, shiftToExponent, hshift, hback,
    ExtendedMantissa.ofMantissaAndAccuracy, shiftRight_shiftLeft]

private theorem shift_normal (hm : Normal m) (he : -1074 ≤ e) :
    shiftToTargetExponent Format.binary64 m e .exact = (ExtendedMantissa.mk m false false, e) := by
  simpa using shift_exact hm he 0

/-- After the shift nothing is left to be rounded, so the second shift does nothing. -/
theorem roundWithAccuracy_exact (hm : Normal m) (he : -1074 ≤ e) (k : Nat) :
    roundWithAccuracy Format.binary64 s (m <<< k) (e - k) .exact = .finite s m e hm.pos := by
  have hrounded : (ExtendedMantissa.mk m false false).roundedMantissa = m := rfl
  simp only [roundWithAccuracy, shift_exact hm he k, hrounded, shift_normal hm he, hm.pos.ne',
    dite_false]

private theorem roundWithAccuracy_normal (hm : Normal m) (he : -1074 ≤ e) :
    roundWithAccuracy Format.binary64 s m e .exact = .finite s m e hm.pos := by
  simpa using roundWithAccuracy_exact hm he 0

/-- The integer fills its mantissa by a shift. -/
theorem round_integer (hn : 0 < n) (hmost : n < 2 ^ 53) :
    UnpackedFloat.round Format.binary64 s n 0 =
      .finite s (n <<< room n) (-(room n : Int)) (normal_shiftLeft hn hmost).pos := by
  have hlog := (Nat.log2_lt hn.ne').2 hmost
  have htarget : Format.binary64.targetExponent (totalExponent n 0) = -(room n : Int) := by
    simp only [totalExponent, Format.targetExponent, Format.mantissaBits, Format.minExponent, room]
    omega
  have hshift : (0 - -(room n : Int)).toNat = room n := by omega
  have hexponent : (0 : Int) - (room n : Int) = -(room n : Int) := by omega
  rw [UnpackedFloat.round, htarget, decreaseExponent, hshift, hexponent]
  exact roundWithAccuracy_normal (normal_shiftLeft hn hmost) (inRange_room n).least

/-- The leading bit is not stored, and comes back. -/
theorem Normal.append_ofNat (h : Normal m) : (1#1 ++ BitVec.ofNat 52 m).toNat = m := by
  have hstored : (BitVec.ofNat 52 m).toNat = m - 2 ^ 52 := by
    have hleast := h.least
    have hmost := h.most
    rw [BitVec.toNat_ofNat]
    omega
  rw [BitVec.toNat_append, ← Nat.shiftLeft_add_eq_or_of_lt (BitVec.isLt _), hstored]
  have hleast := h.least
  simp only [BitVec.toNat_ofNat, Nat.shiftLeft_eq]
  omega

/-- The exponent as it is stored. -/
def biased (e : Int) : Nat := (e + 1075).toNat

theorem InRange.toNat_biased (he : InRange e) : (BitVec.ofNat 11 (biased e)).toNat = biased e := by
  have hmost := he.most
  rw [BitVec.toNat_ofNat, biased]
  omega

/-- What is stored for zero and for small floats is not met. -/
theorem InRange.biased_ne_zero (he : InRange e) : BitVec.ofNat 11 (biased e) ≠ 0#11 := by
  intro h
  have hzero := congrArg BitVec.toNat h
  have hleast := he.least
  rw [he.toNat_biased, BitVec.toNat_zero, biased] at hzero
  omega

/-- What is stored for infinities, and for what is no number, is not met. -/
theorem InRange.biased_ne_ones (he : InRange e) : BitVec.ofNat 11 (biased e) ≠ -1#11 := by
  intro h
  have hones := congrArg BitVec.toNat h
  have hmost := he.most
  rw [he.toNat_biased, biased] at hones
  change (e + 1075).toNat = 2047 at hones
  omega

private theorem pack_eq (hm : Normal m) (he : InRange e) :
    UnpackedFloat.pack Format.binary64 (.finite s m e hm.pos) =
      packComponents Format.binary64 s (BitVec.ofNat 11 (biased e)) (BitVec.ofNat 52 m) := by
  have hbias : (e + Format.binary64.exponentBias + 52).toNat = biased e := by
    simp only [Format.exponentBias, biased]
    omega
  have hfits : ¬ 2 ^ 11 ≤ biased e + 1 := by
    have hmost := he.most
    rw [biased]
    omega
  have hfull : m.log2 + 1 = Format.binary64.mantissaBits := by
    rw [hm.log2]
    rfl
  change (if 2 ^ 11 ≤ (e + Format.binary64.exponentBias + 52).toNat + 1 then _ else
    if m.log2 + 1 = Format.binary64.mantissaBits then packComponents Format.binary64 s
      (BitVec.ofNat 11 (e + Format.binary64.exponentBias + 52).toNat) _ else _) = _
  rw [hbias, if_neg hfits, if_pos hfull]

theorem unpack_pack (hm : Normal m) (he : InRange e) :
    (Float.Model.pack (.finite s m e hm.pos)).unpack = .finite s m e hm.pos := by
  have hexponent : (biased e : Int) - (Format.binary64.exponentBias + (52 : Nat)) = e := by
    have hleast := he.least
    simp only [Format.exponentBias, biased]
    omega
  change UnpackedFloat.unpack Format.binary64 (UnpackedFloat.pack Format.binary64 _) = _
  rw [pack_eq hm he, UnpackedFloat.unpack]
  simp only [unpackMantissa_packComponents, unpackExponent_packComponents,
    unpackSign_packComponents, Sign.ofBitVec_toBitVec, he.biased_ne_zero, he.biased_ne_ones, if_false,
    he.toNat_biased, hm.append_ofNat, hexponent]

/-- The number that a float is, unless it is infinite or none. -/
def number? (x : Float) : Option ℚ :=
  match x.toModel.unpack with
  | .zero _ => some 0
  | .finite s m e _ => some ((s.apply m : ℤ) * 2 ^ e)
  | .infinity _ | .notANumber => none

theorem isFinite_iff {x : Float} : x.isFinite ↔ (number? x).isSome := by
  change x.toModel.unpack.isFinite ↔ _
  unfold number?
  cases x.toModel.unpack <;> simp [UnpackedFloat.isFinite]

theorem unpack_one : (Float.ofBits 0x3FF0000000000000).toModel.unpack =
    .finite .positive (2 ^ 52) (-52) (by decide) := by rfl

private theorem unpack_toFloat (hn : 0 < n) (hmost : n < 2 ^ 53) :
    n.toUInt64.toFloat.toModel.unpack =
    .finite .positive (n <<< room n) (-(room n : Int)) (normal_shiftLeft hn hmost).pos := by
  have hsmall : n.toUInt64.toNat = n := by
    rw [Nat.toUInt64_eq, UInt64.toNat_ofNat']
    omega
  have hgt : compare (n : Int) 0 = .gt := Int.compare_eq_gt.2 (by omega)
  change (Float.Model.pack (UnpackedFloat.normalize Format.binary64 (n.toUInt64.toNat : Int) 0
    .positive)).unpack = _
  rw [hsmall, UnpackedFloat.normalize, hgt]
  change (Float.Model.pack (UnpackedFloat.round Format.binary64 .positive (n : Int).toNat 0)).unpack
    = _
  rw [Int.toNat_natCast, round_integer hn hmost]
  exact unpack_pack (normal_shiftLeft hn hmost) (inRange_room n)

private theorem unpack_ofNat (hn : 0 < n) (hmost : n < 2 ^ 53) : (Float.ofNat n).toModel.unpack =
    .finite .positive (n <<< room n) (-(room n : Int)) (normal_shiftLeft hn hmost).pos := by
  have hnormal := normal_shiftLeft hn hmost
  have hfast : Float.ofNat n = n.toUInt64.toFloat * Float.ofBits 0x3FF0000000000000 := by
    change Float.ofScientific n false 0 = _
    rw [Float.ofScientific, dif_pos ⟨hmost, by decide⟩]
    rfl
  rw [hfast]
  change (Float.Model.pack (UnpackedFloat.mul Format.binary64 n.toUInt64.toFloat.toModel.unpack
    (Float.ofBits 0x3FF0000000000000).toModel.unpack)).unpack = _
  rw [unpack_one, unpack_toFloat hn hmost]
  change (Float.Model.pack (roundWithAccuracy Format.binary64 .positive (n <<< room n * 2 ^ 52)
    (-(room n : Int) - (52 : Nat)) .exact)).unpack = _
  rw [← Nat.shiftLeft_eq, roundWithAccuracy_exact hnormal (inRange_room n).least]
  exact unpack_pack hnormal (inRange_room n)

/-- The integer from which on 53 bits do not hold every integer is a float itself. -/
theorem unpack_ofNat_bound : (Float.ofNat (2 ^ 53)).toModel.unpack =
    .finite .positive (2 ^ 52) 1 (by decide) := by rfl

/-- The float is this number, with a mantissa that is filled. -/
structure Spells (x : Float) (s : Sign) (m : Nat) (e : Int) : Prop where
  normal : Normal m
  inRange : InRange e
  unpack : x.toModel.unpack = .finite s m e normal.pos

theorem Spells.neg {x : Float} (h : Spells x s m e) : Spells x.neg (-s) m e where
  normal := h.normal
  inRange := h.inRange
  unpack := by
    change (Float.Model.pack x.toModel.unpack.neg).unpack = _
    rw [h.unpack]
    exact unpack_pack h.normal h.inRange

theorem Spells.number? {x : Float} (h : Spells x s m e) :
    number? x = some (((s.apply m : ℤ) : ℚ) * 2 ^ e) := by
  rw [Binary64.number?, h.unpack]

theorem exists_spells_ofNat (hn : 0 < n) (hmost : n ≤ 2 ^ 53) :
    ∃ m e, Spells (Float.ofNat n) .positive m e ∧ (m : ℚ) * 2 ^ e = n := by
  rcases hmost.lt_or_eq with hlt | rfl
  · refine ⟨n <<< room n, -(room n : Int), ⟨normal_shiftLeft hn hlt, inRange_room n,
      unpack_ofNat hn hlt⟩, ?_⟩
    rw [Nat.shiftLeft_eq, zpow_neg, zpow_natCast]
    push_cast
    exact mul_inv_cancel_right₀ (by positivity) _
  · refine ⟨2 ^ 52, 1, ⟨⟨by decide, by decide⟩, ⟨by decide, by decide⟩, unpack_ofNat_bound⟩, ?_⟩
    norm_num

/-- No integer of this magnitude is rounded. -/
theorem number?_ofInt {i : Int} (hi : i.natAbs ≤ 2 ^ 53) : number? (Float.ofInt i) = some i := by
  cases i with
  | ofNat n =>
    rcases Nat.eq_zero_or_pos n with rfl | hn
    · rfl
    · obtain ⟨m, e, hspells, hvalue⟩ := exists_spells_ofNat hn hi
      change number? (Float.ofNat n) = _
      rw [hspells.number?]
      simp [Sign.apply, hvalue]
  | negSucc n =>
    obtain ⟨m, e, hspells, hvalue⟩ := exists_spells_ofNat n.succ_pos hi
    change number? (Float.ofNat n.succ).neg = _
    rw [hspells.neg.number?]
    change some (((-(m : ℤ) : ℤ) : ℚ) * 2 ^ e) = _
    rw [Int.cast_neg, neg_mul, Int.cast_natCast, hvalue, Int.negSucc_eq]
    simp

theorem isFinite_ofInt {i : Int} (hi : i.natAbs ≤ 2 ^ 53) : (Float.ofInt i).isFinite := by
  rw [isFinite_iff, number?_ofInt hi]
  rfl

end MetricsView.Binary64
