import MetricsView.Proofs.Row.Exact
import MetricsView.Proofs.Text
import MetricsView.Proofs.Traversal
import MetricsView.Row

/-! # How a cell is converted

The type of the column decides which values it takes and what becomes of them. A cell that it takes
becomes a value of its type. An integer under a column of floats is taken only if it is one of them,
and octets can be read back from their digits. -/
namespace MetricsView

open Traversal

theorem Datum.ofFloat_of_finite {x : Float} (h : x.isFinite) : Datum.ofFloat x = .float x := by
  rw [Datum.ofFloat, if_pos h]

theorem Datum.ofFloat_of_not_finite {x : Float} (h : ¬ x.isFinite) : Datum.ofFloat x = .null := by
  rw [Datum.ofFloat, if_neg h]

namespace TypeCode

theorem ne_bool_of_isFloat {code : TypeCode} (h : code.isFloat) : code ≠ .bool := by
  rintro rfl
  cases h

theorem ne_bool_of_integer {code : TypeCode} (h : code.isInteger ∨ code = .unspecified) :
    code ≠ .bool := by
  rintro rfl
  rcases h with h | h <;> cases h

theorem not_isFloat_of_integer {code : TypeCode} (h : code.isInteger ∨ code = .unspecified) :
    ¬ code.isFloat := by
  rcases h with h | rfl
  · cases code <;> simp_all [isInteger, isFloat]
  · simp [isFloat]

end TypeCode

namespace Column

/-- The values that a column takes, and what becomes of them. -/
inductive Converts (c : Column) : Scalar → Datum → Prop where
  | null (h : c.type.nullable) : Converts c .null .null
  | bool {b} (h : c.type.code = .bool ∨ c.type.code = .unspecified) : Converts c (.bool b) (.bool b)
  | truth {i} (h : c.type.code = .bool) : Converts c (.int i) (.bool (i ≠ 0))
  | exact {i} (h : c.type.code.isFloat) (hi : i.natAbs ≤ 2 ^ 53) :
      Converts c (.int i) (.float (Float.ofInt i))
  | int {i} (h : c.type.code.isInteger ∨ c.type.code = .unspecified) : Converts c (.int i) (.int i)
  | float {x} (h : c.type.code.isFloat ∨ c.type.code = .unspecified) (hx : x.isFinite) :
      Converts c (.float x) (.float x)
  | notFinite {x} (h : c.type.code.isFloat ∨ c.type.code = .unspecified) (hx : ¬ x.isFinite) :
      Converts c (.float x) .null
  | string {s} (h : holdsText c.type.code) : Converts c (.string s) (.string s)
  | timestamp {t} (h : c.type.code = .timestamp ∨ c.type.code = .date ∨ c.type.code = .time ∨
      c.type.code = .unspecified) : Converts c (.timestamp t) (.string t.text)
  | bytes {b} (h : c.type.code = .bytes ∨ c.type.code = .unspecified) :
      Converts c (.bytes b) (.string (Text.hex b))

variable {c : Column} {v : Scalar} {d : Datum}

theorem converts_of_convert (h : c.convert v = .ok d) : c.Converts v d := by
  cases v with
  | null =>
    obtain ⟨hnull, rfl⟩ := ite_eq_ok_iff.1 h
    exact .null hnull
  | bool b =>
    obtain ⟨hcode, rfl⟩ := ite_eq_ok_iff.1 h
    exact .bool hcode
  | int i =>
    by_cases hbool : c.type.code = .bool
    · simp only [convert, hbool, if_true] at h
      cases h
      exact .truth hbool
    · by_cases hfloat : c.type.code.isFloat
      · simp only [convert, hbool, hfloat, if_true, if_false] at h
        by_cases hlarge : 9007199254740992 < i.natAbs
        · simp [hlarge] at h
        · have hi : i.natAbs ≤ 2 ^ 53 := Nat.le_of_not_lt hlarge
          rw [if_neg hlarge, Datum.ofFloat_of_finite (Binary64.isFinite_ofInt hi)] at h
          cases h
          exact .exact hfloat hi
      · simp only [convert, hbool, hfloat, if_false] at h
        obtain ⟨hcode, rfl⟩ := ite_eq_ok_iff.1 h
        exact .int hcode
  | float x =>
    obtain ⟨hcode, rfl⟩ := ite_eq_ok_iff.1 h
    by_cases hx : x.isFinite
    · rw [Datum.ofFloat_of_finite hx]
      exact .float hcode hx
    · rw [Datum.ofFloat_of_not_finite hx]
      exact .notFinite hcode hx
  | string s =>
    obtain ⟨hcode, rfl⟩ := ite_eq_ok_iff.1 h
    exact .string hcode
  | timestamp t =>
    obtain ⟨hcode, rfl⟩ := ite_eq_ok_iff.1 h
    exact .timestamp hcode
  | bytes b =>
    obtain ⟨hcode, rfl⟩ := ite_eq_ok_iff.1 h
    exact .bytes hcode

theorem Converts.convert (h : c.Converts v d) : c.convert v = .ok d := by
  cases h with
  | null h => exact ite_eq_ok_iff.2 ⟨h, rfl⟩
  | bool h => exact ite_eq_ok_iff.2 ⟨h, rfl⟩
  | truth h => simp [Column.convert, h]
  | exact h hi =>
    have hsmall : ¬ 9007199254740992 < Int.natAbs _ := Nat.not_lt_of_le hi
    simp [Column.convert, TypeCode.ne_bool_of_isFloat h, h, hsmall,
      Datum.ofFloat_of_finite (Binary64.isFinite_ofInt hi)]
  | int h =>
    simp [Column.convert, TypeCode.ne_bool_of_integer h, TypeCode.not_isFloat_of_integer h, h]
  | float h hx => exact ite_eq_ok_iff.2 ⟨h, Datum.ofFloat_of_finite hx⟩
  | notFinite h hx => exact ite_eq_ok_iff.2 ⟨h, Datum.ofFloat_of_not_finite hx⟩
  | string h => exact ite_eq_ok_iff.2 ⟨h, rfl⟩
  | timestamp h => exact ite_eq_ok_iff.2 ⟨h, rfl⟩
  | bytes h => exact ite_eq_ok_iff.2 ⟨h, rfl⟩

theorem convert_eq_ok_iff : c.convert v = .ok d ↔ c.Converts v d :=
  ⟨converts_of_convert, Converts.convert⟩

end Column

private theorem TypeCode.not_isInteger_of_holdsText {code : TypeCode} (h : Column.holdsText code) :
    ¬ code.isInteger := by
  unfold Column.holdsText at h
  split at h
  case h_8 => simpa using h
  all_goals cases h

namespace Column

open Traversal

variable {c : Column} {v : Scalar} {d : Datum}

namespace Converts

private theorem exists_bool (h : c.Converts v d) (hcode : c.type.code = .bool) (hd : d ≠ .null) :
    ∃ b, d = .bool b := by
  cases h with
  | bool | truth => exact ⟨_, rfl⟩
  | null | notFinite => exact absurd rfl hd
  | _ => simp_all [TypeCode.isFloat, TypeCode.isInteger, holdsText]

theorem exists_int (h : c.Converts v d) (hcode : c.type.code.isInteger) (hd : d ≠ .null) :
    ∃ i, v = .int i ∧ d = .int i := by
  have hfloat := TypeCode.not_isFloat_of_integer (.inl hcode)
  cases h with
  | int => exact ⟨_, rfl, rfl⟩
  | null | notFinite => exact absurd rfl hd
  | exact h => exact absurd h hfloat
  | string h => exact absurd hcode (TypeCode.not_isInteger_of_holdsText h)
  | truth h => exact absurd h (TypeCode.ne_bool_of_integer (.inl hcode))
  | bool h | bytes h => rcases h with h | h <;> rw [h] at hcode <;> cases hcode
  | timestamp h => rcases h with h | h | h | h <;> rw [h] at hcode <;> cases hcode
  | float h =>
    rcases h with h | h
    · exact absurd h hfloat
    · rw [h] at hcode
      cases hcode

private theorem exists_float (h : c.Converts v d)
    (hcode : c.type.code = .float32 ∨ c.type.code = .float64) (hd : d ≠ .null) :
    ∃ x, d = .float x ∧ x.isFinite := by
  cases h with
  | exact _ hi => exact ⟨_, rfl, Binary64.isFinite_ofInt hi⟩
  | float _ hx => exact ⟨_, rfl, hx⟩
  | null | notFinite => exact absurd rfl hd
  | _ => rcases hcode with hcode | hcode <;> simp_all [TypeCode.isInteger, holdsText]

private theorem exists_float_or_string (h : c.Converts v d) (hcode : c.type.code = .decimal)
    (hd : d ≠ .null) : (∃ x, d = .float x ∧ x.isFinite) ∨ ∃ s, v = .string s ∧ d = .string s := by
  cases h with
  | exact _ hi => exact .inl ⟨_, rfl, Binary64.isFinite_ofInt hi⟩
  | float _ hx => exact .inl ⟨_, rfl, hx⟩
  | string => exact .inr ⟨_, rfl, rfl⟩
  | null | notFinite => exact absurd rfl hd
  | _ => simp_all [TypeCode.isInteger]

private theorem exists_string (h : c.Converts v d) (hcode : c.type.code = .string)
    (hd : d ≠ .null) : ∃ s, v = .string s ∧ d = .string s := by
  cases h with
  | string => exact ⟨_, rfl, rfl⟩
  | null | notFinite => exact absurd rfl hd
  | _ => simp_all [TypeCode.isFloat, TypeCode.isInteger]

private theorem eq_null_of_nested (h : c.Converts v d)
    (hcode : c.type.code = .array ∨ c.type.code = .struct ∨ c.type.code = .map) :
    v = .null ∧ d = .null := by
  cases h with
  | null => exact ⟨rfl, rfl⟩
  | _ =>
    rcases hcode with hcode | hcode | hcode <;>
      simp_all [TypeCode.isFloat, TypeCode.isInteger, holdsText]

end Converts

theorem convert_int_of_isFloat (hcode : c.type.code.isFloat) (i : Int) : c.convert (.int i) =
    if i.natAbs ≤ 2 ^ 53 then .ok (.float (Float.ofInt i))
    else .error (.inexact i c.name c.type.code) := by
  split
  · next hi => exact (Converts.exact hcode hi).convert
  · next hi =>
    have hlarge : 9007199254740992 < i.natAbs := Nat.lt_of_not_le hi
    simp [convert, TypeCode.ne_bool_of_isFloat hcode, hcode, hlarge]

theorem exists_convert_int_iff (hcode : c.type.code.isFloat) {i : Int} :
    (∃ d, c.convert (.int i) = .ok d) ↔ i.natAbs ≤ 2 ^ 53 := by
  simp only [convert_int_of_isFloat hcode, ite_eq_ok_iff, exists_and_left, exists_eq', and_true]

theorem convert_int_eq_error_iff (hcode : c.type.code.isFloat) {i : Int} :
    c.convert (.int i) = .error (.inexact i c.name c.type.code) ↔ 2 ^ 53 < i.natAbs := by
  rw [convert_int_of_isFloat hcode, ite_eq_error_iff, and_iff_left rfl, Nat.not_le]

/-- The float is the integer. -/
theorem exists_number_of_int (hcode : c.type.code.isFloat) {i : Int}
    (h : c.convert (.int i) = .ok d) :
    ∃ x, d = .float x ∧ Binary64.number? x = some (i : ℚ) := by
  rw [convert_int_of_isFloat hcode] at h
  obtain ⟨hi, rfl⟩ := ite_eq_ok_iff.1 h
  exact ⟨_, rfl, Binary64.number?_ofInt hi⟩

private theorem int_eq_of_convert (hcode : c.type.code.isFloat) {i j : Int}
    (hi : c.convert (.int i) = .ok d) (hj : c.convert (.int j) = .ok d) : i = j := by
  obtain ⟨x, rfl, hx⟩ := exists_number_of_int hcode hi
  obtain ⟨y, hxy, hy⟩ := exists_number_of_int hcode hj
  obtain rfl := Datum.float.inj hxy
  exact Int.cast_injective (Option.some.inj (hx.symm.trans hy))

theorem convert_string_eq {s : String} (h : c.convert (.string s) = .ok d) : d = .string s := by
  cases converts_of_convert h
  rfl

theorem convert_bytes_eq {b : Text.Octets} (h : c.convert (.bytes b) = .ok d) :
    d = .string (Text.hex b) := by
  cases converts_of_convert h
  rfl

/-- What is made of a cell, unless it is null, has the type of the column. Integers are not rounded,
and texts and octets are not lost. -/
structure Sound (c : Column) : Prop where
  bool : c.type.code = .bool → ∀ v d, c.convert v = .ok d → d ≠ .null → ∃ b, d = .bool b
  integer : c.type.code.isInteger → ∀ v d, c.convert v = .ok d → d ≠ .null →
    ∃ i, v = .int i ∧ d = .int i
  float : c.type.code = .float32 ∨ c.type.code = .float64 → ∀ v d, c.convert v = .ok d →
    d ≠ .null → ∃ x, d = .float x ∧ x.isFinite
  decimal : c.type.code = .decimal → ∀ v d, c.convert v = .ok d → d ≠ .null →
    (∃ x, d = .float x ∧ x.isFinite) ∨ ∃ s, v = .string s ∧ d = .string s
  /-- The same bound holds of both signs, so the least integer of 64 bits is beyond it. -/
  accepts_iff : c.type.code.isFloat → ∀ i,
    (∃ d, c.convert (.int i) = .ok d) ↔ i.natAbs ≤ 2 ^ 53
  rejects_iff : c.type.code.isFloat → ∀ i,
    c.convert (.int i) = .error (.inexact i c.name c.type.code) ↔ 2 ^ 53 < i.natAbs
  exact : c.type.code.isFloat → ∀ i d, c.convert (.int i) = .ok d →
    ∃ x, d = .float x ∧ Binary64.number? x = some (i : ℚ)
  distinct : c.type.code.isFloat → ∀ i j d, c.convert (.int i) = .ok d →
    c.convert (.int j) = .ok d → i = j
  string : c.type.code = .string → ∀ v d, c.convert v = .ok d → d ≠ .null →
    ∃ s, v = .string s ∧ d = .string s
  /-- A text is left as it is, whatever the column. -/
  text : ∀ s d, c.convert (.string s) = .ok d → d = .string s
  /-- Two digits for an octet, and no other octets have the same digits. -/
  bytes : ∀ b d, c.convert (.bytes b) = .ok d → ∃ t, d = .string t ∧
    t.length = 2 * b.length ∧ (∀ ch ∈ t.toList, Text.IsLowerHexDigit ch) ∧
      Text.ofHex? t.toList = some b ∧ ∀ b', c.convert (.bytes b') = .ok d → b' = b
  nested : c.type.code = .array ∨ c.type.code = .struct ∨ c.type.code = .map →
    ∀ v d, c.convert v = .ok d → v = .null ∧ d = .null

/-- A column holds what its type says, and nothing but null if its type is nested. -/
theorem convert_sound (c : Column) : c.Sound where
  bool hcode _ _ h := (converts_of_convert h).exists_bool hcode
  integer hcode _ _ h := (converts_of_convert h).exists_int hcode
  float hcode _ _ h := (converts_of_convert h).exists_float hcode
  decimal hcode _ _ h := (converts_of_convert h).exists_float_or_string hcode
  accepts_iff hcode _ := exists_convert_int_iff hcode
  rejects_iff hcode _ := convert_int_eq_error_iff hcode
  exact hcode _ _ := exists_number_of_int hcode
  distinct hcode _ _ _ := int_eq_of_convert hcode
  string hcode _ _ h := (converts_of_convert h).exists_string hcode
  text _ _ := convert_string_eq
  bytes b d h := by
    obtain rfl := convert_bytes_eq h
    refine ⟨_, rfl, Text.length_hex b, fun _ => Text.isLowerHexDigit_of_mem_hex, Text.ofHex?_hex b,
      fun b' h' => ?_⟩
    exact Text.hex_injective (Datum.string.inj (convert_bytes_eq h')).symm
  nested hcode _ _ h := (converts_of_convert h).eq_null_of_nested hcode

/-- The least integer of 64 bits. -/
example : (Column.mk "n" ⟨.decimal, true⟩).convert (.int (-2 ^ 63)) =
    .error (.inexact (-2 ^ 63) "n" .decimal) := by rfl

end Column
end MetricsView
