import MetricsView.Proofs.Row.Shaping
import MetricsView.Proofs.Row.Conversion

/-! # Integers and the width of their column

Types of integers differ in width and sign, but the conversion of a cell looks at neither. So an
integer is reported as the executor has it, and one that its column can not hold is reported just
where the executor has one. -/
namespace MetricsView

/-- The integers of so many bits, with or without a sign. -/
structure Width where
  signed : Bool
  bits : Nat
  deriving DecidableEq, Repr

namespace Width

/-- The least integer of the width. -/
def least (w : Width) : Int := if w.signed then -2 ^ (w.bits - 1) else 0

/-- The first integer that is too large. -/
def limit (w : Width) : Int := if w.signed then 2 ^ (w.bits - 1) else 2 ^ w.bits

def Holds (w : Width) (i : Int) : Prop := w.least ≤ i ∧ i < w.limit

instance (w : Width) (i : Int) : Decidable (w.Holds i) := inferInstanceAs (Decidable (_ ∧ _))

/-- The integers that an executor can have. -/
def word : Width := ⟨true, 64⟩

/-- It is enough to look at both ends. -/
theorem forall_holds_iff {v w : Width} (hv : v.least < v.limit) :
    (∀ i, v.Holds i → w.Holds i) ↔ w.least ≤ v.least ∧ v.limit ≤ w.limit := by
  constructor
  · intro h
    have hfirst := (h v.least ⟨le_refl _, hv⟩).1
    have hlast := (h (v.limit - 1) ⟨by omega, by omega⟩).2
    exact ⟨hfirst, by omega⟩
  · rintro ⟨hleast, hlimit⟩ i ⟨hlower, hupper⟩
    exact ⟨hleast.trans hlower, hupper.trans_le hlimit⟩

end Width

namespace TypeCode

/-- The width of a type of integers. -/
def width? : TypeCode → Option Width
  | int8 => some ⟨true, 8⟩
  | int16 => some ⟨true, 16⟩
  | int32 => some ⟨true, 32⟩
  | int64 => some ⟨true, 64⟩
  | int128 => some ⟨true, 128⟩
  | uint8 => some ⟨false, 8⟩
  | uint16 => some ⟨false, 16⟩
  | uint32 => some ⟨false, 32⟩
  | uint64 => some ⟨false, 64⟩
  | uint128 => some ⟨false, 128⟩
  | _ => none

theorem isInteger_iff {code : TypeCode} : code.isInteger ↔ ∃ w, code.width? = some w := by
  cases code <;> simp [isInteger, width?]

theorem isInteger_of_width? {code : TypeCode} {w : Width} (h : code.width? = some w) :
    code.isInteger :=
  isInteger_iff.2 ⟨w, h⟩

/-- All other types are too narrow, or have no sign. -/
theorem forall_word_holds_iff {code : TypeCode} {w : Width} (h : code.width? = some w) :
    (∀ i, Width.word.Holds i → w.Holds i) ↔ code = .int64 ∨ code = .int128 := by
  rw [Width.forall_holds_iff (by decide)]
  cases code <;> cases h <;> decide

end TypeCode

/-- If the value is an integer, the width holds it. -/
def Scalar.Within (w : Width) (v : Scalar) : Prop := ∀ i, v = .int i → w.Holds i

def Datum.Within (w : Width) (d : Datum) : Prop := ∀ i, d = .int i → w.Holds i

namespace Column

variable {c : Column} {v : Scalar} {d : Datum} {w : Width}

/-- Under a column of integers nothing else becomes an integer, and no integer becomes another. -/
theorem Converts.eq_int_iff (h : c.Converts v d) (hcode : c.type.code.isInteger) (i : Int) :
    d = .int i ↔ v = .int i := by
  constructor
  · rintro rfl
    obtain ⟨j, hv, hj⟩ := h.exists_int hcode Datum.noConfusion
    rw [hv, Datum.int.inj hj]
  · rintro rfl
    cases h with
    | int => rfl
    | truth hbool => exact absurd hbool (TypeCode.ne_bool_of_integer (.inl hcode))
    | exact hfloat => exact absurd hfloat (TypeCode.not_isFloat_of_integer (.inl hcode))

private theorem Converts.within_iff (h : c.Converts v d) (hcode : c.type.code.isInteger) :
    d.Within w ↔ v.Within w := by
  simp only [Datum.Within, Scalar.Within, h.eq_int_iff hcode]

theorem convert_int_of_width? (h : c.type.code.width? = some w) (i : Int) :
    c.convert (.int i) = .ok (.int i) :=
  (Converts.int (.inl (TypeCode.isInteger_of_width? h))).convert

/-- What is made of an integer is within the width just if the integer is. So a column is safe from
the executor only if it holds all words. -/
theorem forall_convert_within_iff (h : c.type.code.width? = some w) :
    (∀ i d, Width.word.Holds i → c.convert (.int i) = .ok d → d.Within w) ↔
      c.type.code = .int64 ∨ c.type.code = .int128 := by
  rw [← TypeCode.forall_word_holds_iff h]
  constructor
  · intro hall i hi
    exact hall i _ hi (convert_int_of_width? h i) i rfl
  · rintro hall i d hi hd j rfl
    rw [convert_int_of_width? h] at hd
    obtain rfl := Datum.int.inj (Except.ok.inj hd)
    exact hall i hi

end Column

/-- Under each column of integers the row has the integers of the executor, and so an integer beyond
the width of the column where the executor has one. -/
def Row.IntegersFrom (s : Schema) (values : List Scalar) (row : Row) : Prop :=
  ∀ c v w, (c, v) ∈ s.columns.zip values → c.type.code.width? = some w →
    ∃ d, row.get? c.name = some d ∧ (∀ i, d = .int i ↔ v = .int i) ∧ (d.Within w ↔ v.Within w)

namespace ResultSet

private theorem Shapes.integersFrom {s : Schema} {values : List Scalar} {row : Row}
    (h : Shapes s values row) (hnames : (s.columns.map Column.name).Nodup) :
    row.IntegersFrom s values := by
  intro c v w hcell hw
  obtain ⟨d, hd, hrow⟩ := h.get?_eq hnames hcell
  have hconverts := Column.convert_eq_ok_iff.1 hd
  have hcode := TypeCode.isInteger_of_width? hw
  exact ⟨d, hrow, hconverts.eq_int_iff hcode, hconverts.within_iff hcode⟩

/-- In a result that is shaped, the integer under a column is within the width of the column just if
the integer of the executor is. None fails for being beyond it, so only the columns whose width
holds all words never report one that is. -/
theorem integers_within_iff (schema : Schema)
    (hnames : (schema.columns.map Column.name).Nodup) :
    (∀ (values : List (List Scalar)) (rows : List Row),
      (ResultSet.mk schema values).shape = .ok rows →
        List.Forall₂ (Row.IntegersFrom schema) values rows) ∧
    ∀ c ∈ schema.columns, ∀ w, c.type.code.width? = some w →
      (∀ i, c.convert (.int i) = .ok (.int i)) ∧
      ((∀ i d, Width.word.Holds i → c.convert (.int i) = .ok d → d.Within w) ↔
        c.type.code = .int64 ∨ c.type.code = .int128) := by
  refine ⟨fun values rows h => ?_, fun c _ w hw => ?_⟩
  · exact (shape_eq_ok_iff.1 h).imp fun _ _ hrow => hrow.integersFrom hnames
  · exact ⟨Column.convert_int_of_width? hw, Column.forall_convert_within_iff hw⟩

/-- An integer that is too large for its column, and one below all those of its column. -/
def beyondWidth : ResultSet where
  schema := ⟨[⟨"n", .int8, false⟩, ⟨"m", .uint64, false⟩]⟩
  rows := [[.int 300, .int (-1)]]

theorem shape_beyondWidth :
    beyondWidth.shape = .ok [⟨[("n", .int 300), ("m", .int (-1))]⟩] := by rfl

theorem integers_within_iff_sample : (beyondWidth.schema.columns.map Column.name).Nodup ∧
    beyondWidth.shape = .ok [⟨[("n", .int 300), ("m", .int (-1))]⟩] ∧
    List.Forall₂ (Row.IntegersFrom beyondWidth.schema) beyondWidth.rows
      [⟨[("n", .int 300), ("m", .int (-1))]⟩] ∧
    (⟨"n", .int8, false⟩ : Column) ∈ beyondWidth.schema.columns ∧
    TypeCode.int8.width? = some ⟨true, 8⟩ ∧
    ∀ i, (⟨"n", .int8, false⟩ : Column).convert (.int i) = .ok (.int i) := by
  have hnames : (beyondWidth.schema.columns.map Column.name).Nodup := by decide
  have hcolumn : (⟨"n", .int8, false⟩ : Column) ∈ beyondWidth.schema.columns := by decide
  obtain ⟨hshaped, hcolumns⟩ := integers_within_iff beyondWidth.schema hnames
  exact ⟨hnames, shape_beyondWidth, hshaped _ _ shape_beyondWidth, hcolumn, rfl,
    (hcolumns _ hcolumn _ rfl).1⟩

/-- Neither integer is one of its column, but the result is shaped, and both are reported. -/
theorem reports_beyond_width : (beyondWidth.schema.columns.map Column.name).Nodup ∧
    (∃ row, beyondWidth.shape = .ok [row] ∧ row.get? "n" = some (.int 300) ∧
      row.get? "m" = some (.int (-1))) ∧
    (beyondWidth.schema.columns.map fun c => c.type.code.width?) =
      [some ⟨true, 8⟩, some ⟨false, 64⟩] ∧
    Width.word.Holds 300 ∧ Width.word.Holds (-1) ∧
    ¬ Width.Holds ⟨true, 8⟩ 300 ∧ ¬ Width.Holds ⟨false, 64⟩ (-1) := by
  refine ⟨by decide, ⟨_, shape_beyondWidth, rfl, rfl⟩, rfl, ?_⟩
  decide

end ResultSet
end MetricsView
