import Mathlib.Data.List.Induction
import Mathlib.Data.List.Nodup
import MetricsView.Proofs.Traversal
import MetricsView.Row

/-! # What a response holds

The rows of the executor are shaped in order, and the cells of each from left to right. Each value
goes under the name of its column, and where a name occurs again, the later value stands. The first
fault ends it, and without one there is a whole row for each row. -/
namespace MetricsView

open Traversal

namespace Row

variable {name : String} {d : Datum}

private theorem find?_insertInto (cells : List (String × Datum)) (name : String) (d : Datum)
    (n : String) : (insertInto name d cells).find? (fun c => c.1 = n) =
      if n = name then some (name, d) else cells.find? fun c => c.1 = n := by
  induction cells with
  | nil =>
    by_cases hn : n = name
    · simp [insertInto, hn]
    · simp [insertInto, hn, Ne.symm hn]
  | cons c cs ih =>
    by_cases hc : c.1 = name
    · by_cases hn : n = name
      · simp [insertInto, hc, hn]
      · simp [insertInto, hc, hn, Ne.symm hn]
    · by_cases hn : c.1 = n
      · have hne : n ≠ name := fun h => hc (hn.trans h)
        simp [insertInto, hn, hne]
      · simp [insertInto, hc, hn, ih]

theorem get?_insert (r : Row) (name : String) (d : Datum) (n : String) :
    (r.insert name d).get? n = if n = name then some d else r.get? n := by
  rw [get?, insert, find?_insertInto]
  split <;> rfl

/-- The row with some cells put in, one after the other. -/
def fill (r : Row) (cells : List (String × Datum)) : Row :=
  cells.foldl (fun r c => r.insert c.1 c.2) r

private theorem get?_fill_of_notMem (r : Row) {cells : List (String × Datum)} {n : String}
    (h : n ∉ cells.map Prod.fst) : (r.fill cells).get? n = r.get? n := by
  induction cells generalizing r with
  | nil => rfl
  | cons c cs ih =>
    obtain ⟨hc, hcs⟩ := not_or.1 (mt List.mem_cons.2 h)
    rw [fill, List.foldl_cons]
    exact (ih _ hcs).trans ((get?_insert r c.1 c.2 n).trans (if_neg hc))

/-- The last cell of a name stands. -/
theorem get?_fill (r : Row) (before after : List (String × Datum))
    (h : name ∉ after.map Prod.fst) :
    (r.fill (before ++ (name, d) :: after)).get? name = some d := by
  rw [fill, List.foldl_append, List.foldl_cons]
  refine (get?_fill_of_notMem _ h).trans ?_
  rw [get?_insert, if_pos rfl]

private theorem get?_fill_of_nodup (r : Row) {cells : List (String × Datum)}
    (hnames : (cells.map Prod.fst).Nodup) (h : (name, d) ∈ cells) :
    (r.fill cells).get? name = some d := by
  obtain ⟨before, after, rfl⟩ := List.append_of_mem h
  rw [List.map_append, List.map_cons, List.nodup_append] at hnames
  exact r.get?_fill before after (List.nodup_cons.1 hnames.2.1).1

private theorem insertInto_of_mem {cells : List (String × Datum)} (h : name ∈ cells.map Prod.fst) :
    (insertInto name d cells).map Prod.fst = cells.map Prod.fst := by
  induction cells with
  | nil => cases h
  | cons c cs ih =>
    by_cases hc : c.1 = name
    · rw [insertInto, if_pos hc, List.map_cons, List.map_cons, hc]
    · rw [insertInto, if_neg hc, List.map_cons, List.map_cons]
      rw [ih ((List.mem_cons.1 h).resolve_left (Ne.symm hc))]

theorem insertInto_of_notMem {cells : List (String × Datum)} (h : name ∉ cells.map Prod.fst) :
    insertInto name d cells = cells ++ [(name, d)] := by
  induction cells with
  | nil => rfl
  | cons c cs ih =>
    obtain ⟨hc, hcs⟩ := not_or.1 (mt List.mem_cons.2 h)
    rw [insertInto, if_neg (Ne.symm hc), ih hcs, List.cons_append]

theorem names_insert (r : Row) (name : String) (d : Datum) : (r.insert name d).names =
    if name ∈ r.names then r.names else r.names ++ [name] := by
  split
  · next h => exact insertInto_of_mem h
  · next h => rw [names, insert, insertInto_of_notMem h, List.map_append]; rfl

theorem fill_concat (r : Row) (cells : List (String × Datum)) (c : String × Datum) :
    r.fill (cells ++ [c]) = (r.fill cells).insert c.1 c.2 := by
  rw [fill, List.foldl_append]
  rfl

/-- A name stands where it first occurred. -/
theorem names_fill (cells : List (String × Datum)) :
    (Row.empty.fill cells).names = (cells.map Prod.fst).eraseDups := by
  induction cells using List.reverseRecOn with
  | nil => rfl
  | append_singleton cells c ih =>
    rw [fill_concat, names_insert, ih, List.map_append, List.map_singleton, List.eraseDups_append]
    by_cases hc : c.1 ∈ cells.map Prod.fst
    · simp [List.removeAll, hc]
    · simp [List.removeAll, hc, List.eraseDups_cons]

theorem nodup_names_fill (cells : List (String × Datum)) : (Row.empty.fill cells).names.Nodup := by
  induction cells using List.reverseRecOn with
  | nil => exact List.nodup_nil
  | append_singleton cells c ih =>
    rw [fill_concat, names_insert]
    split
    · exact ih
    · next hc => exact List.concat_eq_append ▸ ih.concat hc

/-- Nothing is replaced where no name occurs twice. -/
theorem cells_fill_of_nodup {cells : List (String × Datum)} (h : (cells.map Prod.fst).Nodup) :
    (Row.empty.fill cells).cells = cells := by
  induction cells using List.reverseRecOn with
  | nil => rfl
  | append_singleton cells c ih =>
    rw [List.map_append, List.map_singleton, ← List.concat_eq_append, List.nodup_concat] at h
    have hcells := ih h.2
    rw [fill_concat, insert, insertInto_of_notMem (by rw [hcells]; exact h.1), hcells]

end Row

namespace ResultSet

theorem shapeCells_eq_ok_iff {row row' : Row} {cells : List (Column × Scalar)} :
    shapeCells row cells = .ok row' ↔
      ∃ ds, List.Forall₂ (fun (cell : Column × Scalar) d => cell.1.convert cell.2 = .ok d) cells ds ∧
        row' = row.fill ((cells.map fun cell => cell.1.name).zip ds) := by
  induction cells generalizing row with
  | nil => simp [shapeCells, Row.fill, eq_comm]
  | cons cell cells ih =>
    obtain ⟨c, v⟩ := cell
    rw [shapeCells, bind_eq_ok_iff]
    constructor
    · rintro ⟨d, hd, h⟩
      obtain ⟨ds, hds, rfl⟩ := ih.1 h
      exact ⟨d :: ds, .cons hd hds, rfl⟩
    · rintro ⟨_, _ | ⟨hd, hds⟩, rfl⟩
      exact ⟨_, hd, ih.2 ⟨_, hds, rfl⟩⟩

/-- The names of the columns, each with its cell. -/
theorem map_name_zip {s : Schema} {values : List Scalar} (hwidth : values.length = s.size) :
    (s.columns.zip values).map (fun cell => cell.1.name) = s.columns.map Column.name := by
  have hcolumns : (s.columns.zip values).map Prod.fst = s.columns :=
    List.map_fst_zip (Nat.le_of_eq hwidth.symm)
  conv_rhs => rw [← hcolumns, List.map_map]
  rfl

/-- The row holds the conversions of the values, each under the name of its column. -/
structure Shapes (s : Schema) (values : List Scalar) (row : Row) : Prop where
  width : values.length = s.size
  cells : ∃ ds, List.Forall₂ (fun (cell : Column × Scalar) d => cell.1.convert cell.2 = .ok d)
    (s.columns.zip values) ds ∧ row = Row.empty.fill ((s.columns.map Column.name).zip ds)

theorem shapeRow_eq_ok_iff {s : Schema} {index : Nat} {values : List Scalar} {row : Row} :
    shapeRow s index values = .ok row ↔ Shapes s values row := by
  unfold shapeRow
  by_cases hwidth : values.length = s.size
  · rw [if_neg (by simpa using hwidth), shapeCells_eq_ok_iff, map_name_zip hwidth]
    exact ⟨fun h => ⟨hwidth, h⟩, fun h => h.cells⟩
  · rw [if_pos hwidth]
    constructor
    · rintro ⟨⟩
    · exact fun h => absurd h.width hwidth

/-- Every row of the executor becomes a row of the response, in the same place. -/
theorem shape_eq_ok_iff {r : ResultSet} {rows : List Row} :
    r.shape = .ok rows ↔ List.Forall₂ (Shapes r.schema) r.rows rows := by
  rw [shape, mapM_eq_ok_iff]
  simp only [shapeRow_eq_ok_iff]
  conv_rhs => rw [← List.zipIdx_map_fst 0 r.rows, List.forall₂_map_left_iff]

theorem Shapes.get?_eq {s : Schema} {values : List Scalar} {row : Row} (h : Shapes s values row)
    (hnames : (s.columns.map Column.name).Nodup) {c : Column} {v : Scalar}
    (hcell : (c, v) ∈ s.columns.zip values) :
    ∃ d, c.convert v = .ok d ∧ row.get? c.name = some d := by
  obtain ⟨ds, hds, rfl⟩ := h.cells
  obtain ⟨d, hzip, hd⟩ := exists_zip_of_mem hds hcell
  have hlength : (s.columns.map Column.name).length ≤ ds.length := by
    rw [← map_name_zip h.width, List.length_map]
    exact Nat.le_of_eq hds.length_eq
  refine ⟨d, hd, Row.empty.get?_fill_of_nodup ?_ ?_⟩
  · rwa [List.map_fst_zip hlength]
  · rw [← map_name_zip h.width, List.zip_map_left]
    exact List.mem_map.2 ⟨_, hzip, rfl⟩

open Traversal

variable {s : Schema} {values : List Scalar} {row : Row}

/-- What a cell becomes, under the name of its column. -/
def Becomes (cell : Column × Scalar) (out : String × Datum) : Prop :=
  out.1 = cell.1.name ∧ cell.1.convert cell.2 = .ok out.2

private theorem becomes_zip {cells : List (Column × Scalar)} {ds : List Datum}
    (h : List.Forall₂ (fun (cell : Column × Scalar) d => cell.1.convert cell.2 = .ok d) cells ds) :
    List.Forall₂ Becomes cells ((cells.map fun cell => cell.1.name).zip ds) := by
  induction h with
  | nil => exact .nil
  | cons hd _ ih => exact .cons ⟨rfl, hd⟩ ih

theorem map_fst_of_becomes {cells : List (Column × Scalar)} {outs : List (String × Datum)}
    (h : List.Forall₂ Becomes cells outs) :
    outs.map Prod.fst = cells.map fun cell => cell.1.name := by
  induction h with
  | nil => rfl
  | cons hout _ ih => rw [List.map_cons, List.map_cons, hout.1, ih]

private theorem Shapes.exists_fill (h : Shapes s values row) :
    ∃ outs, List.Forall₂ Becomes (s.columns.zip values) outs ∧ row = Row.empty.fill outs ∧
      outs.map Prod.fst = s.columns.map Column.name := by
  obtain ⟨ds, hds, rfl⟩ := h.cells
  have houts := becomes_zip hds
  rw [map_name_zip h.width] at houts
  exact ⟨_, houts, rfl, (map_fst_of_becomes houts).trans (map_name_zip h.width)⟩

/-- The row has the names of the columns, each once, where it first occurs, and under each name what
became of the last cell of this name. -/
structure Whole (s : Schema) (values : List Scalar) (row : Row) : Prop where
  names : row.names = (s.columns.map Column.name).eraseDups
  nodup : row.names.Nodup
  last : ∀ before c v after, s.columns.zip values = before ++ (c, v) :: after →
    (∀ cell ∈ after, cell.1.name ≠ c.name) →
      ∃ d, c.convert v = .ok d ∧ row.get? c.name = some d
  /-- If no name occurs twice, the row has the names as they are reported, and its cells are the
  cells one by one. -/
  cells : (s.columns.map Column.name).Nodup → row.names = s.info.map ColumnMeta.name ∧
    List.Forall₂ Becomes (s.columns.zip values) row.cells

private theorem map_name_info (s : Schema) :
    s.info.map ColumnMeta.name = s.columns.map Column.name :=
  List.map_map

theorem Shapes.whole (h : Shapes s values row) : Whole s values row := by
  obtain ⟨outs, houts, rfl, hnames⟩ := h.exists_fill
  refine ⟨hnames ▸ Row.names_fill outs, Row.nodup_names_fill outs, ?_, fun hnodup => ?_⟩
  · intro before c v after hsplit hlast
    rw [hsplit] at houts
    obtain ⟨outs₁, outs₂, rfl, -, houts₂⟩ := exists_append_of_forall₂ houts
    obtain ⟨⟨name, d⟩, outs₃, ⟨rfl, hd⟩, houts₃, rfl⟩ := List.forall₂_cons_left_iff.1 houts₂
    refine ⟨d, hd, Row.empty.get?_fill outs₁ outs₃ ?_⟩
    rw [map_fst_of_becomes houts₃]
    intro hmem
    obtain ⟨cell, hcell, hsame⟩ := List.mem_map.1 hmem
    exact hlast cell hcell hsame
  · rw [← hnames] at hnodup
    have hcells := Row.cells_fill_of_nodup hnodup
    refine ⟨?_, hcells.symm ▸ houts⟩
    rw [map_name_info, ← hnames, Row.names, hcells]

/-- The row has a value for each column, and each column takes its own. -/
structure Fits (s : Schema) (values : List Scalar) : Prop where
  width : values.length = s.size
  cells : ∀ cell ∈ s.columns.zip values, ∃ d, cell.1.convert cell.2 = .ok d

theorem exists_shapeRow_iff {index : Nat} :
    (∃ row, shapeRow s index values = .ok row) ↔ Fits s values := by
  simp only [shapeRow_eq_ok_iff]
  constructor
  · rintro ⟨row, hwidth, ds, hds, -⟩
    refine ⟨hwidth, fun cell hcell => ?_⟩
    obtain ⟨d, -, hd⟩ := exists_zip_of_mem hds hcell
    exact ⟨d, hd⟩
  · rintro ⟨hwidth, hcells⟩
    obtain ⟨ds, hds⟩ := exists_forall₂ hcells
    exact ⟨_, hwidth, ds, hds, rfl⟩

/-- What the row with this index fails with. Its width counts before any cell, and then the
leftmost cell that its column does not take. -/
inductive RowFault (s : Schema) (index : Nat) (values : List Scalar) : ConversionError → Prop where
  | width (h : values.length ≠ s.size) :
      RowFault s index values (.width index values.length s.size)
  | cell {before c v after e} (hwidth : values.length = s.size)
      (hcells : s.columns.zip values = before ++ (c, v) :: after)
      (hbefore : ∀ cell ∈ before, ∃ d, cell.1.convert cell.2 = .ok d)
      (hcell : c.convert v = .error e) : RowFault s index values e

/-- What is put in already does not matter to the cells to come. -/
theorem shapeCells_eq_error_iff {cells : List (Column × Scalar)} {e : ConversionError} :
    shapeCells row cells = .error e ↔
      cells.findSome? (fun cell => fault? (cell.1.convert cell.2)) = some e := by
  induction cells generalizing row with
  | nil => simp [shapeCells]
  | cons cell cells ih =>
    obtain ⟨c, v⟩ := cell
    rw [shapeCells, List.findSome?_cons, bind_eq_error_iff]
    simp only [ih]
    cases c.convert v <;> simp [fault?]

theorem shapeRow_eq_error_iff {index : Nat} {e : ConversionError} :
    shapeRow s index values = .error e ↔ RowFault s index values e := by
  unfold shapeRow
  by_cases hwidth : values.length = s.size
  · rw [if_neg (not_not_intro hwidth), shapeCells_eq_error_iff, findSome?_fault?_eq_some_iff]
    constructor
    · rintro ⟨before, ⟨c, v⟩, after, hcells, hbefore, hcell⟩
      exact .cell hwidth hcells hbefore hcell
    · rintro (hne | ⟨-, hcells, hbefore, hcell⟩)
      · exact absurd hwidth hne
      · exact ⟨_, _, _, hcells, hbefore, hcell⟩
  · rw [if_pos hwidth]
    constructor
    · rintro ⟨⟩
      exact .width hwidth
    · rintro (- | ⟨heq, -, -, -⟩)
      · rfl
      · exact absurd heq hwidth

/-- What holds of the rows holds of them with their indices. -/
theorem forall_mem_zipIdx_iff {rows : List (List Scalar)} {p : List Scalar → Prop} :
    (∀ x ∈ rows.zipIdx, p x.1) ↔ ∀ values ∈ rows, p values := by
  conv_rhs => rw [← List.zipIdx_map_fst 0 rows, List.forall_mem_map]

theorem exists_shape_iff {r : ResultSet} :
    (∃ rows, r.shape = .ok rows) ↔ ∀ values ∈ r.rows, Fits r.schema values := by
  simp only [shape, exists_mapM_eq_ok_iff, exists_shapeRow_iff, forall_mem_zipIdx_iff]

/-- The first row that something is wrong with has this fault. -/
def Faulty (r : ResultSet) (e : ConversionError) : Prop :=
  ∃ before values after, r.rows = before ++ values :: after ∧ (∀ w ∈ before, Fits r.schema w) ∧
    RowFault r.schema before.length values e

theorem shape_eq_error_iff {r : ResultSet} {e : ConversionError} :
    r.shape = .error e ↔ r.Faulty e := by
  rw [shape, mapM_eq_error_iff, findSome?_fault?_eq_some_iff]
  simp only [exists_shapeRow_iff, shapeRow_eq_error_iff]
  constructor
  · rintro ⟨_, ⟨values, index⟩, _, hsplit, hbefore, hfault⟩
    obtain ⟨before, _, hrows, rfl, hrest⟩ := List.zipIdx_eq_append_iff.1 hsplit
    obtain ⟨_, after, rfl, hhead, -⟩ := List.zipIdx_eq_cons_iff.1 hrest.symm
    obtain ⟨rfl, rfl⟩ := Prod.mk.inj hhead
    rw [Nat.zero_add] at hfault
    exact ⟨before, _, after, hrows, forall_mem_zipIdx_iff.1 hbefore, hfault⟩
  · rintro ⟨before, values, after, hrows, hbefore, hfault⟩
    refine ⟨before.zipIdx, (values, before.length), after.zipIdx (before.length + 1), ?_,
      forall_mem_zipIdx_iff.2 hbefore, hfault⟩
    rw [hrows, List.zipIdx_append, List.zipIdx_cons, Nat.zero_add]

/-- There is a whole row for each row, or no row at all and the first fault instead. -/
structure AllOrNothing (r : ResultSet) : Prop where
  ok_iff : (∃ rows, r.shape = .ok rows) ↔ ∀ values ∈ r.rows, Fits r.schema values
  whole : ∀ rows, r.shape = .ok rows → List.Forall₂ (Whole r.schema) r.rows rows
  error_iff : ∀ e, r.shape = .error e ↔ r.Faulty e

/-- A result is shaped if all its rows fit its schema. Then each becomes a whole row, and otherwise
the first that does not fit says what is wrong. -/
theorem shape_allOrNothing (r : ResultSet) : r.AllOrNothing where
  ok_iff := exists_shape_iff
  whole _ h := (shape_eq_ok_iff.1 h).imp fun _ _ hrow => hrow.whole
  error_iff _ := shape_eq_error_iff

/-- The later of two cells of one name stands, at the place of the first. -/
example : (ResultSet.mk ⟨[⟨"a", .int64, true⟩, ⟨"b", .int64, true⟩, ⟨"a", .string, true⟩]⟩
    [[.int 1, .null, .string "x"]]).shape = .ok [⟨[("a", .string "x"), ("b", .null)]⟩] := by rfl

/-- The second row is too short, so the cell in it that its column does not take is not reached. -/
example : (ResultSet.mk ⟨[⟨"a", .int64, true⟩, ⟨"b", .int64, true⟩]⟩
    [[.int 1, .null], [.string "x"]]).shape = .error (.width 1 1 2) := by rfl

end ResultSet
end MetricsView
