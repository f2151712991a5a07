import MetricsView.Json.Reader
import MetricsView.Proofs.Json.RoundTrip
import MetricsView.Proofs.Text
import MetricsView.Proofs.Traversal
import MetricsView.Schema

/-! # Schemas survive their blobs

Records, lists and choices are taken back from what is written for them, and so are schemas. -/
namespace MetricsView

theorem Literal.toInt?_ofInt (i : Int) : (Literal.ofInt i).toInt? = some i := by
  have hwhole : (ofInt i).toInt? = if decide (i < 0) then
      if i.natAbs = 0 then none else some (-(i.natAbs : Int)) else some (i.natAbs : Int) := rfl
  rw [hwhole]
  by_cases hi : i < 0
  · have hne : i.natAbs ≠ 0 := by omega
    have habs : -(i.natAbs : Int) = i := by omega
    rw [if_pos (decide_eq_true hi), if_neg hne, habs]
  · have habs : (i.natAbs : Int) = i := by omega
    rw [if_neg (by simpa using hi), habs]

namespace Json

open Traversal

variable {name : String} {v : Json} {members : List (String × Json)}

/-- The members of an object whose names are all text. -/
def labelled (members : List (String × Json)) : List (Option String × Json) :=
  members.map fun m => (some m.1, m.2)

private theorem valuesOf_eq_nil (h : name ∉ members.map Prod.fst) :
    valuesOf (labelled members) name = [] := by
  rw [valuesOf, labelled, List.filterMap_map, List.filterMap_eq_nil_iff]
  intro m hm
  refine if_neg fun heq => h ?_
  rw [← Option.some.inj heq]
  exact List.mem_map_of_mem hm

private theorem valuesOf_of_mem (hnodup : (members.map Prod.fst).Nodup) (h : (name, v) ∈ members) :
    valuesOf (labelled members) name = [v] := by
  induction members with
  | nil => cases h
  | cons m members ih =>
    obtain ⟨hfresh, hrest⟩ := List.nodup_cons.1 hnodup
    rcases List.mem_cons.1 h with rfl | h
    · have hnone := valuesOf_eq_nil hfresh
      rw [valuesOf] at hnone
      simpa [labelled, valuesOf] using hnone
    · have hother : m.1 ≠ name := by
        rintro rfl
        exact hfresh (List.mem_map.2 ⟨_, h, rfl⟩)
      have hvalues := ih hrest h
      rw [valuesOf] at hvalues
      simpa [labelled, valuesOf, hother] using hvalues

/-- A record with distinct names is taken apart into its values. -/
theorem fields?_record (h : (members.map Prod.fst).Nodup) :
    fields? (members.map Prod.fst) (record members) = some (members.map fun m => some m.2) := by
  have htext : (labelled members).all fun m => m.1.isSome := by simp [labelled]
  have hmembers : members.mapM (fun m => member? (labelled members) m.1) =
      some (members.map fun m => some m.2) := by
    refine mapM_eq_pure fun m hm => ?_
    rw [member?, valuesOf_of_mem h hm]
    rfl
  change (if (labelled members).all fun m => m.1.isSome then
    (members.map Prod.fst).mapM (member? (labelled members)) else none) = _
  rw [if_pos htext, List.mapM_map]
  exact hmembers

theorem list?_list {α : Type} {f : Json → Option α} {g : α → Json} {as : List α}
    (h : ∀ a ∈ as, f (g a) = some a) : list? f (list g as) = some as := by
  have hmap : (as.map g).mapM f = some (as.map id) := by
    rw [List.mapM_map]
    exact mapM_eq_pure h
  rw [list, list?, hmap, List.map_id]

theorem string?_text (s : String) : string? (text s) = some s := rfl

theorem option?_option {α : Type} {f : Json → Option α} {g : α → Json} {o : Option α}
    (hnull : ∀ a ∈ o, g a ≠ .null) (h : ∀ a ∈ o, f (g a) = some a) :
    option? f (option g o) = some o := by
  cases o with
  | none => rfl
  | some a =>
    rw [option, option?, h a rfl]
    · rfl
    · exact hnull a rfl

/-- A name stands for the one value that has it. -/
theorem choice?_text {α : Type} {table : List (String × α)} {a : α}
    (hnodup : (table.map Prod.fst).Nodup) (h : (name, a) ∈ table) :
    choice? table (.text name) = some a := by
  have hfind : table.find? (fun n => n.1 = name) = some (name, a) := by
    induction table with
    | nil => cases h
    | cons n table ih =>
      obtain ⟨hfresh, hrest⟩ := List.nodup_cons.1 hnodup
      rcases List.mem_cons.1 h with rfl | h
      · simp
      · have hother : n.1 ≠ name := by
          rintro rfl
          exact hfresh (List.mem_map.2 ⟨_, h, rfl⟩)
        rw [List.find?_cons_of_neg (by simpa using hother)]
        exact ih hrest h
  change (table.find? fun n => n.1 = name).map Prod.snd = some a
  rw [hfind]
  rfl

end Json

open Json (fields?_record list?_list choice?_text)
open Text (Octets)

theorem TypeCode.ofJson?_toJson (c : TypeCode) : ofJson? c.toJson = some c := by
  refine choice?_text ?_ (List.mem_map.2 ⟨c, c.mem_all, rfl⟩)
  decide

theorem TypeCode.name_injective : Function.Injective TypeCode.name := by
  intro c c' h
  have hjson : c.toJson = c'.toJson := congrArg Json.text h
  exact Option.some.inj (by rw [← ofJson?_toJson c, hjson, ofJson?_toJson])

theorem ColumnType.ofJson?_toJson (t : ColumnType) : ofJson? t.toJson = some t := by
  have hfields : t.toJson.fields? ["code", "nullable"] =
      some [some t.code.toJson, some (.bool t.nullable)] := fields?_record (by simp)
  simp [ofJson?, hfields, Json.required?, TypeCode.ofJson?_toJson, Json.bool?]

theorem Column.ofJson?_toJson (c : Column) : ofJson? c.toJson = some c := by
  have hfields : c.toJson.fields? ["name", "type"] =
      some [some (.text c.name), some c.type.toJson] := fields?_record (by simp)
  simp [ofJson?, hfields, Json.required?, ColumnType.ofJson?_toJson, Json.string?, Json.text]

theorem Schema.ofJson?_toJson (s : Schema) : ofJson? s.toJson = some s := by
  have hfields : s.toJson.fields? ["fields"] = some [some (.list Column.toJson s.columns)] :=
    fields?_record (by simp)
  have hcolumns : Json.list? Column.ofJson? (.list Column.toJson s.columns) = some s.columns :=
    list?_list fun c _ => Column.ofJson?_toJson c
  simp [ofJson?, hfields, Json.required?, hcolumns]

/-- What an answer tells of a column, it tells of no other. -/
theorem Column.info_injective : Function.Injective Column.info := by
  rintro ⟨name, code, nullable⟩ ⟨name', code', nullable'⟩ h
  simp only [Column.info, ColumnMeta.mk.injEq, TypeCode.canonicalName, String.append_right_inj] at h
  obtain ⟨rfl, hcode, rfl⟩ := h
  obtain rfl := TypeCode.name_injective hcode
  rfl

theorem Schema.info_injective : Function.Injective Schema.info := by
  rintro ⟨columns⟩ ⟨columns'⟩ h
  obtain rfl := Column.info_injective.list_map h
  rfl

namespace Codec

/-- What is encoded comes back, and so does what was decoded and is encoded again. -/
structure RoundTrips (codec : Codec) : Prop where
  present : ∀ s, ∃ blob, codec.encode (some s) = .ok (some blob) ∧ blob ≠ [] ∧
    codec.decode (some blob) = .ok (some s)
  absent : codec.encode none = .ok none
  missing : codec.decode none = .ok none
  empty : codec.decode (some []) = .ok none
  again : ∀ blob s, codec.decode blob = .ok (some s) →
    ∃ blob', codec.encode (some s) = .ok blob' ∧ codec.decode blob' = .ok (some s)

/-- Schemas present and absent alike have a blob from which they come back. -/
theorem RoundTrips.exists_blob {codec : Codec} (h : codec.RoundTrips) (s : Option Schema) :
    ∃ blob, codec.encode s = .ok blob ∧ codec.decode blob = .ok s := by
  cases s with
  | none => exact ⟨none, h.absent, h.missing⟩
  | some s =>
    obtain ⟨blob, hencode, -, hdecode⟩ := h.present s
    exact ⟨some blob, hencode, hdecode⟩

theorem ofOctets?_utf8 (v : Json) : Json.ofOctets? (Text.utf8 v.compact) = some v := by
  rw [Json.ofOctets?, Text.characters_utf8]
  exact Json.ofSource?_compact v

private theorem utf8_compact_ne_nil (v : Json) : Text.utf8 v.compact ≠ [] := by
  intro h
  obtain ⟨c, cs, htext, -⟩ := Json.exists_spell .none 0 v
  have hcharacters := Text.characters_utf8 v.compact
  rw [h, Json.compact, htext, Text.characters] at hcharacters
  cases hcharacters

private theorem json_decode_of_ne_nil {blob : Octets} {s : Schema} (h : blob ≠ [])
    (hs : (Json.ofOctets? blob).bind Schema.ofJson? = some s) :
    json.decode (some blob) = .ok (some s) := by
  cases blob with
  | nil => exact absurd rfl h
  | cons b bs =>
    simp only [json, hs]

theorem json_roundTrips : json.RoundTrips := by
  have hpresent (s : Schema) : ∃ blob, json.encode (some s) = .ok (some blob) ∧ blob ≠ [] ∧
      json.decode (some blob) = .ok (some s) := by
    have hne := utf8_compact_ne_nil s.toJson
    refine ⟨_, rfl, hne, json_decode_of_ne_nil hne ?_⟩
    rw [ofOctets?_utf8, Option.bind_some, Schema.ofJson?_toJson]
  refine ⟨hpresent, rfl, rfl, rfl, fun blob s _ => ?_⟩
  obtain ⟨blob', hencode, -, hdecode⟩ := hpresent s
  exact ⟨some blob', hencode, hdecode⟩

end Codec
end MetricsView
