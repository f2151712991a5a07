import MetricsView.Command.Run
import MetricsView.Proofs.Schema
import MetricsView.Proofs.Json.RoundTrip
import MetricsView.Proofs.Text
import MetricsView.Proofs.Query.Question

/-! # Requests survive JSON

Whatever is asked is read back from its own text, so that it compiles to the same query or fails in
the same way. The one thing that may get lost on the way is a float, and it is asked of each one
that it does not. -/
namespace MetricsView

open Json (fields?_record list?_list choice?_text)

namespace Json

theorem intIn?_int {low high i : Int} (h : low ≤ i ∧ i ≤ high) :
    intIn? low high (int i) = some i := by
  have hint : (int i).int? = some i := Literal.toInt?_ofInt i
  rw [intIn?, hint]
  exact if_pos h

/-- What fits 64 bits with a sign. -/
def Fits64 (i : Int) : Prop := -9223372036854775808 ≤ i ∧ i ≤ 9223372036854775807

instance (i : Int) : Decidable (Fits64 i) := inferInstanceAs (Decidable (_ ∧ _))

theorem int64?_int {i : Int} (h : Fits64 i) : int64? (int i) = some i := intIn?_int h

private theorem nat64?_int {n : Nat} (h : n ≤ 18446744073709551615) : nat64? (int n) = some n := by
  rw [nat64?, intIn?_int (by omega)]
  rfl

/-- A number as a float. -/
def float? : Json → Option Float
  | .number n => n.approximate
  | _ => none

/-- A finite float that is read back from its text. -/
structure Rereads (x : Float) : Prop where
  finite : x.isFinite
  reread : (ofString? (float x).render).bind float? = some x

end Json

/-- The parts of a request whose numbers are all read back from their texts. -/
def FilterValue.Rereads : FilterValue → Prop
  | .number x => Json.Rereads x
  | _ => True

/-- No kind of value is taken for another one. -/
theorem FilterValue.ofJson?_toJson {v : FilterValue} (h : v.Rereads) :
    ofJson? v.toJson = some v := by
  cases v with
  | null | bool _ | string _ => rfl
  | number x =>
    obtain ⟨hfinite, hreread⟩ := h
    have hfloat : Json.float x = .number (Json.floatLayout.literal x) := if_pos hfinite
    rw [Json.ofString?_render, Option.bind_some, hfloat] at hreread
    rw [toJson, hfloat]
    exact congrArg (Option.map number) hreread

def Condition.Rereads (c : Condition) : Prop := ∀ v ∈ c.values ++ c.patterns, v.Rereads

theorem Condition.ofJson?_toJson {c : Condition} (h : c.Rereads) : ofJson? c.toJson = some c := by
  obtain ⟨hvalues, hpatterns⟩ := List.forall_mem_append.1 h
  have hfields : c.toJson.fields? ["name", "in", "like"] =
      some [some (.text c.name), some (.list FilterValue.toJson c.values),
        some (.list FilterValue.toJson c.patterns)] := fields?_record (by simp)
  have hlists (vs : List FilterValue) (hvs : ∀ v ∈ vs, v.Rereads) :
      Json.list? FilterValue.ofJson? (.list FilterValue.toJson vs) = some vs :=
    list?_list fun v hv => FilterValue.ofJson?_toJson (hvs v hv)
  simp [ofJson?, hfields, Json.required?, Json.default?, Json.string?_text, hlists _ hvalues,
    hlists _ hpatterns]

def Filter.Rereads (f : Filter) : Prop := ∀ c ∈ f.included ++ f.excluded, c.Rereads

theorem Filter.ofJson?_toJson {f : Filter} (h : f.Rereads) : ofJson? f.toJson = some f := by
  obtain ⟨hincluded, hexcluded⟩ := List.forall_mem_append.1 h
  have hfields : f.toJson.fields? ["include", "exclude"] =
      some [some (.list Condition.toJson f.included),
        some (.list Condition.toJson f.excluded)] := fields?_record (by simp)
  have hlists (cs : List Condition) (hcs : ∀ c ∈ cs, c.Rereads) :
      Json.list? Condition.ofJson? (.list Condition.toJson cs) = some cs :=
    list?_list fun c hc => Condition.ofJson?_toJson (hcs c hc)
  simp [ofJson?, hfields, Json.default?, hlists _ hincluded, hlists _ hexcluded]

/-- An absent filter stays apart from one without conditions. -/
theorem Filter.option?_toJson {f : Option Filter} (h : (content f).Rereads) :
    Json.option? ofJson? (.option toJson f) = some f := by
  refine Json.option?_option (fun g _ => ?_) fun g hg => ?_
  · exact Json.noConfusion
  · obtain rfl := Option.mem_def.1 hg
    exact ofJson?_toJson h

theorem SortSpec.ofJson?_toJson (s : SortSpec) : ofJson? s.toJson = some s := by
  have hfields : s.toJson.fields? ["name", "ascending"] =
      some [some (.text s.name), some (.bool s.ascending)] := fields?_record (by simp)
  simp [ofJson?, hfields, Json.required?, Json.default?, Json.string?_text, Json.bool?]

theorem TimeGrain.ofJson?_toJson (g : TimeGrain) : ofJson? g.toJson = some g := by
  refine choice?_text ?_ (List.mem_map.2 ⟨g, g.mem_all, rfl⟩)
  decide

theorem names_reread (names : List String) :
    Json.list? Json.string? (.list Json.text names) = some names :=
  list?_list fun s _ => Json.string?_text s

theorem Toplist.ofJson?_toJson {r : Toplist} (hstart : Json.Fits64 r.timeStart)
    (hend : Json.Fits64 r.timeEnd) (hlimit : r.limit ≤ 18446744073709551615)
    (hfilter : (Filter.content r.filter).Rereads) : ofJson? r.toJson = some r := by
  have hfields : r.toJson.fields? ["metrics_view_name", "dimension_name", "measure_names",
      "time_start", "time_end", "limit", "sort", "filter"] =
      some [some (.text r.view), some (.text r.dimension), some (.list Json.text r.measures),
        some (.int r.timeStart), some (.int r.timeEnd), some (.int r.limit),
        some (.list SortSpec.toJson r.sort), some (.option Filter.toJson r.filter)] :=
    fields?_record (by simp)
  have hsort : Json.list? SortSpec.ofJson? (.list SortSpec.toJson r.sort) = some r.sort :=
    list?_list fun s _ => s.ofJson?_toJson
  simp [ofJson?, hfields, Json.default?, Json.string?_text, names_reread, Json.int64?_int hstart,
    Json.int64?_int hend, Json.nat64?_int hlimit, hsort, Filter.option?_toJson hfilter]

theorem TimeSeries.ofJson?_toJson {r : TimeSeries} (hstart : Json.Fits64 r.timeStart)
    (hend : Json.Fits64 r.timeEnd) (hfilter : (Filter.content r.filter).Rereads) :
    ofJson? r.toJson = some r := by
  have hfields : r.toJson.fields? ["metrics_view_name", "measure_names", "time_start", "time_end",
      "time_granularity", "filter"] =
      some [some (.text r.view), some (.list Json.text r.measures), some (.int r.timeStart),
        some (.int r.timeEnd), some r.grain.toJson, some (.option Filter.toJson r.filter)] :=
    fields?_record (by simp)
  simp [ofJson?, hfields, Json.default?, Json.string?_text, names_reread, Json.int64?_int hstart,
    Json.int64?_int hend, TimeGrain.ofJson?_toJson, Filter.option?_toJson hfilter]

theorem Totals.ofJson?_toJson {r : Totals} (hstart : Json.Fits64 r.timeStart)
    (hend : Json.Fits64 r.timeEnd) (hfilter : (Filter.content r.filter).Rereads) :
    ofJson? r.toJson = some r := by
  have hfields : r.toJson.fields? ["metrics_view_name", "measure_names", "time_start", "time_end",
      "filter"] =
      some [some (.text r.view), some (.list Json.text r.measures), some (.int r.timeStart),
        some (.int r.timeEnd), some (.option Filter.toJson r.filter)] :=
    fields?_record (by simp)
  simp [ofJson?, hfields, Json.default?, Json.string?_text, names_reread, Json.int64?_int hstart,
    Json.int64?_int hend, Filter.option?_toJson hfilter]

namespace Question

def shape : Question → RequestShape
  | toplist _ => .toplist
  | timeSeries _ => .timeSeries
  | totals _ => .totals

def toJson : Question → Json
  | toplist r => r.toJson
  | timeSeries r => r.toJson
  | totals r => r.toJson

/-- Reads a request whose shape is known. -/
def ofJson? : RequestShape → Json → Option Question
  | .toplist, v => (Toplist.ofJson? v).map toplist
  | .timeSeries, v => (TimeSeries.ofJson? v).map timeSeries
  | .totals, v => (Totals.ofJson? v).map totals

/-- The bounds and the limit that there is room for. -/
def Fits : Question → Prop
  | toplist r => Json.Fits64 r.timeStart ∧ Json.Fits64 r.timeEnd ∧ r.limit ≤ 18446744073709551615
  | timeSeries r => Json.Fits64 r.timeStart ∧ Json.Fits64 r.timeEnd
  | totals r => Json.Fits64 r.timeStart ∧ Json.Fits64 r.timeEnd

theorem ofJson?_toJson {q : Question} (hfits : q.Fits) (hfilter : q.filter.Rereads) :
    ofJson? q.shape q.toJson = some q := by
  cases q with
  | toplist r =>
    obtain ⟨hstart, hend, hlimit⟩ := hfits
    exact congrArg (Option.map toplist) (Toplist.ofJson?_toJson hstart hend hlimit hfilter)
  | timeSeries r =>
    exact congrArg (Option.map timeSeries) (TimeSeries.ofJson?_toJson hfits.1 hfits.2 hfilter)
  | totals r =>
    exact congrArg (Option.map totals) (Totals.ofJson?_toJson hfits.1 hfits.2 hfilter)

variable {m : Type → Type} [Monad m] [LawfulMonad m] {host : Host m} {path : String}

theorem run_ofExcept_pure {ε α : Type} (wrap : ε → CommandError) (x : Except ε α) :
    (Step.ofExcept wrap (pure x : m (Except ε α))).run = pure (x.mapError wrap) := by
  cases x <;> simp [Step.ofExcept, Except.mapError]

/-- A file whose octets are the text of a value. -/
def Holds (host : Host m) (path : String) (v : Json) : Prop :=
  host.read path = pure (.ok (Text.utf8 v.render.toList))

private theorem Holds.readText_eq {v : Json} (h : Holds host path v) :
    host.readText path = pure (.ok v.render) := by
  have htext : Text.ofUtf8? (Text.utf8 v.render.toList) = some v.render := by
    rw [Text.ofUtf8?_utf8, String.ofList_toList]
  rw [FileSystem.readText, h, pure_bind]
  simp only [htext]

/-- The request of a file that holds one, and what is compiled from it. -/
theorem run_readJson_bind {α : Type} {f : Json → Option α} {v : Json} {a : α}
    (hfile : Holds host path v) (hf : f v = some a)
    (compile : α → CompileResult Fragment) :
    (do
      let r ← Step.ofExcept .requestFile (readJson host.toFileSystem f path)
      Step.ofExcept .compile (pure (compile r)) : Step m Fragment).run =
        pure ((compile a).mapError .compile) := by
  have hread : readJson host.toFileSystem f path = pure (.ok a) := by
    simp [readJson, hfile.readText_eq, Json.ofString?_render, hf]
  rw [ExceptT.run_bind, hread, run_ofExcept_pure, pure_bind]
  exact run_ofExcept_pure _ _

private theorem compileFile_eq {q : Question} (hfits : q.Fits) (hfilter : q.filter.Rereads)
    (hfile : Holds host path q.toJson) (options : CompileOptions) :
    (compileFile host options q.shape path).run = pure ((q.compile options).mapError .compile) := by
  cases q with
  | toplist r =>
    obtain ⟨hstart, hend, hlimit⟩ := hfits
    have hr := Toplist.ofJson?_toJson hstart hend hlimit hfilter
    simpa [compileFile, shape, compile] using
      run_readJson_bind hfile hr (Toplist.compile · options)
  | timeSeries r =>
    have hr := TimeSeries.ofJson?_toJson hfits.1 hfits.2 hfilter
    simpa [compileFile, shape, compile] using
      run_readJson_bind hfile hr (TimeSeries.compile · options)
  | totals r =>
    have hr := Totals.ofJson?_toJson hfits.1 hfits.2 hfilter
    simpa [compileFile, shape, compile] using
      run_readJson_bind hfile hr (Totals.compile · options)

/-- A request is read back from its text, whatever it holds, and a file with the text compiles to
the query of the request or fails as the request does. -/
theorem rereads_and_compiles {q : Question} (hfits : q.Fits) (hfilter : q.filter.Rereads) :
    (Json.ofString? q.toJson.render).bind (ofJson? q.shape) = some q ∧
      ∀ (m : Type → Type) [Monad m] [LawfulMonad m] (host : Host m) (path : String)
        (options : CompileOptions), Holds host path q.toJson →
          (compileFile host options q.shape path).run =
            pure ((q.compile options).mapError .compile) := by
  refine ⟨?_, fun m _ _ host path options hfile => compileFile_eq hfits hfilter hfile options⟩
  rw [Json.ofString?_render, Option.bind_some, ofJson?_toJson hfits hfilter]

/-- Strings that look like something else, and the least and the largest of the numbers. -/
def extremeSample : Question := .toplist
  { view := "", dimension := "a\"b", measures := ["n"], timeStart := -9223372036854775808,
    timeEnd := 9223372036854775807, limit := 18446744073709551615, sort := [⟨"n", true⟩],
    filter := some ⟨[⟨"site", [.null, .bool true, .number 2.5, .string "null", .string "true",
      .string "2.5"], []⟩], []⟩ }

private theorem rereads_float : Json.Rereads 2.5 := by
  have hfinite : (2.5 : Float).isFinite = true := rfl
  have hliteral : Json.floatLayout.literal 2.5 = ⟨false, 2, [5], none⟩ := rfl
  have happroximate : Literal.approximate ⟨false, 2, [5], none⟩ = some 2.5 := by
    change (Literal.scale (Float.ofNat 25) (-1)).map _ = _
    rw [Literal.scale]
    rfl
  refine ⟨hfinite, ?_⟩
  rw [Json.ofString?_render, Option.bind_some, Json.float, if_pos hfinite, hliteral]
  exact happroximate

/-- A host all of whose files hold one value. -/
def hostHolding (v : Json) : Host Id where
  lookUp _ := none
  workingDirectory := "/"
  look _ := .ok .file
  read _ := .ok (Text.utf8 v.render.toList)
  write _ _ := .ok ()
  remove _ := .ok ()
  makeDirectory _ := .ok ()
  now := .epoch
  database := ⟨Unit, fun _ => .ok (), fun _ => .ok .empty, fun _ _ => .ok ()⟩

theorem rereads_and_compiles_extreme : extremeSample.Fits ∧ extremeSample.filter.Rereads ∧
    (Json.ofString? extremeSample.toJson.render).bind (ofJson? .toplist) = some extremeSample ∧
    (compileFile (hostHolding extremeSample.toJson) sampleOptions .toplist "request.json").run =
      .error (.compile (.invalidTimeBound (-9223372036854775808))) := by
  have hfits : extremeSample.Fits := ⟨by decide, by decide, by decide⟩
  have hfilter : extremeSample.filter.Rereads := by
    simp [Filter.Rereads, filter, extremeSample, Filter.content, Condition.Rereads,
      FilterValue.Rereads, rereads_float]
  obtain ⟨hreread, hcompiles⟩ := rereads_and_compiles hfits hfilter
  refine ⟨hfits, hfilter, hreread, ?_⟩
  exact hcompiles Id (hostHolding extremeSample.toJson) "request.json" sampleOptions rfl

end Question
end MetricsView
