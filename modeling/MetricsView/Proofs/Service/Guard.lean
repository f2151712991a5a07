import MetricsView.Proofs.Catalog.Reading
import MetricsView.Proofs.Query.Outcome
import MetricsView.Proofs.Service.Pipeline

/-! # The object that is checked and the object that is read

The service checks the first object that a look-up finds, in any case. The statement reads the
object whose name is written in the question. -/
namespace MetricsView

/-- A compiled query selects from what the question calls its view. -/
theorem Question.exists_sql_eq (q : Question) (options : CompileOptions) : ∃ columns rest,
    (q.fragment options).sql = "SELECT " ++ columns ++ " FROM " ++ q.view ++ " WHERE " ++ rest := by
  cases q with
  | toplist r =>
    have hwhere (rest : String) : " " ++ ("WHERE 1=1" ++ rest) = " WHERE " ++ ("1=1" ++ rest) := by
      rw [← String.append_assoc, ← String.append_assoc]
      rfl
    simp only [fragment, view, Toplist.fragment, Fragment.sql_append, Fragment.sql_text,
      String.append_assoc, hwhere]
    exact ⟨_, _, rfl⟩
  | timeSeries r =>
    simp only [fragment, view, TimeSeries.fragment, Fragment.sql_append, Fragment.sql_text,
      String.append_assoc]
    exact ⟨_, _, rfl⟩
  | totals r =>
    simp only [fragment, view, Totals.fragment, Fragment.sql_append, Fragment.sql_text,
      String.append_assoc]
    exact ⟨_, _, rfl⟩

namespace Service

variable {s : Service} {tenant : String}

theorem calls_ne_nil_iff {q : Question} : (s.serve tenant (.ask q)).calls ≠ [] ↔
    (∃ o, Admits s.registry s.codec s.store tenant q.view o) ∧ q.Compiles s.options := by
  have hreply := s.serve_failsFast tenant (.ask q)
  constructor
  · intro hcalls
    by_contra hnot
    refine hcalls (hreply.uncalled fun q' f hpasses => hnot ?_)
    obtain ⟨hquestion, hadmits, hcompiled⟩ := hpasses
    cases hquestion
    exact ⟨hadmits, (Question.compile_eq_ok_iff.1 hcompiled).1⟩
  · rintro ⟨hadmits, hcompiles⟩
    rw [hreply.called q _ ⟨rfl, hadmits, Question.compile_eq_ok_iff.2 ⟨hcompiles, rfl⟩⟩]
    exact List.cons_ne_nil _ _

/-- An object of another kind lets a view of the same name pass only if the view is spelled in
another case and comes first. -/
theorem Admits.name_lt {registry : Registry} {codec : Codec} {store : Store}
    (hd : store.Distinct) {r : StoredObject} (hr : r ∈ store.objects)
    (hkind : r.kindCode ≠ ObjectKind.metricsView.code) {o : CatalogObject}
    (h : Admits registry codec store r.tenant r.name o) : o.name < r.name := by
  obtain ⟨first, hfirst, hreads⟩ := Store.exists_first h.found
  obtain ⟨hname, hcode⟩ := hreads.parts
  rw [hname]
  refine lt_of_le_of_ne (hfirst.le r hr rfl rfl) fun heq => hkind ?_
  have hsame : first = r :=
    List.inj_on_of_nodup_map hd hfirst.mem hr (Prod.ext hfirst.tenant_eq heq)
  rw [← hsame, ← hcode, h.kind]

private theorem exists_query_eq {q : Question} {call : Call}
    (hcall : call ∈ (s.serve tenant (.ask q)).calls) : ∃ columns rest,
      call.statement.query = "SELECT " ++ columns ++ " FROM " ++ q.view ++ " WHERE " ++ rest := by
  obtain ⟨hadmits, hcompiles⟩ := calls_ne_nil_iff.1 (List.ne_nil_of_mem hcall)
  have hcalled := (s.serve_failsFast tenant (.ask q)).called q (q.fragment s.options)
    ⟨rfl, hadmits, Question.compile_eq_ok_iff.2 ⟨hcompiles, rfl⟩⟩
  rw [hcalled] at hcall
  obtain rfl := List.mem_singleton.1 hcall
  exact q.exists_sql_eq s.options

/-- A question with exactly the name of an object of another kind gets past the checks if the
tenant is known, the question compiles, and a look-up finds a metrics view that is spelled
otherwise and comes first. There is no other way, and then the statement selects from the object
of the other kind. -/
theorem sends_past_object_iff (s : Service) (xs : List Store.Step)
    (hs : s.store = (Store.run s.codec xs).2) (tenant : String) (q : Question) (r : StoredObject)
    (hr : r ∈ s.store.objects) (htenant : r.tenant = tenant) (hname : r.name = q.view)
    (hkind : r.kindCode ≠ ObjectKind.metricsView.code) :
    ((s.serve tenant (.ask q)).calls ≠ [] ↔
      s.registry tenant = .ok true ∧ q.Compiles s.options ∧
        ∃ o, s.store.find s.codec tenant r.name = .ok (some o) ∧ o.kind = .metricsView ∧
          o.name < r.name) ∧
    ∀ call ∈ (s.serve tenant (.ask q)).calls, ∃ columns rest,
      call.statement.query = "SELECT " ++ columns ++ " FROM " ++ r.name ++ " WHERE " ++ rest := by
  have hdistinct : s.store.Distinct := hs ▸ (Store.tracks_run s.codec xs).distinct
  subst htenant
  rw [hname]
  refine ⟨?_, fun call hcall => exists_query_eq hcall⟩
  rw [calls_ne_nil_iff, ← hname]
  constructor
  · rintro ⟨⟨o, hadmits⟩, hcompiles⟩
    exact ⟨hadmits.registered, hcompiles, o, hadmits.found, hadmits.kind,
      hadmits.name_lt hdistinct hr hkind⟩
  · rintro ⟨hregistered, hcompiles, o, hfound, hview, -⟩
    exact ⟨⟨o, hregistered, hfound, hview⟩, hcompiles⟩

/-- A metrics view, and after it a table whose name is the same but for case. -/
def sampleSteps : List Store.Step :=
  [⟨.create "acme" (.ofName "SALES" .metricsView), ⟨5, 0⟩⟩,
    ⟨.create "acme" (.ofName "sales" .table), ⟨7, 0⟩⟩]

def sampleView : CatalogObject := Store.stamped ⟨5, 0⟩ (.ofName "SALES" .metricsView)

def sampleTable : StoredObject :=
  Store.rowOf "acme" none (Store.stamped ⟨7, 0⟩ (.ofName "sales" .table))

def sampleService : Service :=
  ofSettings (.ofList ["acme"]) .json (Store.run .json sampleSteps).2 (fun _ => .ok ⟨⟨[]⟩, []⟩)
    .default

def sampleTotals : Question :=
  .totals { view := "sales", measures := ["n"], timeStart := 0, timeEnd := 0, filter := none }

theorem sampleService_find :
    sampleService.store.find sampleService.codec "acme" "sales" = .ok (some sampleView) := by
  have hfilter : sampleService.store.objects.filter
      (StoredObject.named "acme" (Store.folded "sales")) =
        [Store.rowOf "acme" none sampleView, sampleTable] := by decide
  have hsorted : [Store.rowOf "acme" none sampleView, sampleTable].Pairwise
      fun a b => StoredObject.precedes a b := by decide
  have hselected : List.Forall₂ (StoredObject.Reads sampleService.codec)
      (sampleService.store.selected (StoredObject.named "acme" (Store.folded "sales")))
      [sampleView, Store.stamped ⟨7, 0⟩ (.ofName "sales" .table)] := by
    rw [Store.selected, hfilter, List.mergeSort_of_pairwise hsorted]
    exact .cons ⟨.metricsView, rfl, rfl⟩ (.cons ⟨.table, rfl, rfl⟩ .nil)
  exact Traversal.bind_eq_ok_iff.2 ⟨_, Store.select_eq_ok_iff.2 hselected, rfl⟩

def sampleQuery : Fragment :=
  ⟨"SELECT n FROM sales WHERE timestamp >= epoch(?) AND timestamp < epoch(?) ", [.int 0, .int 0]⟩

theorem compile_sampleTotals : sampleTotals.compile sampleService.options = .ok sampleQuery := by
  rfl

theorem sends_past_object_iff_sample : sampleService.store = (Store.run .json sampleSteps).2 ∧
    sampleTable ∈ sampleService.store.objects ∧ sampleTable.tenant = "acme" ∧
    sampleTable.name = sampleTotals.view ∧ sampleTable.kindCode ≠ ObjectKind.metricsView.code ∧
    (sampleService.serve "acme" (.ask sampleTotals)).calls ≠ [] := by
  have hmem : sampleTable ∈ sampleService.store.objects := by decide
  have hkind : sampleTable.kindCode ≠ ObjectKind.metricsView.code := by decide
  have hiff := sends_past_object_iff sampleService sampleSteps rfl "acme" sampleTotals sampleTable
    hmem rfl rfl hkind
  refine ⟨rfl, hmem, rfl, rfl, hkind, hiff.1.2 ⟨by decide, ?_, ?_⟩⟩
  · exact (Question.compile_eq_ok_iff.1 compile_sampleTotals).1
  · exact ⟨sampleView, sampleService_find, rfl, by decide⟩

/-- It is the table that is read, and the view that was checked. -/
theorem selects_from_unchecked_table : sampleService.store = (Store.run .json sampleSteps).2 ∧
    sampleTable ∈ sampleService.store.objects ∧ sampleTable.tenant = "acme" ∧
    sampleTable.name = "sales" ∧ sampleTable.kindCode = ObjectKind.table.code ∧
    (sampleService.serve "acme" (.ask sampleTotals)).calls = [⟨"acme",
      ⟨"SELECT n FROM sales WHERE timestamp >= epoch(?) AND timestamp < epoch(?) ",
        [.int 0, .int 0], 1⟩⟩] := by
  refine ⟨rfl, by decide, rfl, rfl, rfl, ?_⟩
  have hadmits : Admits sampleService.registry sampleService.codec sampleService.store "acme"
      "sales" sampleView := ⟨by decide, sampleService_find, rfl⟩
  exact (sampleService.serve_failsFast "acme" (.ask sampleTotals)).called _ _
    ⟨rfl, ⟨sampleView, hadmits⟩, compile_sampleTotals⟩

end Service
end MetricsView
