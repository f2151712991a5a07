import MetricsView.Proofs.Catalog.Run
import MetricsView.Proofs.Query.Question
import MetricsView.Service

/-! # Requests, from the tenant to the executor

A request passes its checks one after the other. It is refused at the first that it fails, and a
question that passes all of them is sent to the executor, once. -/
namespace MetricsView

def Question.view : Question → String
  | toplist r => r.view
  | timeSeries r => r.view
  | totals r => r.view

/-- The options are those that the settings give. A column without a name is none. -/
structure CompileOptions.Follows (o : CompileOptions) (s : QuerySettings) : Prop where
  defaultLimit : o.defaultLimit = s.defaultLimit
  timeseriesLimit : o.timeseriesLimit = s.timeseriesLimit
  timeColumn : o.timeColumn = s.timeColumn
  toplistTimeColumn : ∀ c, o.toplistTimeColumn = some c ↔ c = s.toplistTimeColumn ∧ c ≠ ""

private theorem CompileOptions.ofSettings_follows (s : QuerySettings) :
    (ofSettings s).Follows s where
  defaultLimit := rfl
  timeseriesLimit := rfl
  timeColumn := rfl
  toplistTimeColumn c := by
    simp only [ofSettings]
    split
    · next hempty =>
      have hname : s.toplistTimeColumn = "" := String.isEmpty_iff.1 hempty
      simp [hname]
    · next hnonempty =>
      have hname : s.toplistTimeColumn ≠ "" := fun h => hnonempty (String.isEmpty_iff.2 h)
      constructor
      · rintro ⟨⟩
        exact ⟨rfl, hname⟩
      · rintro ⟨rfl, -⟩
        rfl

def Reply.map {α β : Type} (f : α → β) (r : Reply α) : Reply β := ⟨r.calls, r.answer.map f⟩

namespace Service

inductive Request where
  | viewMeta (view : String)
  | ask (q : Question)

def Request.view : Request → String
  | viewMeta view => view
  | ask q => q.view

inductive Answer where
  | viewMeta (m : ViewMeta)
  | rows (r : Response)
  | totals (r : TotalsResponse)

def serve (s : Service) (tenant : String) : Request → Reply Answer
  | .viewMeta view => ⟨[], (s.viewMeta tenant view).map .viewMeta⟩
  | .ask (.toplist r) => (s.toplist tenant r).map .rows
  | .ask (.timeSeries r) => (s.timeSeries tenant r).map .rows
  | .ask (.totals r) => (s.totals tenant r).map .totals

/-- What is made of the rows, once they are shaped. -/
def finish (q : Question) (r : Response) : Except Failure Answer :=
  match q with
  | .toplist _ | .timeSeries _ => .ok (.rows r)
  | .totals _ => (firstRow r).map .totals

/-- The call of the executor for a compiled question. -/
def callFor (tenant : String) (priority : Int) (f : Fragment) : Call :=
  ⟨tenant, ⟨f.sql, f.args, priority⟩⟩

section Given

-- What a service is given, and what it answers to.
variable (registry : Registry) (codec : Codec) (store : Store) (executor : Executor)
  (options : CompileOptions) (priority : Int) (tenant view : String)

/-- The tenant is known, and the name leads to this metrics view. -/
structure Admits (o : CatalogObject) : Prop where
  registered : registry tenant = .ok true
  found : store.find codec tenant view = .ok (some o)
  kind : o.kind = .metricsView

/-- The first check that the name of a view does not pass. -/
inductive Denies : Failure → Prop where
  | unavailable {e} (h : registry tenant = .error e) : Denies e
  | unknown (h : registry tenant = .ok false) : Denies (.notFound .tenant tenant)
  | unreadable {e} (registered : registry tenant = .ok true)
      (h : store.find codec tenant view = .error e) : Denies e
  | missing (registered : registry tenant = .ok true)
      (h : store.find codec tenant view = .ok none) : Denies (.notFound .metricsView view)
  | otherKind {o} (registered : registry tenant = .ok true)
      (found : store.find codec tenant view = .ok (some o)) (h : o.kind ≠ .metricsView) :
      Denies (.wrongKind o.name .metricsView o.kind)

/-- A reply, with all that it depends on. -/
inductive Serves : Request → Reply Answer → Prop where
  | denied {r e} (h : Denies registry codec store tenant r.view e) : Serves r ⟨[], .error e⟩
  | shown {view o} (h : Admits registry codec store tenant view o) :
      Serves (.viewMeta view)
        ⟨[], .ok (.viewMeta ⟨o.name, o.sql, (o.schema.map Schema.info).getD []⟩)⟩
  | invalid {q o e} (h : Admits registry codec store tenant q.view o)
      (hq : q.compile options = .error e) :
      Serves (.ask q) ⟨[], .error (.invalidRequest e.message)⟩
  | sent {q o f} (h : Admits registry codec store tenant q.view o)
      (hq : q.compile options = .ok f) :
      Serves (.ask q)
        ⟨[callFor tenant priority f], executor (callFor tenant priority f) >>= fun result =>
          respond result >>= finish q⟩

/-- A question that is not held up by any check. -/
structure Passes (r : Request) (q : Question) (f : Fragment) : Prop where
  question : r = .ask q
  admitted : ∃ o, Admits registry codec store tenant q.view o
  compiled : q.compile options = .ok f

/-- The reply tells the first check that the request does not pass. The executor is called once if
there is none, and not at all otherwise; if it fails, the reply is its failure. -/
structure FailsFast (r : Request) (reply : Reply Answer) : Prop where
  serves : Serves registry codec store executor options priority tenant r reply
  called : ∀ q f, Passes registry codec store options tenant r q f →
    reply.calls = [⟨tenant, ⟨f.sql, f.args, priority⟩⟩]
  uncalled : (∀ q f, ¬ Passes registry codec store options tenant r q f) → reply.calls = []
  failed : ∀ call ∈ reply.calls, ∀ e, executor call = .error e → reply.answer = .error e

end Given

variable {s : Service} {registry : Registry} {codec : Codec} {store : Store} {tenant view : String}

theorem resolve_eq (s : Service) (tenant view : String) : s.resolve tenant view =
    match s.registry tenant with
    | .error e => .error e
    | .ok false => .error (.notFound .tenant tenant)
    | .ok true =>
      match s.store.find s.codec tenant view with
      | .error e => .error e
      | .ok none => .error (.notFound .metricsView view)
      | .ok (some o) =>
        if o.kind = .metricsView then .ok o
        else .error (.wrongKind o.name .metricsView o.kind) := by
  unfold Service.resolve
  cases s.registry tenant with
  | error e => rfl
  | ok known =>
    cases known with
    | false => rfl
    | true =>
      cases s.store.find s.codec tenant view with
      | error e => rfl
      | ok found =>
        cases found with
        | none => rfl
        | some o =>
          by_cases hkind : o.kind = .metricsView
          · simp [bind, Except.bind, CatalogObject.isMetricsView, hkind]
            rfl
          · simp [bind, Except.bind, CatalogObject.isMetricsView, hkind]
            rfl

theorem Admits.resolve_eq {o : CatalogObject}
    (h : Admits s.registry s.codec s.store tenant view o) :
    s.resolve tenant view = .ok o := by
  simp [Service.resolve_eq, h.registered, h.found, h.kind]

theorem Denies.resolve_eq {e : Failure} (h : Denies s.registry s.codec s.store tenant view e) :
    s.resolve tenant view = .error e := by
  cases h with
  | unavailable h => simp [Service.resolve_eq, h]
  | unknown h => simp [Service.resolve_eq, h]
  | unreadable registered h => simp [Service.resolve_eq, registered, h]
  | missing registered h => simp [Service.resolve_eq, registered, h]
  | otherKind registered found h => simp [Service.resolve_eq, registered, found, h]

/-- Every name is either denied or admitted. -/
theorem denies_or_admits (registry : Registry) (codec : Codec) (store : Store)
    (tenant view : String) :
    (∃ e, Denies registry codec store tenant view e) ∨
      ∃ o, Admits registry codec store tenant view o := by
  cases htenant : registry tenant with
  | error e => exact .inl ⟨e, .unavailable htenant⟩
  | ok known =>
    cases known with
    | false => exact .inl ⟨_, .unknown htenant⟩
    | true =>
      cases hfind : store.find codec tenant view with
      | error e => exact .inl ⟨e, .unreadable htenant hfind⟩
      | ok found =>
        cases found with
        | none => exact .inl ⟨_, .missing htenant hfind⟩
        | some o =>
          by_cases hkind : o.kind = .metricsView
          · exact .inr ⟨o, htenant, hfind, hkind⟩
          · exact .inl ⟨_, .otherKind htenant hfind hkind⟩

private theorem Denies.not_admits {e : Failure} (h : Denies registry codec store tenant view e)
    (o : CatalogObject) : ¬ Admits registry codec store tenant view o := by
  rintro ⟨hregistered, hfound, hkind⟩
  cases h with
  | unavailable h => cases h.symm.trans hregistered
  | unknown h => cases h.symm.trans hregistered
  | unreadable _ h => cases h.symm.trans hfound
  | missing _ h => cases h.symm.trans hfound
  | otherKind _ found h =>
    obtain rfl := Option.some.inj (Except.ok.inj (found.symm.trans hfound))
    exact h hkind

private theorem serve_viewMeta (s : Service) (tenant view : String) :
    s.serve tenant (.viewMeta view) =
    match s.resolve tenant view with
    | .error e => ⟨[], .error e⟩
    | .ok o => ⟨[], .ok (.viewMeta ⟨o.name, o.sql, (o.schema.map Schema.info).getD []⟩)⟩ := by
  change Reply.mk [] ((s.viewMeta tenant view).map Answer.viewMeta) = _
  unfold viewMeta
  cases s.resolve tenant view <;> rfl

theorem prepare_eq (s : Service) (tenant view : String) (query : CompileResult Fragment) :
    s.prepare tenant view query =
      match s.resolve tenant view with
      | .error e => .error e
      | .ok _ =>
        match query with
        | .ok f => .ok f
        | .error e => .error (.invalidRequest e.message) := by
  unfold prepare
  cases s.resolve tenant view with
  | error e => rfl
  | ok o => cases query <;> rfl

/-- All questions take the same way. -/
theorem serve_ask (s : Service) (tenant : String) (q : Question) : s.serve tenant (.ask q) =
    match s.prepare tenant q.view (q.compile s.options) with
    | .error e => ⟨[], .error e⟩
    | .ok f => ⟨[callFor tenant s.priority f],
        s.executor (callFor tenant s.priority f) >>= fun result =>
          respond result >>= finish q⟩ := by
  have hfinish : s.serve tenant (.ask q) =
      let reply := s.run tenant (s.prepare tenant q.view (q.compile s.options))
      ⟨reply.calls, reply.answer >>= finish q⟩ := by
    cases q with
    | toplist r => exact congrArg (Reply.mk _) (map_eq_pure_bind (m := Except Failure) _ _)
    | timeSeries r => exact congrArg (Reply.mk _) (map_eq_pure_bind (m := Except Failure) _ _)
    | totals r => exact congrArg (Reply.mk _) (map_bind (m := Except Failure) _ _ _)
  rw [hfinish]
  cases s.prepare tenant q.view (q.compile s.options) with
  | error e => rfl
  | ok f => exact congrArg (Reply.mk _) (bind_assoc _ _ _)

theorem serves (s : Service) (tenant : String) (r : Request) :
    Serves s.registry s.codec s.store s.executor s.options s.priority tenant r
      (s.serve tenant r) := by
  cases r with
  | viewMeta view =>
    rw [serve_viewMeta]
    rcases denies_or_admits s.registry s.codec s.store tenant view with ⟨e, h⟩ | ⟨o, h⟩
    · rw [h.resolve_eq]
      exact .denied h
    · rw [h.resolve_eq]
      exact .shown h
  | ask q =>
    rw [serve_ask, prepare_eq]
    rcases denies_or_admits s.registry s.codec s.store tenant q.view with ⟨e, h⟩ | ⟨o, h⟩
    · rw [h.resolve_eq]
      exact .denied h
    · rw [h.resolve_eq]
      cases hq : q.compile s.options with
      | error e => exact .invalid h hq
      | ok f => exact .sent h hq

theorem serve_failsFast (s : Service) (tenant : String) (r : Request) :
    FailsFast s.registry s.codec s.store s.executor s.options s.priority tenant r
      (s.serve tenant r) := by
  have hserves := s.serves tenant r
  generalize s.serve tenant r = reply at hserves
  cases hserves with
  | denied h =>
    refine ⟨.denied h, fun q f hpasses => ?_, fun _ => rfl, by simp⟩
    obtain ⟨rfl, ⟨o, hadmits⟩, -⟩ := hpasses
    exact absurd hadmits (h.not_admits o)
  | shown h =>
    refine ⟨.shown h, fun q f hpasses => ?_, fun _ => rfl, by simp⟩
    cases hpasses.question
  | @invalid q o e h hq =>
    refine ⟨.invalid h hq, fun q' f hpasses => ?_, fun _ => rfl, by simp⟩
    obtain ⟨hquestion, -, hcompiled⟩ := hpasses
    cases hquestion
    rw [hq] at hcompiled
    cases hcompiled
  | @sent q o f h hq =>
    refine ⟨.sent h hq, fun q' f' hpasses => ?_, fun hnone => ?_, fun call hcall e he => ?_⟩
    · obtain ⟨hquestion, -, hcompiled⟩ := hpasses
      cases hquestion
      rw [hq] at hcompiled
      cases hcompiled
      rfl
    · exact absurd ⟨rfl, ⟨o, h⟩, hq⟩ (hnone q f)
    · obtain rfl := List.mem_singleton.1 hcall
      change (s.executor (callFor tenant s.priority f) >>= _) = _
      rw [he]
      rfl

/-- What comes to a service: a request, with the executor as it is by then, or a step of the
catalog. -/
inductive Action where
  | request (executor : Executor) (tenant : String) (r : Request)
  | catalog (x : Store.Step)

def Action.step? : Action → Option Store.Step
  | request _ _ _ => none
  | catalog x => some x

/-- The reply to a request, and the service that is left. -/
def act (s : Service) : Action → Option (Reply Answer) × Service
  | .request executor tenant r => (some ({ s with executor := executor }.serve tenant r), s)
  | .catalog x => (none, { s with store := (s.store.step s.codec x).2 })

def after (s : Service) (actions : List Action) : Service :=
  actions.foldl (fun s a => (s.act a).2) s

/-- The store that steps of the catalog lead to. -/
def stored (codec : Codec) (store : Store) (xs : List Store.Step) : Store :=
  xs.foldl (fun s x => (s.step codec x).2) store

private theorem after_eq (s : Service) (actions : List Action) : s.after actions =
    { s with store := stored s.codec s.store (actions.filterMap Action.step?) } := by
  induction actions generalizing s with
  | nil => rfl
  | cons a actions ih =>
    rw [after, List.foldl_cons]
    refine (ih _).trans ?_
    cases a <;> rfl

/-- After any session, the service is what the steps of the catalog alone would have made of it. Its
reply to the next request, whatever the executor does by then, leaves the service as it is and fails
fast: by the registry that was given, by the catalog that the steps have made, under the options of
the settings and with their priority. -/
theorem session_failsFast (registry : Registry) (codec : Codec) (store : Store)
    (executor : Executor) (settings : QuerySettings) (actions : List Action) :
    (ofSettings registry codec store executor settings).after actions =
        ofSettings registry codec (stored codec store (actions.filterMap Action.step?)) executor
          settings ∧
      (CompileOptions.ofSettings settings).Follows settings ∧
      ∀ executor' tenant r, ∃ reply,
        ((ofSettings registry codec store executor settings).after actions).act
            (.request executor' tenant r) =
          (some reply, (ofSettings registry codec store executor settings).after actions) ∧
        FailsFast registry codec (stored codec store (actions.filterMap Action.step?)) executor'
          (.ofSettings settings) settings.priority tenant r reply := by
  have hafter := (ofSettings registry codec store executor settings).after_eq actions
  have hfollows := CompileOptions.ofSettings_follows settings
  refine ⟨hafter, hfollows, fun executor' tenant r => ⟨_, rfl, ?_⟩⟩
  rw [hafter]
  exact serve_failsFast ⟨registry, codec, _, executor', .ofSettings settings, settings.priority⟩
    tenant r

end Service
end MetricsView
