import MetricsView.Proofs.Catalog.Reading

/-! # What is written is what is read

The object that a write answers with against the object that is read afterwards, and the schemas
that are read against those that were written. -/
namespace MetricsView

open Store

/-- The step is to write the object. -/
def Store.Step.Writes (x : Step) (tenant : String) (o : CatalogObject) : Prop :=
  x.operation = .create tenant o ∨ x.operation = .update tenant o

namespace Store.Step.Writes

variable {x : Step} {t u : String} {o p : CatalogObject}

theorem unique (h : x.Writes t o) (h' : x.Writes u p) : t = u ∧ o = p := by
  rcases h with h | h <;> rcases h' with h' | h' <;> rw [h] at h' <;> cases h' <;>
    exact ⟨rfl, rfl⟩

theorem not_reads (h : x.Writes t o) : ¬ x.operation.reads := by
  rcases h with h | h <;> simp [h, Operation.reads]

theorem ne_delete (h : x.Writes t o) (tenant name : String) :
    x.operation ≠ .delete tenant name := by
  rcases h with h | h <;> simp [h]

end Store.Step.Writes

namespace Contents

/-- A write that succeeds on the map: what it answers with, and what the map has under the key of
the object from then on. -/
inductive Written (m : Contents) (now : Instant) (tenant : String) (o : CatalogObject) :
    CatalogObject → CatalogObject → Prop where
  | created (h : m tenant o.name = none) : Written m now tenant o (stamped now o) (stamped now o)
  | updated {old} (h : m tenant o.name = some old) :
      Written m now tenant o { o with updatedOn := now } (overwritten now old.createdOn o)

namespace Written

variable {m : Contents} {now : Instant} {tenant : String} {o r p : CatalogObject}

theorem schema_eq (h : Written m now tenant o r p) : p.schema = o.schema := by
  cases h <;> rfl

/-- The answer is what the map has, but for the time of creation. That is the caller's in the
answer, if something is overwritten, and the one from before in the map. -/
theorem answer_eq (h : Written m now tenant o r p) : r = { p with createdOn := r.createdOn } ∧
    ∀ old, m tenant o.name = some old →
      p.createdOn = old.createdOn ∧ r.createdOn = o.createdOn := by
  cases h with
  | created habsent => exact ⟨rfl, fun old hold => nomatch habsent.symm.trans hold⟩
  | @updated old hpresent =>
    refine ⟨rfl, fun old' hold => ?_⟩
    obtain rfl := Option.some.inj (hpresent.symm.trans hold)
    exact ⟨rfl, rfl⟩

private theorem eq_answer_iff (h : Written m now tenant o r p) :
    p = r ↔ ∀ old, m tenant o.name = some old → old.createdOn = o.createdOn := by
  obtain ⟨-, htimes⟩ := h.answer_eq
  constructor
  · rintro rfl old hold
    obtain ⟨hkept, hgiven⟩ := htimes old hold
    exact hkept.symm.trans hgiven
  · intro hsame
    cases h with
    | created => rfl
    | @updated old hpresent => rw [overwritten, hsame old hpresent]

end Written

/-- All that a step can do to the map. -/
inductive Change (m : Contents) (x : Step) : Option Outcome × Contents → Prop where
  | kept {a} (h : (∃ e, a = some (.error e)) ∨ x.operation.reads)
      (hx : ∀ tenant name, x.operation ≠ .delete tenant name) : Change m x (a, m)
  | written {tenant o r p} (hx : x.Writes tenant o) (h : Written m x.now tenant o r p) :
      Change m x (some (.ok (.object r)), m.set tenant o.name (some p))
  | deleted {tenant name} (hx : x.operation = .delete tenant name) :
      Change m x (some (.ok .done), m.set tenant name none)

theorem step_change (codec : Codec) (m : Contents) (x : Step) : Change m x (m.step codec x) := by
  obtain ⟨operation, now⟩ := x
  cases operation with
  | create tenant o =>
    simp only [step]
    cases codec.encode o.schema with
    | error e => exact .kept (.inl ⟨_, rfl⟩) (by simp)
    | ok blob =>
      cases hm : m tenant o.name with
      | none => exact .written (.inl rfl) (.created hm)
      | some old => exact .kept (.inl ⟨_, rfl⟩) (by simp)
  | update tenant o =>
    simp only [step]
    cases codec.encode o.schema with
    | error e => exact .kept (.inl ⟨_, rfl⟩) (by simp)
    | ok blob =>
      cases hm : m tenant o.name with
      | none => exact .kept (.inl ⟨_, rfl⟩) (by simp)
      | some old => exact .written (.inr rfl) (.updated hm)
  | delete tenant name => exact .deleted rfl
  | find tenant name => exact .kept (.inr rfl) (by simp)
  | list tenant kind => exact .kept (.inr rfl) (by simp)

end Contents

open Contents

variable {codec : Codec} {s : Store} {m : Contents}

/-- A write that succeeds on the store does so on the map, with the same answer. -/
theorem Represents.exists_written (h : Represents codec s m) {x : Step} {tenant : String}
    {o r : CatalogObject} (hx : x.Writes tenant o) (hr : (s.step codec x).1 = .ok (.object r)) :
    ∃ p, Written m x.now tenant o r p ∧ (m.step codec x).2 = m.set tenant o.name (some p) := by
  obtain ⟨-, houtcome⟩ := h.step x
  have hchange := m.step_change codec x
  generalize m.step codec x = c at houtcome hchange ⊢
  cases hchange with
  | kept hidle =>
    rcases hidle with ⟨e, rfl⟩ | hreads
    · have herror := houtcome _ rfl
      rw [hr] at herror
      cases herror
    · exact absurd hreads hx.not_reads
  | written hx' hwritten =>
    obtain ⟨rfl, rfl⟩ := hx.unique hx'
    have hanswer := houtcome _ rfl
    rw [hr] at hanswer
    cases hanswer
    exact ⟨_, hwritten, rfl⟩
  | deleted hx' => exact absurd hx' (hx.ne_delete _ _)

theorem Contents.set_self (m : Contents) (tenant name : String) (v : Option CatalogObject) :
    m.set tenant name v tenant name = v := if_pos ⟨rfl, rfl⟩

/-- What a write leaves for the reads after it: the listing has one object under the name, and a
look-up finds it, or one of another name. -/
structure Store.Reports (s : Store) (codec : Codec) (tenant name : String) (p : CatalogObject) :
    Prop where
  name_eq : p.name = name
  has : s.Has codec tenant p
  found : ∃ q, s.find codec tenant name = .ok (some q) ∧ (q.name = name → q = p)

theorem Represents.reports_iff (h : Represents codec s m) (hd : s.Distinct)
    (hcodec : codec.RoundTrips) {tenant name : String} {p : CatalogObject} :
    s.Reports codec tenant name p ↔ m tenant name = some p := by
  constructor
  · intro hreports
    rw [← hreports.name_eq]
    exact (h.has_iff hd hcodec).1 hreports.has
  · intro hm
    have hname := h.name_eq hm
    refine ⟨hname, (h.has_iff hd hcodec).2 (hname.symm ▸ hm), ?_⟩
    obtain ⟨found, hfind, hfound, hnone⟩ := h.exists_found hd hcodec tenant name
    cases found with
    | none => exact nomatch hm.symm.trans (hnone rfl name rfl)
    | some q =>
      obtain ⟨hq, -⟩ := hfound q rfl
      refine ⟨q, hfind, fun hqname => ?_⟩
      rw [hqname, hm] at hq
      exact (Option.some.inj hq).symm

/-- A write answers with the object that the store has from then on, but for the time of its
creation: of an object that is overwritten the store keeps that time, and the answer has the
caller's. So the answer is the stored object whenever nothing is overwritten, and else when the
caller's time is that of the object overwritten. -/
theorem Store.answer_reported_iff (xs : List Step) (x : Step) (tenant : String)
    (o r : CatalogObject) (hx : x.Writes tenant o)
    (hr : ((run .json xs).2.step .json x).1 = .ok (.object r)) :
    (∃ p, ((run .json xs).2.step .json x).2.Reports .json tenant o.name p ∧
        r = { p with createdOn := r.createdOn } ∧
        ∀ old, (run .json xs).2.Reports .json tenant o.name old →
          p.createdOn = old.createdOn ∧ r.createdOn = o.createdOn) ∧
      (((run .json xs).2.step .json x).2.Reports .json tenant o.name r ↔
        ∀ old, (run .json xs).2.Reports .json tenant o.name old →
          old.createdOn = o.createdOn) := by
  have htracks := tracks_run .json xs
  have hcodec := Codec.json_roundTrips
  obtain ⟨p, hwritten, hnext⟩ := htracks.represents.exists_written hx hr
  have hp : ((Contents.after .json xs).step .json x).2 tenant o.name = some p := by
    rw [hnext, Contents.set_self]
  have hbefore (old : CatalogObject) : (run .json xs).2.Reports .json tenant o.name old ↔
      Contents.after .json xs tenant o.name = some old :=
    htracks.represents.reports_iff htracks.distinct hcodec
  have hafter (q : CatalogObject) :
      ((run .json xs).2.step .json x).2.Reports .json tenant o.name q ↔ p = q := by
    rw [(htracks.represents.step x).1.reports_iff (htracks.distinct.step .json x) hcodec, hp,
      Option.some.injEq]
  simp only [hbefore, hafter]
  exact ⟨⟨p, rfl, hwritten.answer_eq⟩, hwritten.eq_answer_iff⟩

/-- A creation, and an update by someone who does not know the time of it. -/
def Store.sampleRun : List Step := [⟨.create "acme" (.ofName "bids" .table), ⟨5, 0⟩⟩]

def Store.sampleUpdate : Step := ⟨.update "acme" (.ofName "bids" .view), ⟨7, 0⟩⟩

def Store.sampleAnswer : CatalogObject :=
  { CatalogObject.ofName "bids" .view with updatedOn := ⟨7, 0⟩ }

theorem Store.sampleUpdate_answer :
    ((run .json sampleRun).2.step .json sampleUpdate).1 = .ok (.object sampleAnswer) := by rfl

theorem Store.answer_reported_iff_sample : sampleUpdate.Writes "acme" (.ofName "bids" .view) ∧
    ((run .json sampleRun).2.step .json sampleUpdate).1 = .ok (.object sampleAnswer) ∧
    (((run .json sampleRun).2.step .json sampleUpdate).2.Reports .json "acme" "bids" sampleAnswer ↔
      ∀ old, (run .json sampleRun).2.Reports .json "acme" "bids" old →
        old.createdOn = .epoch) :=
  ⟨.inr rfl, sampleUpdate_answer,
    (answer_reported_iff sampleRun sampleUpdate "acme" (.ofName "bids" .view) sampleAnswer
      (.inr rfl) sampleUpdate_answer).2⟩

/-- The answer of the update has not the time at which the object was created. -/
theorem Store.answer_not_reported : sampleUpdate.Writes "acme" (.ofName "bids" .view) ∧
    ((run .json sampleRun).2.step .json sampleUpdate).1 = .ok (.object sampleAnswer) ∧
    ¬ ((run .json sampleRun).2.step .json sampleUpdate).2.Reports .json "acme" "bids"
      sampleAnswer := by
  refine ⟨.inr rfl, sampleUpdate_answer, fun h => ?_⟩
  have htracks := tracks_run .json (sampleRun ++ [sampleUpdate])
  have hstored := (htracks.represents.reports_iff htracks.distinct Codec.json_roundTrips).1 h
  have hcreated : (Contents.after .json (sampleRun ++ [sampleUpdate]) "acme" "bids").map
      CatalogObject.createdOn = some ⟨5, 0⟩ := by rfl
  rw [hstored] at hcreated
  cases hcreated

/-- The event wrote the schema under the key. -/
def Store.Event.Wrote (e : Event) (tenant name : String) (schema : Option Schema) : Prop :=
  ∃ o a, e.step.Writes tenant o ∧ e.outcome = .ok a ∧ o.name = name ∧ o.schema = schema

/-- The event replaced or removed what was under the key. -/
def Store.Event.Changed (e : Event) (tenant name : String) : Prop :=
  e.step.operation = .delete tenant name ∨ ∃ schema, e.Wrote tenant name schema

/-- The schema was written under the key, and nothing has changed there since. -/
def Store.LastWrote (events : List Event) (tenant name : String) (schema : Option Schema) : Prop :=
  ∃ earlier e later, events = earlier ++ e :: later ∧ e.Wrote tenant name schema ∧
    ∀ d ∈ later, ¬ d.Changed tenant name

private theorem Store.lastWrote_concat_iff {events : List Event} {e : Event} {tenant name : String}
    {schema : Option Schema} : LastWrote (events ++ [e]) tenant name schema ↔
      e.Wrote tenant name schema ∨
        ¬ e.Changed tenant name ∧ LastWrote events tenant name schema := by
  constructor
  · rintro ⟨earlier, d, later, hevents, hwrote, hlater⟩
    rcases later.eq_nil_or_concat with rfl | ⟨later, e', rfl⟩
    · obtain ⟨-, rfl⟩ := List.append_singleton_inj.1 hevents
      exact .inl hwrote
    · rw [List.concat_eq_append, ← List.cons_append, ← List.append_assoc] at hevents
      obtain ⟨rfl, rfl⟩ := List.append_singleton_inj.1 hevents
      refine .inr ⟨hlater e (by simp), earlier, d, later, rfl, hwrote, fun c hc => ?_⟩
      exact hlater c (by simp [hc])
  · rintro (hwrote | ⟨hkept, earlier, d, later, rfl, hwrote, hlater⟩)
    · exact ⟨events, e, [], rfl, hwrote, by simp⟩
    · refine ⟨earlier, d, later ++ [e], by simp, hwrote, fun c hc => ?_⟩
      rcases List.mem_append.1 hc with hc | hc
      · exact hlater c hc
      · rw [List.mem_singleton.1 hc]
        exact hkept

private theorem Store.Event.wrote_iff {e : Event} {t : String} {o : CatalogObject} {a : Answer}
    (hx : e.step.Writes t o) (ha : e.outcome = .ok a) {tenant name : String}
    {schema : Option Schema} :
    e.Wrote tenant name schema ↔ (tenant = t ∧ name = o.name) ∧ o.schema = schema := by
  constructor
  · rintro ⟨p, -, hp, -, rfl, rfl⟩
    obtain ⟨rfl, rfl⟩ := hx.unique hp
    exact ⟨⟨rfl, rfl⟩, rfl⟩
  · rintro ⟨⟨rfl, rfl⟩, rfl⟩
    exact ⟨o, a, hx, ha, rfl, rfl⟩

/-- The schema that the map has under a key after a step is the one that the step wrote there, or
the one before it. -/
theorem Represents.schema_step (h : Represents codec s m) (x : Step) (tenant name : String)
    (schema : Option Schema) :
    ((m.step codec x).2 tenant name).map CatalogObject.schema = some schema ↔
      (Event.mk x (s.step codec x).1).Wrote tenant name schema ∨
        ¬ (Event.mk x (s.step codec x).1).Changed tenant name ∧
          (m tenant name).map CatalogObject.schema = some schema := by
  obtain ⟨-, houtcome⟩ := h.step x
  have hchange := m.step_change codec x
  generalize m.step codec x = c at houtcome hchange ⊢
  cases hchange with
  | kept hidle hx =>
    have hnot (t n : String) (u : Option Schema) :
        ¬ (Event.mk x (s.step codec x).1).Wrote t n u := by
      rintro ⟨o, a, hwrites, hok, -⟩
      rcases hidle with ⟨e, rfl⟩ | hreads
      · rw [houtcome _ rfl] at hok
        cases hok
      · exact hwrites.not_reads hreads
    simp [hnot, Event.Changed, hx]
  | @written t o r p hx hwritten =>
    have hwrote (u : Option Schema) : (Event.mk x (s.step codec x).1).Wrote tenant name u ↔
        (tenant = t ∧ name = o.name) ∧ o.schema = u := Event.wrote_iff hx (houtcome _ rfl)
    have hother := hx.ne_delete tenant name
    by_cases hkey : tenant = t ∧ name = o.name
    · obtain ⟨rfl, rfl⟩ := hkey
      simp [hwrote, Event.Changed, Contents.set_self, hwritten.schema_eq]
    · simp [hwrote, Event.Changed, hkey, hother, Contents.set]
  | @deleted t n hx =>
    have hnot (u : Option Schema) : ¬ (Event.mk x (s.step codec x).1).Wrote tenant name u := by
      rintro ⟨o, a, hwrites, -⟩
      exact hwrites.ne_delete t n hx
    by_cases hkey : tenant = t ∧ name = n
    · obtain ⟨rfl, rfl⟩ := hkey
      simp [hnot, Event.Changed, hx, Contents.set_self]
    · simp [hnot, Event.Changed, hx, hkey, Contents.set, eq_comm]

theorem Store.lastWrote_run_iff (codec : Codec) (xs : List Step) (tenant name : String)
    (schema : Option Schema) : LastWrote (run codec xs).1 tenant name schema ↔
      (Contents.after codec xs tenant name).map CatalogObject.schema = some schema := by
  induction xs using List.reverseRecOn with
  | nil =>
    refine iff_of_false ?_ (by simp [Contents.after, Contents.empty])
    rintro ⟨earlier, e, later, hevents, -⟩
    cases earlier <;> cases hevents
  | append_singleton xs x ih =>
    rw [run_concat, Contents.after_concat, record, lastWrote_concat_iff, ih,
      (tracks_run codec xs).represents.schema_step]

/-- Schemas survive their blobs. So a look-up after any run never fails, the schema that it reads
is the one last written under the name that it finds, and where it finds nothing, no schema that
was written is left under any name that differs in case at most. -/
theorem Store.schema_survives (xs : List Step) (tenant name : String) :
    Codec.json.RoundTrips ∧ ∃ found, (run .json xs).2.find .json tenant name = .ok found ∧
      (∀ p ∈ found, Text.lowercase p.name = Text.lowercase name ∧
        LastWrote (run .json xs).1 tenant p.name p.schema) ∧
      (found = none → ∀ n schema, Text.lowercase n = Text.lowercase name →
        ¬ LastWrote (run .json xs).1 tenant n schema) := by
  have htracks := tracks_run .json xs
  obtain ⟨found, hfind, hsome, hnone⟩ :=
    htracks.represents.exists_found htracks.distinct Codec.json_roundTrips tenant name
  refine ⟨Codec.json_roundTrips, found, hfind, fun p hp => ?_, fun hempty n schema hn hlast => ?_⟩
  · obtain ⟨hm, hfolded⟩ := hsome p hp
    exact ⟨hfolded, (lastWrote_run_iff _ _ _ _ _).2 (by rw [hm, Option.map_some])⟩
  · have hm := (lastWrote_run_iff _ _ _ _ _).1 hlast
    rw [hnone hempty n hn] at hm
    cases hm

end MetricsView
