import Mathlib.Data.List.DropRight
import MetricsView.Host.World
import MetricsView.Proofs.Query.Outcome
import MetricsView.Proofs.Query.Question
import MetricsView.Settings.Source

/-! # The limits that settings set

Settings are looked at when they are read: a limit of zero for toplists is turned away. So a
statement for a toplist is always limited to a positive number of rows. No such look is taken at the
limit for time series. -/
namespace MetricsView

namespace Fragment

/-- The number after LIMIT, with which the text ends. -/
def LimitedTo (f : Fragment) (n : Nat) : Prop := ∃ head, f.sql = head ++ " LIMIT " ++ toString n

theorem limitedTo_append (f : Fragment) (s : String) (n : Nat) :
    (f ++ text (s ++ " LIMIT " ++ toString n)).LimitedTo n := by
  refine ⟨f.sql ++ s, ?_⟩
  simp only [sql_append, sql_text, String.append_assoc]

theorem rtakeWhile_isDigit (head : String) (n : Nat) :
    (head ++ " LIMIT " ++ toString n).toList.rtakeWhile Char.isDigit = Nat.toDigits 10 n := by
  have hdigits : ∀ c ∈ (Nat.toDigits 10 n).reverse, c.isDigit := by
    intro c hc
    exact Nat.isDigit_of_mem_toDigits (by decide) (by decide) (List.mem_reverse.1 hc)
  have hblank : (head ++ " LIMIT ").toList.reverse.takeWhile Char.isDigit = [] := by
    rw [String.toList_append, List.reverse_append]
    rfl
  rw [List.rtakeWhile, String.toList_append, Nat.toString_eq_repr, Nat.toList_repr,
    List.reverse_append, List.takeWhile_append_of_pos hdigits, hblank, List.append_nil,
    List.reverse_reverse]

theorem LimitedTo.unique {f : Fragment} {n m : Nat} (hn : f.LimitedTo n) (hm : f.LimitedTo m) :
    m = n := by
  obtain ⟨head, hn⟩ := hn
  obtain ⟨head', hm⟩ := hm
  have hdigits : Nat.toDigits 10 m = Nat.toDigits 10 n := by
    rw [← rtakeWhile_isDigit head n, ← rtakeWhile_isDigit head' m, ← hn, ← hm]
  rw [← Nat.ofDigitChars_ten_toDigits (n := m), hdigits, Nat.ofDigitChars_ten_toDigits]

/-- There is a number after LIMIT, and it is not zero. -/
def IsLimited (f : Fragment) : Prop := ∃ n, 1 ≤ n ∧ ∀ m, f.LimitedTo m ↔ m = n

theorem LimitedTo.isLimited_iff {f : Fragment} {n : Nat} (h : f.LimitedTo n) :
    f.IsLimited ↔ n ≠ 0 := by
  constructor
  · rintro ⟨k, hk, hall⟩ rfl
    have hzero : 0 = k := (hall 0).1 h
    omega
  · intro hn
    refine ⟨n, Nat.one_le_iff_ne_zero.2 hn, fun m => ⟨h.unique, ?_⟩⟩
    rintro rfl
    exact h

end Fragment

theorem Toplist.fragment_limitedTo (r : Toplist) (options : CompileOptions) :
    (r.fragment options).LimitedTo (r.effectiveLimit options) :=
  Fragment.limitedTo_append _ _ _

theorem TimeSeries.fragment_limitedTo (r : TimeSeries) (options : CompileOptions) :
    (r.fragment options).LimitedTo options.timeseriesLimit :=
  Fragment.limitedTo_append _ _ _

/-- Whatever state the action starts from, its result is as the predicate says. -/
def Yields {σ α : Type} (P : α → Prop) (x : StateM σ α) : Prop := ∀ w, P (x.run w).1

namespace Yields

variable {σ α β : Type} {P : β → Prop}

theorem pure {b : β} (h : P b) : Yields P (Pure.pure b : StateM σ β) := fun _ => h

theorem bind {x : StateM σ α} {f : α → StateM σ β} (h : ∀ a, Yields P (f a)) :
    Yields P (x >>= f) := fun w => h (x.run w).1 (x.run w).2

end Yields

namespace Settings

variable {σ : Type} (host : Host (StateM σ))

theorem invalid?_eq_none_iff {s : Settings} :
    s.invalid? = none ↔ s.query.timeColumn ≠ "" ∧ s.query.defaultLimit ≠ 0 := by
  unfold invalid?
  by_cases hcolumn : s.query.timeColumn = ""
  · simp [hcolumn]
  · by_cases hlimit : s.query.defaultLimit = 0
    · simp [hcolumn, hlimit]
    · simp [hcolumn, hlimit]

/-- Settings that come out of a reader have stood its check. -/
def Checked (r : Except SettingsError Settings) : Prop := ∀ s, r = .ok s → s.invalid? = none

theorem checked_error (e : SettingsError) : Checked (.error e) := by
  rintro s ⟨⟩

theorem checked_default : Checked (.ok .default) := by
  rintro s ⟨⟩
  rfl

private theorem checked_ofText (text : String) : Checked (ofText text) := by
  intro s h
  rw [ofText] at h
  split at h
  · cases h
  · split at h
    · cases h
    · obtain rfl := Except.ok.inj h
      assumption

theorem yields_ofFile (path : String) : Yields Checked (ofFile host path) := by
  refine .bind fun present => ?_
  split
  · exact .pure (checked_error _)
  · refine .bind fun content => ?_
    cases content with
    | error fault => exact .pure (checked_error _)
    | ok text => exact .pure (checked_ofText text)

private theorem yields_load : Yields Checked (load host) := by
  refine .bind fun named => ?_
  cases named with
  | some path => exact yields_ofFile host path
  | none =>
    refine .bind fun present => ?_
    split
    · exact yields_ofFile host localFile
    · refine .bind fun directory => ?_
      cases directory with
      | none => exact .pure checked_default
      | some directory =>
        refine .bind fun present => ?_
        split
        · exact yields_ofFile host (userFile directory)
        · exact .pure checked_default

/-- The settings are read from a file, or found in the usual places. -/
def AcceptedBy (s : Settings) : Prop :=
  ∃ w, ((load host).run w).1 = .ok s ∨ ∃ path, ((ofFile host path).run w).1 = .ok s

private theorem AcceptedBy.invalid?_eq_none {s : Settings} (h : AcceptedBy host s) :
    s.invalid? = none := by
  obtain ⟨w, hload | ⟨path, hfile⟩⟩ := h
  · exact yields_load host w s hload
  · exact yields_ofFile host path w s hfile

/-- Under settings that were accepted, every statement for a toplist is limited, whatever limit its
request asks for. A statement for a time series has the limit of the settings, so it is limited
exactly if that is not zero. -/
theorem isLimited_of_accepted (s : Settings) (h : AcceptedBy host s) :
    (∀ (r : Toplist) (f : Fragment), r.compile (.ofSettings s.query) = .ok f → f.IsLimited) ∧
      ∀ (r : TimeSeries) (f : Fragment), r.compile (.ofSettings s.query) = .ok f →
        f.LimitedTo s.query.timeseriesLimit ∧ (f.IsLimited ↔ s.query.timeseriesLimit ≠ 0) := by
  obtain ⟨-, hdefault⟩ := invalid?_eq_none_iff.1 h.invalid?_eq_none
  constructor
  · intro r f hf
    obtain ⟨-, rfl⟩ := Toplist.compile_eq_ok_iff.1 hf
    refine (r.fragment_limitedTo _).isLimited_iff.2 ?_
    rw [Toplist.effectiveLimit]
    split
    · exact hdefault
    · assumption
  · intro r f hf
    obtain ⟨-, rfl⟩ := TimeSeries.compile_eq_ok_iff.1 hf
    have hlimited := r.fragment_limitedTo (.ofSettings s.query)
    exact ⟨hlimited, hlimited.isLimited_iff⟩

def sampleText : String := "[query]\ntimeseries_limit = 0\n"

/-- A world with settings in the working directory. -/
def sampleWorld : World where
  environment := .ofList []
  workingDirectory := ["work"]
  files := [(["work"], .directory), (["work", localFile], .file (Text.utf8 sampleText.toList))]
  clock := .epoch

def sampleSettings : Settings :=
  { Settings.default with query := { QuerySettings.default with timeseriesLimit := 0 } }

def sampleSeries : TimeSeries where
  view := "bids"
  measures := ["n"]
  timeStart := 0
  timeEnd := 1000
  grain := .day
  filter := none

def sampleFragment : Fragment :=
  ⟨"SELECT DATE_TRUNC('day', timestamp) AS timestamp, n FROM bids"
      ++ " WHERE timestamp >= epoch(?) AND timestamp < epoch(?)  GROUP BY timestamp LIMIT 0",
    [.int 0, .int 1000]⟩

theorem load_sampleWorld : ((load World.host).run sampleWorld).1 = .ok sampleSettings := by
  decide +kernel

theorem acceptedBy_sampleWorld : AcceptedBy World.host sampleSettings :=
  ⟨sampleWorld, .inl load_sampleWorld⟩

theorem compile_sampleSeries :
    sampleSeries.compile (.ofSettings sampleSettings.query) = .ok sampleFragment := by rfl

theorem isLimited_of_accepted_sample : AcceptedBy World.host sampleSettings ∧
    (∀ (r : Toplist) (f : Fragment), r.compile (.ofSettings sampleSettings.query) = .ok f →
      f.IsLimited) ∧
    ∀ (r : TimeSeries) (f : Fragment), r.compile (.ofSettings sampleSettings.query) = .ok f →
      f.LimitedTo 0 ∧ (f.IsLimited ↔ 0 ≠ 0) :=
  ⟨acceptedBy_sampleWorld, isLimited_of_accepted World.host sampleSettings acceptedBy_sampleWorld⟩

/-- Settings are accepted under which a time series has no rows. -/
theorem accepts_zero_limit : ((load World.host).run sampleWorld).1 = .ok sampleSettings ∧
    sampleSeries.compile (.ofSettings sampleSettings.query) = .ok sampleFragment ∧
    sampleFragment.LimitedTo 0 ∧ ¬ sampleFragment.IsLimited := by
  have hzero : sampleFragment.LimitedTo 0 := by
    rw [(TimeSeries.compile_eq_ok_iff.1 compile_sampleSeries).2]
    exact sampleSeries.fragment_limitedTo (.ofSettings sampleSettings.query)
  refine ⟨load_sampleWorld, compile_sampleSeries, hzero, ?_⟩
  rw [hzero.isLimited_iff]
  exact fun h => h rfl

end Settings
end MetricsView
