import MetricsView.Host.Basic
import MetricsView.Settings.Basic
import MetricsView.Toml.Basic
import MetricsView.Toml.Reader

/-!
# Where settings come from

Settings are written in TOML, in a file that a variable names, else in the first of the usual files
that is present, and without any file they are the defaults. Those that are left out keep their
defaults, and unknown ones are skipped.
-/
namespace MetricsView

open Toml (Value Members)

def CatalogSettings.ofToml? (v : Value) : Option CatalogSettings := do
  match ← v.fields? ["path"] with
  | [path] => return ⟨← Toml.default? none (fun v => v.string?.map some) path⟩
  | _ => none

def QuerySettings.ofToml? (v : Value) : Option QuerySettings := do
  match ← v.fields? ["default_limit", "timeseries_limit", "time_column", "toplist_time_column",
      "priority"] with
  | [defaultLimit, timeseriesLimit, timeColumn, toplistTimeColumn, priority] =>
    return ⟨← Toml.default? default.defaultLimit Value.nat64? defaultLimit,
      ← Toml.default? default.timeseriesLimit Value.nat64? timeseriesLimit,
      ← Toml.default? default.timeColumn Value.string? timeColumn,
      ← Toml.default? default.toplistTimeColumn Value.string? toplistTimeColumn,
      ← Toml.default? default.priority Value.int32? priority⟩
  | _ => none

namespace Settings

def ofToml? (document : Members) : Option Settings := do
  match ← Members.fields? ["catalog", "query"] document with
  | [catalog, query] =>
    return ⟨← Toml.default? .default CatalogSettings.ofToml? catalog,
      ← Toml.default? .default QuerySettings.ofToml? query⟩
  | _ => none

def invalid? (s : Settings) : Option InvalidSetting :=
  if s.query.timeColumn.isEmpty then some .emptyTimeColumn
  else if s.query.defaultLimit = 0 then some .zeroDefaultLimit
  else none

def ofText (text : String) : Except SettingsError Settings :=
  match (Toml.ofString? text).bind ofToml? with
  | none => .error .malformed
  | some s =>
    match s.invalid? with
    | some setting => .error (.invalid setting)
    | none => .ok s

end Settings

variable {m : Type → Type} [Monad m]

namespace Settings

def fileVariable : String := "METRICS_RUNTIME_CONFIG"

def localFile : String := "metrics-runtime.toml"

def userFile (directory : String) : String :=
  Path.join (Path.join directory "metrics-runtime") "config.toml"

def userDirectory (host : Host m) : m (Option String) := do
  match ← host.lookUp "XDG_CONFIG_HOME" with
  | some directory =>
    if Path.isAbsolute directory then return some directory else inHome
  | none => inHome
where
  inHome : m (Option String) := do
    match ← host.lookUp "HOME" with
    | some home => return if home = "" then none else some (Path.join home ".config")
    | none => return none

/-- The settings of a file that has to be there. -/
def ofFile (host : Host m) (path : String) : m (Except SettingsError Settings) := do
  if !(← host.isPresent path) then return .error (.fileNotFound path)
  match ← host.readText path with
  | .error fault => return .error (.unreadable fault)
  | .ok text => return ofText text

def load (host : Host m) : m (Except SettingsError Settings) := do
  if let some path ← host.lookUp fileVariable then return ← ofFile host path
  if ← host.isPresent localFile then return ← ofFile host localFile
  if let some directory ← userDirectory host then
    if ← host.isPresent (userFile directory) then return ← ofFile host (userFile directory)
  return .ok .default

end Settings

namespace CatalogSettings

def environmentOf (host : Host m) (text : String) : m Environment := do
  let found ← (Segment.references text).mapM fun name => do
    return (← host.lookUp name).map fun value => (name, value)
  return .ofList (found.filterMap id)

def resolvedPath (host : Host m) (s : CatalogSettings) :
    m (Except SettingsError (Option String)) := do
  match s.path with
  | none => return .ok none
  | some path =>
    match expand (← environmentOf host path) path with
    | .ok path => return .ok (some path)
    | .error missing => return .error (.missingVariable missing)

end CatalogSettings
end MetricsView
