import MetricsView.File
import MetricsView.Json.Reader
import MetricsView.Text.CharClass

/-!
# Settings

Settings have defaults, and the path of the catalog may refer to variables: it falls into plain
characters, references and dollar signs that refer to nothing. Expansion puts the value of its
variable in place of each reference. What a value brings in is not looked at again.
-/
namespace MetricsView

abbrev Environment := String → Option String

/-- Such a name can not be given to a variable. -/
def Environment.isReserved (name : String) : Bool :=
  name.isEmpty || name.toList.any fun c => c = '=' || c = '\x00'

/-- The first value given to a name counts. -/
def Environment.ofList (pairs : List (String × String)) : Environment := fun name =>
  if isReserved name then none else (pairs.find? fun v => v.1 = name).map (·.2)

structure MissingVariable where
  name : String
  deriving DecidableEq, Repr

inductive Segment where
  | plain (c : Char)
  /-- A dollar sign and a name in braces. Without a closing brace the name takes all that
  follows. -/
  | braced (name : List Char) (closed : Bool)
  /-- A dollar sign and the longest run of name characters after it. -/
  | bare (name : List Char)
  /-- A dollar sign that no name follows. -/
  | lone
  deriving DecidableEq, Repr

namespace Segment

def isNameChar (c : Char) : Bool := Text.isAlphanumeric c || c = '_'

def isBraceEnd (c : Char) : Bool := c = '\x7d'

def spelling : Segment → List Char
  | plain c => [c]
  | braced name true => '$' :: '\x7b' :: name ++ ['\x7d']
  | braced name false => '$' :: '\x7b' :: name
  | bare name => '$' :: name
  | lone => ['$']

def ofChars : List Char → List Segment
  | [] => []
  | '$' :: '\x7b' :: cs =>
    .braced (cs.takeWhile fun c => !isBraceEnd c) (cs.any isBraceEnd)
      :: ofChars (cs.dropWhile fun c => !isBraceEnd c).tail
  | '$' :: cs =>
    let name := cs.takeWhile isNameChar
    if name.isEmpty then .lone :: ofChars cs
    else .bare name :: ofChars (cs.dropWhile isNameChar)
  | c :: cs => .plain c :: ofChars cs
termination_by cs => cs.length
decreasing_by
  · have hle : (cs.dropWhile fun c => !isBraceEnd c).length ≤ cs.length :=
      (List.dropWhile_sublist _).length_le
    simp only [List.length_tail, List.length_cons]
    omega
  · simp
  · have hle : (cs.dropWhile isNameChar).length ≤ cs.length := (List.dropWhile_sublist _).length_le
    simp only [List.length_cons]
    omega
  · simp

def name? : Segment → Option String
  | braced name _ => some (String.ofList name)
  | bare name => some (String.ofList name)
  | plain _ | lone => none

def references (s : String) : List String := (ofChars s.toList).filterMap name?

def valueOf (env : Environment) (name : List Char) : Except MissingVariable (List Char) :=
  match env (String.ofList name) with
  | some value => .ok value.toList
  | none => .error ⟨String.ofList name⟩

def value (env : Environment) : Segment → Except MissingVariable (List Char)
  | plain c => .ok [c]
  | braced name _ => valueOf env name
  | bare name => valueOf env name
  | lone => .ok ['$']

end Segment

/-- The text with each reference replaced. The first variable that is not set is missing. -/
def expand (env : Environment) (s : String) : Except MissingVariable String := do
  let parts ← (Segment.ofChars s.toList).mapM (Segment.value env)
  return String.ofList parts.flatten

structure CatalogSettings where
  /-- Where the catalog is kept; in memory when there is no path. May refer to variables. -/
  path : Option String
  deriving DecidableEq, Repr

structure QuerySettings where
  /-- The limit of a toplist whose request leaves it open. -/
  defaultLimit : Nat
  timeseriesLimit : Nat
  timeColumn : String
  /-- The time column for the bounds of a toplist; empty for no bounds. -/
  toplistTimeColumn : String
  priority : Int
  deriving DecidableEq, Repr

structure Settings where
  catalog : CatalogSettings
  query : QuerySettings
  deriving DecidableEq, Repr

namespace CatalogSettings

def default : CatalogSettings := ⟨none⟩

def toJson (s : CatalogSettings) : Json := .record [("path", .option Json.text s.path)]

def ofJson? (v : Json) : Option CatalogSettings := do
  match ← v.fields? ["path"] with
  | [path] => return ⟨← Json.default? none (Json.option? Json.string?) path⟩
  | _ => none

end CatalogSettings

namespace QuerySettings

def default : QuerySettings where
  defaultLimit := 100
  timeseriesLimit := 1000
  timeColumn := "timestamp"
  toplistTimeColumn := ""
  priority := 1

def toJson (s : QuerySettings) : Json :=
  .record [("default_limit", .int s.defaultLimit), ("timeseries_limit", .int s.timeseriesLimit),
    ("time_column", .text s.timeColumn), ("toplist_time_column", .text s.toplistTimeColumn),
    ("priority", .int s.priority)]

def ofJson? (v : Json) : Option QuerySettings := do
  match ← v.fields? ["default_limit", "timeseries_limit", "time_column", "toplist_time_column",
      "priority"] with
  | [defaultLimit, timeseriesLimit, timeColumn, toplistTimeColumn, priority] =>
    return ⟨← Json.default? default.defaultLimit Json.nat64? defaultLimit,
      ← Json.default? default.timeseriesLimit Json.nat64? timeseriesLimit,
      ← Json.default? default.timeColumn Json.string? timeColumn,
      ← Json.default? default.toplistTimeColumn Json.string? toplistTimeColumn,
      ← Json.default? default.priority Json.int32? priority⟩
  | _ => none

end QuerySettings

namespace Settings

def default : Settings := ⟨.default, .default⟩

def toJson (s : Settings) : Json :=
  .record [("catalog", s.catalog.toJson), ("query", s.query.toJson)]

def ofJson? (v : Json) : Option Settings := do
  match ← v.fields? ["catalog", "query"] with
  | [catalog, query] =>
    return ⟨← Json.default? .default CatalogSettings.ofJson? catalog,
      ← Json.default? .default QuerySettings.ofJson? query⟩
  | _ => none

end Settings

inductive InvalidSetting where
  | emptyTimeColumn
  | zeroDefaultLimit
  deriving DecidableEq, Repr

def InvalidSetting.message : InvalidSetting → String
  | .emptyTimeColumn => "query.time_column must not be empty"
  | .zeroDefaultLimit => "query.default_limit must be positive"

inductive SettingsError where
  | fileNotFound (path : String)
  | unreadable (fault : FileFault)
  /-- The file is no TOML, or does not spell settings. -/
  | malformed
  | missingVariable (missing : MissingVariable)
  | invalid (setting : InvalidSetting)
  deriving DecidableEq, Repr

def SettingsError.message : SettingsError → String
  | .fileNotFound path => s!"Config file not found: {path}"
  | .unreadable fault => s!"Failed to read config file: {fault.message}"
  | .malformed => "Failed to parse config file: no settings in TOML"
  | .missingVariable missing => s!"Missing environment variable: {missing.name}"
  | .invalid setting => s!"Invalid configuration: {setting.message}"

end MetricsView
