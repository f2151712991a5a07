import MetricsView.Host.Basic
import MetricsView.Command.Invocation
import MetricsView.Failure
import MetricsView.Json.Printer
import MetricsView.Query.Compile
import MetricsView.Settings.Basic
import MetricsView.Settings.Source

/-!
# Running commands

A command reads its settings, does its work and leaves the text that it prints. Each command opens
the catalog of the settings for itself.
-/
namespace MetricsView

/-- A file that holds no value of the expected type in JSON. -/
inductive JsonFileError where
  | unreadable (path : String) (fault : FileFault)
  | malformed (path : String)
  deriving DecidableEq, Repr

def JsonFileError.message : JsonFileError → String
  | .unreadable path fault => s!"Error reading file '{path}': {fault.message}"
  | .malformed path => s!"Invalid JSON in '{path}': not of the expected form"

inductive CommandError where
  | settings (error : SettingsError)
  | catalogPath (error : SettingsError)
  | catalog (failure : Failure)
  | objects (failure : Failure)
  | absent (name : String)
  | schemaFile (error : JsonFileError)
  | requestFile (error : JsonFileError)
  | compile (error : CompileError)
  deriving DecidableEq, Repr

def CommandError.message : CommandError → String
  | .settings error => s!"Configuration error: {error.message}"
  | .catalogPath error => s!"Error opening catalog: {error.message}"
  | .catalog failure => s!"Error opening catalog: {failure.message}"
  | .objects failure => s!"Error: {failure.message}"
  | .absent name => s!"Error: object not found: {name}"
  | .schemaFile error => s!"Error: {error.message}"
  | .requestFile error => s!"Compilation error: {error.message}"
  | .compile error => s!"Compilation error: {error.message}"

variable {m : Type → Type} [Monad m] (host : Host m)

abbrev Step (m : Type → Type) := ExceptT CommandError m

def Step.ofExcept (wrap : ε → CommandError) (step : m (Except ε α)) : Step m α :=
  ExceptT.mk do
    match ← step with
    | .ok a => return .ok a
    | .error e => return .error (wrap e)

def readJson (files : FileSystem m) (ofJson? : Json → Option α) (path : String) :
    m (Except JsonFileError α) := do
  match ← files.readText path with
  | .error fault => return .error (.unreadable path fault)
  | .ok text =>
    match (Json.ofString? text).bind ofJson? with
    | some a => return .ok a
    | none => return .error (.malformed path)

def printed (v : Json) : String := v.renderLines ++ "\n"

namespace ObjectsCommand

def newObject (name : String) (kind : ObjectKind) (sql schemaPath : Option String)
    (managed : Bool) : Step m CatalogObject := do
  let files := host.toFileSystem
  let schema ← match schemaPath with
    | none => pure none
    | some path => some <$> Step.ofExcept .schemaFile (readJson files Schema.ofJson? path)
  return { CatalogObject.ofName name kind with sql, schema, managed }

/-- What the command does to an open catalog, and the text that it prints. -/
def apply (c : host.database.Connection) : ObjectsCommand → Step m String
  | list tenant kind => do
    let found ← Step.ofExcept .objects (Catalog.list c tenant kind)
    return printed (.list CatalogObject.toJson found)
  | get tenant name => do
    match ← Step.ofExcept .objects (Catalog.find c tenant name) with
    | some o => return printed o.toJson
    | none => throw (.absent name)
  | create tenant name kind sql schemaPath managed => do
    let o ← newObject host name kind sql schemaPath managed
    let created ← Step.ofExcept .objects (Catalog.create c host.now tenant o)
    return printed created.toJson
  | delete tenant name => do
    Step.ofExcept .objects (Catalog.delete c tenant name)
    return ""

def run (settings : Settings) (command : ObjectsCommand) : Step m String := do
  let locator ← Step.ofExcept .catalogPath (settings.catalog.resolvedPath host)
  let c ← Step.ofExcept .catalog (Catalog.openAt host locator)
  command.apply host c

end ObjectsCommand

def compileFile (options : CompileOptions) (shape : RequestShape) (path : String) :
    Step m Fragment := do
  let compiled ← match shape with
    | .toplist => do
      let r ← Step.ofExcept .requestFile (readJson host.toFileSystem Toplist.ofJson? path)
      pure (r.compile options)
    | .timeSeries => do
      let r ← Step.ofExcept .requestFile (readJson host.toFileSystem TimeSeries.ofJson? path)
      pure (r.compile options)
    | .totals => do
      let r ← Step.ofExcept .requestFile (readJson host.toFileSystem Totals.ofJson? path)
      pure (r.compile options)
  Step.ofExcept .compile (pure compiled)

/-- The query, and its arguments in lines of comments. -/
def Fragment.listing (f : Fragment) : String :=
  let lines := f.args.zipIdx.map fun (arg, i) => s!"--   ${i + 1} = {arg.toJson.render}\n"
  f.sql ++ "\n" ++ (if lines.isEmpty then "" else "\n-- Arguments:\n" ++ String.join lines)

namespace Invocation

def run (i : Invocation) : Step m String := do
  let settings ← Step.ofExcept .settings <| match i.settingsPath with
    | some path => Settings.ofFile host path
    | none => Settings.load host
  match i.command with
  | .objects c => c.run host settings
  | .compile shape path asJson =>
    let query ← compileFile host (.ofSettings settings.query) shape path
    return if asJson then printed query.toJson else query.listing

end Invocation

structure Outcome where
  code : Nat
  output : String
  errors : String
  deriving DecidableEq, Repr

def versionLine : String := "metrics-runtime 0.1.0\n"

def usage : String :=
  "Usage: metrics-runtime [-c PATH] [-v] COMMAND

Commands:
  objects list    -t TENANT [--type TYPE]
  objects get     -t TENANT NAME
  objects create  -t TENANT NAME --type TYPE [--sql SQL] [--schema PATH] [--managed]
  objects delete  -t TENANT NAME
  compile         toplist|timeseries|totals PATH [--json]
"

def program (words : List String) : m Outcome := do
  match Invocation.ofWords words with
  | .error .help => return ⟨0, usage, ""⟩
  | .error .version => return ⟨0, versionLine, ""⟩
  | .error .misuse => return ⟨2, "", usage⟩
  | .ok i =>
    match ← (i.run host).run with
    | .ok output => return ⟨0, output, ""⟩
    | .error e => return ⟨1, "", e.message ++ "\n"⟩

end MetricsView
