import MetricsView.Proofs.Catalog.Database
import MetricsView.Proofs.Command.Output
import MetricsView.Proofs.Text

/-! # Commands as calls of the store

A command for the objects of a tenant makes at most one call of the store in the catalog that it
opens, and tells what came of it. -/
namespace MetricsView

open World (fileSystem hostWith Looks)

variable {db : Database (StateM World)}

namespace Settings

private theorem looks_ofFile (path : String) : Looks (ofFile (hostWith db) path) := by
  refine (Looks.isPresent path).bind fun present => ?_
  split
  · exact .pure _
  · refine (Looks.readText path).bind fun content => ?_
    split <;> exact .pure _

private theorem looks_userDirectory : Looks (userDirectory (hostWith db)) := by
  have hhome : Looks (userDirectory.inHome (hostWith db)) := by
    refine (Looks.lookUp db _).bind fun home => ?_
    split <;> exact .pure _
  refine (Looks.lookUp db _).bind fun directory => ?_
  split
  · split
    · exact .pure _
    · exact hhome
  · exact hhome

private theorem looks_load : Looks (load (hostWith db)) := by
  refine (Looks.lookUp db _).bind fun named => ?_
  split
  · exact looks_ofFile _
  · refine (Looks.isPresent _).bind fun present => ?_
    split
    · exact looks_ofFile _
    · refine looks_userDirectory.bind fun directory => ?_
      split
      · refine (Looks.isPresent _).bind fun present => ?_
        split
        · exact looks_ofFile _
        · exact .pure _
      · exact .pure _

/-- The settings of the file that is named, or else those of the usual places. -/
def ofPath? (db : Database (StateM World)) :
    Option String → StateM World (Except SettingsError Settings)
  | some path => ofFile (hostWith db) path
  | none => load (hostWith db)

theorem looks_ofPath? (path : Option String) : Looks (ofPath? db path) := by
  cases path with
  | some path => exact looks_ofFile path
  | none => exact looks_load

end Settings

theorem CatalogSettings.looks_resolvedPath (s : CatalogSettings) :
    Looks (s.resolvedPath (hostWith db)) := by
  rw [resolvedPath]
  split
  · exact .pure _
  · refine Looks.bind ?_ fun env => ?_
    · refine (Looks.mapM (fun name => ?_) _).bind fun found => .pure _
      exact (Looks.lookUp db name).bind fun value => .pure _
    · split <;> exact .pure _

private theorem looks_readJson {α : Type} (f : Json → Option α) (path : String) :
    Looks (readJson fileSystem f path) := by
  refine (Looks.readText path).bind fun content => ?_
  split
  · exact .pure _
  · split <;> exact .pure _

namespace Step

variable {α β ε : Type} {w w' : World} {a : α}

theorem run_bind_ok {x : Step (StateM World) α} (h : x.run.run w = (.ok a, w'))
    (f : α → Step (StateM World) β) : (x >>= f).run.run w = (f a).run.run w' := by
  rw [ExceptT.run_bind, World.run_bind h]

theorem run_bind_error {x : Step (StateM World) α} {e : CommandError}
    (h : x.run.run w = (.error e, w')) (f : α → Step (StateM World) β) :
    (x >>= f).run.run w = (.error e, w') := by
  rw [ExceptT.run_bind, World.run_bind h]
  rfl

theorem run_ofExcept {x : StateM World (Except ε α)} {r : Except ε α} (h : x.run w = (r, w'))
    (wrap : ε → CommandError) :
    (Step.ofExcept wrap x).run.run w = (r.mapError wrap, w') := by
  rw [Step.ofExcept, ExceptT.run_mk, World.run_bind h]
  cases r <;> rfl

end Step

namespace ObjectsCommand

/-- The name on the command line. -/
def name : ObjectsCommand → String
  | list _ _ => ""
  | get _ name | create _ name _ _ _ _ | delete _ name => name

/-- The schema for a new object, out of the file that is named for it. -/
def schemaIn (w : World) : Option String → Except JsonFileError (Option Schema)
  | none => .ok none
  | some path => ((readJson fileSystem Schema.ofJson? path).run w).1.map some

/-- An object as a create asks for it. -/
def asked (name : String) (kind : ObjectKind) (sql : Option String) (managed : Bool)
    (schema : Option Schema) : CatalogObject :=
  { CatalogObject.ofName name kind with sql, schema, managed }

/-- The call of the store for which the command stands. None is made if the file for the schema can
not be read, or to change a catalog that may only be read. -/
def call (w : World) (writable : Bool) : ObjectsCommand → Except CommandError Store.Step
  | list tenant kind => .ok ⟨.list tenant kind, w.clock⟩
  | get tenant name => .ok ⟨.find tenant name, w.clock⟩
  | create tenant name kind sql schemaPath managed =>
    match schemaIn w schemaPath with
    | .error e => .error (.schemaFile e)
    | .ok schema =>
      if writable then .ok ⟨.create tenant (asked name kind sql managed schema), w.clock⟩
      else .error (.objects (.storage .readOnly))
  | delete tenant name =>
    if writable then .ok ⟨.delete tenant name, w.clock⟩
    else .error (.objects (.storage .readOnly))

/-- What the command tells of the outcome of its call. -/
def told (c : ObjectsCommand) : Store.Outcome → Except CommandError String
  | .error e => .error (.objects e)
  | .ok .done => .ok ""
  | .ok (.object o) | .ok (.found (some o)) => .ok (printed o.toJson)
  | .ok (.found none) => .error (.absent c.name)
  | .ok (.listed os) => .ok (printed (.list CatalogObject.toJson os))

/-- What the command tells when its call is made of the store. -/
def reply (c : ObjectsCommand) (s : Store) (call : Except CommandError Store.Step) :
    Except CommandError String := do
  c.told (s.step .json (← call)).1

/-- The store after a call, if there is one. -/
def storeAfter (s : Store) : Except CommandError Store.Step → Store
  | .ok x => (s.step .json x).2
  | .error _ => s

variable {file : DatabaseFile db} {w : World} {writable : Bool} {c : db.Connection} {s : Store}

private theorem run_newObject (db : Database (StateM World)) (name : String) (kind : ObjectKind)
    (sql schemaPath : Option String) (managed : Bool) (w : World) :
    (newObject (hostWith db) name kind sql schemaPath managed).run.run w =
      (((schemaIn w schemaPath).mapError .schemaFile).map (asked name kind sql managed), w) := by
  cases schemaPath with
  | none => rfl
  | some path =>
    have hread := Step.run_ofExcept ((looks_readJson Schema.ofJson? path).run_eq w) .schemaFile
    simp only [newObject, schemaIn, map_eq_pure_bind, bind_assoc]
    generalize ((readJson fileSystem Schema.ofJson? path).run w).1 = r at hread ⊢
    cases r with
    | error e => exact Step.run_bind_error hread _
    | ok schema => exact Step.run_bind_ok hread _

/-- The command makes its call, if there is one, in the table of an open catalog, and tells what
came of it. -/
private theorem run_apply (h : file.Lawful) (hc : file.Connected w c writable)
    (hs : file.table w = some s) (hd : s.Distinct) (command : ObjectsCommand) :
    ∃ w', (command.apply (hostWith db) c).run.run w =
        (command.reply s (command.call w writable), w') ∧
      file.table w' = some (storeAfter s (command.call w writable)) := by
  cases command with
  | list tenant kind =>
    obtain ⟨w', hrun, htable⟩ := h.run_list hc hs hd tenant kind
    have hanswer := Step.run_ofExcept hrun .objects
    refine ⟨w', ?_, htable⟩
    change _ = ((list tenant kind).told ((s.list .json tenant kind).map .listed), w')
    rw [apply]
    generalize s.list .json tenant kind = r at hanswer ⊢
    cases r with
    | error e => exact Step.run_bind_error hanswer _
    | ok os => exact Step.run_bind_ok hanswer _
  | get tenant name =>
    obtain ⟨w', hrun, htable⟩ := h.run_find hc hs hd tenant name
    have hanswer := Step.run_ofExcept hrun .objects
    refine ⟨w', ?_, htable⟩
    change _ = ((get tenant name).told ((s.find .json tenant name).map .found), w')
    rw [apply]
    generalize s.find .json tenant name = r at hanswer ⊢
    cases r with
    | error e => exact Step.run_bind_error hanswer _
    | ok o => cases o <;> exact Step.run_bind_ok hanswer _
  | create tenant name kind sql schemaPath managed =>
    have hnew := run_newObject db name kind sql schemaPath managed w
    rw [apply, call]
    generalize schemaIn w schemaPath = schema at hnew ⊢
    cases schema with
    | error e => exact ⟨w, Step.run_bind_error hnew _, hs⟩
    | ok schema =>
      rw [Step.run_bind_ok hnew]
      cases writable with
      | false =>
        obtain ⟨w', hrun, htable⟩ := h.run_create_readOnly hc hs tenant
          (asked name kind sql managed schema)
        exact ⟨w', Step.run_bind_error (Step.run_ofExcept hrun .objects) _, htable⟩
      | true =>
        obtain ⟨w', hrun, htable⟩ := h.run_create hc hs tenant (asked name kind sql managed schema)
        have hanswer := Step.run_ofExcept hrun .objects
        refine ⟨w', ?_, htable⟩
        change _ = ((create tenant name kind sql schemaPath managed).told
          (s.step .json ⟨.create tenant (asked name kind sql managed schema), w.clock⟩).1, w')
        simp only [Store.step]
        generalize s.create .json w.clock tenant _ = r at hanswer ⊢
        cases r with
        | error e => exact Step.run_bind_error hanswer _
        | ok created => exact Step.run_bind_ok hanswer _
  | delete tenant name =>
    rw [apply, call]
    cases writable with
    | false =>
      obtain ⟨w', hrun, htable⟩ := h.run_delete_readOnly hc hs tenant name
      exact ⟨w', Step.run_bind_error (Step.run_ofExcept hrun .objects) _, htable⟩
    | true =>
      obtain ⟨w', hrun, htable⟩ := h.run_delete hc hs tenant name
      exact ⟨w', Step.run_bind_ok (Step.run_ofExcept hrun .objects) _, htable⟩

/-- From opening to telling. The world between is the one in which the catalog is open. -/
theorem run_run {settings : Settings} {locator : String} {w₁ : World} (h : file.Lawful)
    (command : ObjectsCommand)
    (hlocator : (settings.catalog.resolvedPath (hostWith db)).run w = (.ok (some locator), w))
    (hopen : (Catalog.openAt (hostWith db) (some locator)).run w = (.ok c, w₁))
    (hc : file.Connected w₁ c writable) (hs : file.table w₁ = some s) (hd : s.Distinct) :
    ∃ w', (command.run (hostWith db) settings).run.run w =
        (command.reply s (command.call w₁ writable), w') ∧
      file.table w' = some (storeAfter s (command.call w₁ writable)) := by
  obtain ⟨w', happly, htable⟩ := run_apply h hc hs hd command
  refine ⟨w', ?_, htable⟩
  rw [run, Step.run_bind_ok (Step.run_ofExcept hlocator .catalogPath),
    Step.run_bind_ok (Step.run_ofExcept hopen .catalog)]
  exact happly

end ObjectsCommand

/-- How the program ends with what a command tells. -/
def Outcome.ofReply : Except CommandError String → Outcome
  | .ok output => ⟨0, output, ""⟩
  | .error e => ⟨1, "", e.message ++ "\n"⟩

theorem ObjectsCommand.tells_told (c : ObjectsCommand) (o : Store.Outcome) :
    Outcome.Tells c.name o (.ofReply (c.told o)) := by
  rcases o with e | ⟨o⟩ | - | (_ | o) | os
  · exact .failed e
  · exact .object o.ofText?_printed
  · exact .done
  · exact .absent
  · exact .found o.ofText?_printed
  · exact .listed (CatalogObject.listOfText?_printed os)

end MetricsView
