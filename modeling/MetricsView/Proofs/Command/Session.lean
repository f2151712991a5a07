import Mathlib.Data.List.Chain
import MetricsView.Proofs.Catalog.ArchiveLaws
import MetricsView.Proofs.Catalog.Isolation
import MetricsView.Proofs.Command.Call
import MetricsView.Proofs.Command.Words
import MetricsView.Proofs.Service.Pipeline

/-! # Sessions

Runs of the program one after the other, each of which reads its settings, opens the catalog and is
gone again. They do together what their calls do on one store that is kept open, and only the times
are others if that store has another clock. -/
namespace MetricsView

open World (fileSystem hostWith)
open Traversal

namespace Store

variable {R : Instant → Instant → Prop} {codec : Codec} {s s' : Store}

def Operation.deed : Operation → Deed
  | create tenant o => .write (.create tenant o)
  | update tenant o => .write (.update tenant o)
  | delete tenant name => .write (.delete tenant name)
  | find tenant name => .read (.find tenant name)
  | list tenant kind => .read (.list tenant kind)

theorem perform_deed (codec : Codec) (s : Store) (now : Instant) (x : Operation) :
    s.perform codec now x.deed = s.operate codec now x := by
  cases x <;> rfl

private theorem Deed.within_univ (d : Deed) : d.Within Set.univ := by
  cases d with
  | write w => exact Set.mem_univ _
  | read r => exact Set.subset_univ _

/-- The same operation, at times that agree. -/
structure Step.Agrees (R : Instant → Instant → Prop) (x y : Step) : Prop where
  operation : x.operation = y.operation
  now : R x.now y.now

theorem AgreesOn.step (h : AgreesOn R Set.univ s s') (hd : s.Distinct) (hd' : s'.Distinct)
    (codec : Codec) (hR : ∀ t, R t t) {x y : Step} (hxy : x.Agrees R y) :
    Matches (Answer.Agrees R) (s.step codec x).1 (s'.step codec y).1 ∧
      AgreesOn R Set.univ (s.step codec x).2 (s'.step codec y).2 := by
  obtain ⟨operation, now⟩ := x
  obtain ⟨operation', now'⟩ := y
  obtain ⟨hoperation, hnow⟩ := hxy
  obtain rfl : operation = operation' := hoperation
  have hperform := h.perform_within hd hd' codec hR hnow operation.deed.within_univ
  rw [perform_deed, perform_deed] at hperform
  obtain ⟨hresult, hafter⟩ := hperform
  refine ⟨?_, hafter⟩
  cases hresult with
  | outcome hanswer => exact hanswer

end Store

variable {db : Database (StateM World)}

/-- A run of the program, with the command for which its words stand and the catalog that its
settings name, which may be written or not. -/
structure Visit where
  world : World
  words : List String
  command : ObjectsCommand
  locator : String
  writable : Bool

namespace Visit

def outcome (db : Database (StateM World)) (v : Visit) : Outcome :=
  ((program (hostWith db) v.words).run v.world).1

/-- The world after the run. -/
def left (db : Database (StateM World)) (v : Visit) : World :=
  ((program (hostWith db) v.words).run v.world).2

/-- The world in which the catalog has been opened. -/
def opened (db : Database (StateM World)) (v : Visit) : World :=
  ((Catalog.openAt (hostWith db) (some v.locator)).run v.world).2

/-- The call of the store that the run makes, or why it makes none. -/
def call (db : Database (StateM World)) (v : Visit) : Except CommandError Store.Step :=
  v.command.call (v.opened db) v.writable

/-- The settings in the file that is named, or else in the usual places, name the locator. -/
def Names (db : Database (StateM World)) (w : World) (settingsPath : Option String)
    (locator : String) : Prop :=
  ∃ settings, ((Settings.ofPath? db settingsPath).run w).1 = .ok settings ∧
    ((settings.catalog.resolvedPath (hostWith db)).run w).1 = .ok (some locator)

/-- The words ask for the command, and the settings name the locator. It leads to the file once the
directories around that are made. -/
structure Uses (v : Visit) (file : DatabaseFile db) : Prop where
  asks : ∃ settingsPath, Invocation.ofWords v.words = .ok ⟨settingsPath, .objects v.command⟩ ∧
    Names db v.world settingsPath v.locator
  enclosing : ((fileSystem.ensureEnclosing v.locator).run v.world).1 = .ok ()
  leads : file.Leads ((fileSystem.ensureEnclosing v.locator).run v.world).2 v.locator v.writable

/-- The run finds the rows of the store in the file, tells what comes of its call and leaves the
file with what the call makes of them. -/
structure Serves (v : Visit) (file : DatabaseFile db) (s : Store) : Prop where
  connected : ∃ c, ((Catalog.openAt (hostWith db) (some v.locator)).run v.world).1 = .ok c ∧
    file.Connected (v.opened db) c v.writable
  found : file.table (v.opened db) = some s
  told : ∀ x, v.call db = .ok x →
    Outcome.Tells v.command.name (s.step .json x).1 (v.outcome db)
  refused : ∀ e, v.call db = .error e → v.outcome db = ⟨1, "", e.message ++ "\n"⟩
  left : file.table (v.left db) = some (ObjectsCommand.storeAfter s (v.call db))

variable {v : Visit} {file : DatabaseFile db} {s : Store}

private theorem run_program {words : List String} {w w' : World} {settingsPath : Option String}
    {settings : Settings} {command : ObjectsCommand} {r : Except CommandError String}
    (hwords : Invocation.ofWords words = .ok ⟨settingsPath, .objects command⟩)
    (hsettings : ((Settings.ofPath? db settingsPath).run w).1 = .ok settings)
    (hrun : (command.run (hostWith db) settings).run.run w = (r, w')) :
    (program (hostWith db) words).run w = (.ofReply r, w') := by
  have hread : (Settings.ofPath? db settingsPath).run w = (.ok settings, w) := by
    rw [(Settings.looks_ofPath? settingsPath).run_eq w, hsettings]
  have hinvoked :
      (Invocation.run (hostWith db) ⟨settingsPath, .objects command⟩).run.run w = (r, w') := by
    refine Eq.trans ?_ hrun
    rw [Invocation.run]
    exact Step.run_bind_ok (Step.run_ofExcept hread .settings) _
  rw [program, hwords]
  simp only
  rw [World.run_bind hinvoked]
  cases r <;> rfl

theorem Uses.serves (h : v.Uses file) (hlaws : file.Lawful) (hd : s.Distinct)
    (hyields : file.Yields v.world v.writable s) : v.Serves file s := by
  obtain ⟨⟨settingsPath, hwords, settings, hsettings, hlocator⟩, henclosing, hleads⟩ := h
  obtain ⟨c, w₁, hopen, hconnected, hfound⟩ := hlaws.run_openAt henclosing hleads hyields
  have hopened : v.opened db = w₁ := congrArg Prod.snd hopen
  subst hopened
  have hlocated : (settings.catalog.resolvedPath (hostWith db)).run v.world =
      (.ok (some v.locator), v.world) := by
    rw [settings.catalog.looks_resolvedPath.run_eq v.world, hlocator]
  obtain ⟨w', hrun, hleft⟩ :=
    ObjectsCommand.run_run hlaws v.command hlocated hopen hconnected hfound hd
  have hprogram := run_program hwords hsettings hrun
  have houtcome : v.outcome db = .ofReply (v.command.reply s (v.call db)) :=
    congrArg Prod.fst hprogram
  refine ⟨⟨c, congrArg Prod.fst hopen, hconnected⟩, hfound, fun x hx => ?_, fun e he => ?_, ?_⟩
  · rw [houtcome, hx]
    exact v.command.tells_told _
  · rw [houtcome, he]
    rfl
  · have hworld : v.left db = w' := congrArg Prod.snd hprogram
    rw [hworld]
    exact hleft

end Visit

/-- All runs use the file. From one run to the next it stays as it is, and so does what the database
keeps beside it; anything else may change. -/
structure Session (file : DatabaseFile db) (vs : List Visit) : Prop where
  uses : ∀ v ∈ vs, v.Uses file
  follows : vs.IsChain fun v v' => file.Same (v.left db) v'.world

/-- The calls that runs make, in their order. -/
def Visit.calls (db : Database (StateM World)) (vs : List Visit) : List Store.Step :=
  vs.filterMap fun v => (v.call db).toOption

/-- The store that the runs before leave, as one that is kept open is left by their calls. -/
def Visit.storeAfter (db : Database (StateM World)) (s : Store) (vs : List Visit) : Store :=
  Service.stored .json s (calls db vs)

namespace Visit

private theorem storeAfter_cons (s : Store) (v : Visit) (vs : List Visit) :
    storeAfter db s (v :: vs) = storeAfter db (ObjectsCommand.storeAfter s (v.call db)) vs := by
  rw [storeAfter, calls, List.filterMap_cons]
  cases v.call db <;> rfl

private theorem distinct_after {s : Store} (hd : s.Distinct)
    (call : Except CommandError Store.Step) : (ObjectsCommand.storeAfter s call).Distinct := by
  cases call with
  | error e => exact hd
  | ok x => exact hd.step .json x

end Visit

namespace Session

variable {file : DatabaseFile db} {vs : List Visit} {v : Visit} {s : Store}

private theorem serves {before after : List Visit} (h : Session file (before ++ v :: after))
    (hlaws : file.Lawful) (hd : s.Distinct)
    (hstart : ∀ u ∈ (before ++ v :: after).head?, file.Yields u.world u.writable s) :
    v.Serves file (Visit.storeAfter db s before) := by
  -- The table that a run leaves is the one that the next run finds.
  induction before generalizing s with
  | nil => exact (h.uses v List.mem_cons_self).serves hlaws hd (hstart v rfl)
  | cons u before ih =>
    have hserves := (h.uses u List.mem_cons_self).serves hlaws hd (hstart u rfl)
    obtain ⟨hnext, hfollows⟩ := List.isChain_cons.1 h.follows
    rw [Visit.storeAfter_cons]
    refine ih ⟨fun t ht => h.uses t (List.mem_cons_of_mem _ ht), hfollows⟩
      (Visit.distinct_after hd _) fun t ht => ?_
    have htable := (hlaws.same (hnext t ht)).trans hserves.left
    exact DatabaseFile.yields_of_table htable t.writable

end Session

def sampleSettingsText : String := "[catalog]\npath = \"data/catalog.db\"\n"

def sampleSettings : Settings := { Settings.default with catalog := ⟨some "data/catalog.db"⟩ }

def sampleSchema : Schema := ⟨[]⟩

/-- A world with settings and a schema in the working directory. -/
def sampleWorld (clock : Instant) (entries : FileTree) : World where
  environment := .ofList []
  workingDirectory := ["work"]
  files := (["work"], .directory) ::
    (["work", Settings.localFile], .file (Text.utf8 sampleSettingsText.toList)) ::
    (["work", "bids.json"], .file (Text.utf8 (sampleSchema.toJson.spell .lines 0))) :: entries
  clock := clock

/-- What the first of the sample runs leaves. -/
def sampleStore : Store :=
  ⟨[⟨"acme", "bids", 1, none, some (Text.utf8 sampleSchema.toJson.compact), 0, ⟨5, 0⟩, ⟨5, 0⟩,
    ⟨5, 0⟩⟩]⟩

def sampleText : String :=
  "\x7b
  \"name\": \"bids\",
  \"type\": \"table\",
  \"sql\": null,
  \"schema\": \x7b
    \"fields\": []
  \x7d,
  \"managed\": false,
  \"created_on\": \"1970-01-01T00:00:05Z\",
  \"updated_on\": \"1970-01-01T00:00:05Z\",
  \"refreshed_on\": \"1970-01-01T00:00:05Z\"
\x7d
"

end MetricsView
