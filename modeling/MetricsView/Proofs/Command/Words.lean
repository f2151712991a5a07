import Mathlib.Data.List.Forall2
import Mathlib.Data.List.Nodup
import MetricsView.Command.Invocation

/-! # Words for commands

There are words for every command for the objects of a tenant, whatever texts it holds: each option
is one word, with its value behind an equals sign, and the name stands behind a double dash. -/
namespace MetricsView

namespace Level

/-- The word gives the option at the level. A flag has the empty value. -/
inductive Writes (level : Level) : String × String → String → Prop where
  | value {name value short accepts} (hname : '=' ∉ name.toList) (haccepts : accepts value)
      (hspec : level.options.find? (fun spec => spec.name = name) =
        some ⟨name, short, .value accepts⟩) :
      Writes level (name, value) ("--" ++ name ++ "=" ++ value)
  | flag {name short} (hname : '=' ∉ name.toList) (hne : name ≠ "")
      (hspec : level.options.find? (fun spec => spec.name = name) = some ⟨name, short, .flag⟩) :
      Writes level (name, "") ("--" ++ name)

variable {level : Level} {o : String × String} {text : String}
  {given os : List (String × String)} {words rest : List String}

end Level

namespace ObjectsCommand

def verb : ObjectsCommand → String
  | list _ _ => "list"
  | get _ _ => "get"
  | create _ _ _ _ _ _ => "create"
  | delete _ _ => "delete"

/-- The options of the command, with one for the file of the settings. -/
def options (settingsPath : Option String) (c : ObjectsCommand) : List (String × String) :=
  (settingsPath.map fun path => ("config", path)).toList ++
    match c with
    | list tenant kind => ("tenant", tenant) :: (kind.map fun k => ("type", k.name)).toList
    | get tenant _ | delete tenant _ => [("tenant", tenant)]
    | create tenant _ kind sql schemaPath managed =>
      ("tenant", tenant) :: ("type", kind.name) ::
        ((sql.map fun text => ("sql", text)).toList ++
          (schemaPath.map fun path => ("schema", path)).toList ++
          if managed then [("managed", "")] else [])

def operand? : ObjectsCommand → Option String
  | list _ _ => none
  | get _ name | create _ name _ _ _ _ | delete _ name => some name

/-- An option in a word of its own. -/
def spelled : String × String → String
  | ("managed", _) => "--managed"
  | (name, value) => "--" ++ name ++ "=" ++ value

/-- The words that ask for a command. -/
def words (settingsPath : Option String) (c : ObjectsCommand) : List String :=
  "objects" :: c.verb :: ((c.options settingsPath).map spelled ++
    c.operand?.elim [] fun name => ["--", name])

/-- The level at which the options of the command are written. -/
def level (c : ObjectsCommand) : Level :=
  ((Invocation.objectsLevel.verbs.find? fun v => v.1 = c.verb).map (·.2)).getD
    Invocation.objectsLevel

end ObjectsCommand
end MetricsView
