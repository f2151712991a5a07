import MetricsView.Catalog.Object

/-!
# Command lines

A command line is read level by level. A level has options, operands and verbs, and a verb leads to
the level below it. What is given to an option is looked at when the next one begins, so that the
first mistake on the line or the first call for help decides.
-/
namespace MetricsView

inductive Stop where
  | help
  | version
  | misuse
  deriving DecidableEq, Repr

inductive OptionKind where
  | flag
  | value (accepts : String → Bool)
  /-- Nothing after the option is read. -/
  | stop (reason : Stop)

structure OptionSpec where
  name : String
  short : Option Char
  kind : OptionKind

/-- What may be written at one level. All operands and, if there are verbs, a verb have to be
there. -/
structure Level where
  options : List OptionSpec
  required : List String
  operands : List (String → Bool)
  verbs : List (String × Level)

/-- What a command line says. A flag has the empty value. -/
structure Arguments where
  verbs : List String
  options : List (String × String)
  operands : List String
  deriving DecidableEq, Repr

namespace Arguments

/-- The value of an option. What is said at a deeper level counts. -/
def value? (a : Arguments) (name : String) : Option String :=
  (a.options.reverse.find? fun o => o.1 = name).map (·.2)

def has (a : Arguments) (name : String) : Bool := (a.value? name).isSome

end Arguments

/-- What has been read last and not been looked at. -/
inductive Pending where
  | nothing
  | awaiting (name : String) (accepts : String → Bool)
  | option (name : String) (accepts : String → Bool) (value : String)
  | operand (accepts : String → Bool) (value : String)

structure Reading where
  options : List (String × String)
  operands : List String
  pending : Pending

namespace Reading

def start : Reading := ⟨[], [], .nothing⟩

/-- Takes an option, which is there at most once. -/
def give (r : Reading) (name value : String) : Except Stop Reading :=
  if r.options.any fun o => o.1 = name then .error .misuse
  else .ok ⟨r.options ++ [(name, value)], r.operands, .nothing⟩

def settle (r : Reading) : Except Stop Reading :=
  match r.pending with
  | .nothing => .ok r
  | .awaiting _ _ => .error .misuse
  | .option name accepts value => if accepts value then r.give name value else .error .misuse
  | .operand accepts value =>
    if accepts value then .ok ⟨r.options, r.operands ++ [value], .nothing⟩ else .error .misuse

def option (r : Reading) (spec : OptionSpec) (attached : Option String) : Except Stop Reading :=
  match spec.kind, attached with
  | .flag, none => do (← r.settle).give spec.name ""
  | .stop reason, none => do
    let _ ← r.settle
    .error reason
  | .value accepts, none => do
    let r ← r.settle
    return { r with pending := .awaiting spec.name accepts }
  | .value accepts, some value => do
    let r ← r.settle
    let r : Reading := { r with pending := .option spec.name accepts value }
    r.settle
  | .flag, some _ | .stop _, some _ => .error .misuse

end Reading

namespace Level

def long (level : Level) (r : Reading) (text : List Char) : Except Stop Reading :=
  let name := String.ofList (text.takeWhile (· ≠ '='))
  let attached := match text.dropWhile (· ≠ '=') with
    | [] => none
    | _ :: value => some (String.ofList value)
  match level.options.find? fun spec => spec.name = name with
  | some spec => r.option spec attached
  | none => .error .misuse

/-- Reads short options in one word. The rest of the word behind an option that takes a value is
the value, without an equals sign in front. -/
def cluster (level : Level) (r : Reading) : List Char → Except Stop Reading
  | [] => .ok r
  | c :: cs =>
    match level.options.find? fun spec => spec.short = some c with
    | none => .error .misuse
    | some spec =>
      match spec.kind, cs with
      | .value _, [] => r.option spec none
      | .value _, '=' :: value => r.option spec (some (String.ofList value))
      | .value _, value => r.option spec (some (String.ofList value))
      | _, cs => do cluster level (← r.option spec none) cs

def operand (level : Level) (r : Reading) (value : String) : Except Stop Reading := do
  let r ← r.settle
  match level.operands[r.operands.length]? with
  | some accepts => return { r with pending := .operand accepts value }
  | none => .error .misuse

def word (level : Level) (r : Reading) (text : String) : Except Stop Reading :=
  match text.toList with
  | '-' :: '-' :: name => level.long r name
  | '-' :: c :: cs => level.cluster r (c :: cs)
  | _ =>
    match r.pending with
    | .awaiting name accepts => .ok { r with pending := .option name accepts text }
    | _ => level.operand r text

def verb? (level : Level) (r : Reading) (text : String) : Option Level :=
  match r.pending with
  | .awaiting _ _ => none
  | _ => (level.verbs.find? fun v => v.1 = text).map (·.2)

/-- The verb for help is there wherever there are verbs. -/
def isHelp (level : Level) (r : Reading) (text : String) : Bool :=
  match r.pending with
  | .awaiting _ _ => false
  | _ => !level.verbs.isEmpty && text = "help"

def helpOn (level : Level) : List String → Stop
  | [] => .help
  | text :: rest =>
    match level.verbs.find? fun v => v.1 = text with
    | some v => helpOn v.2 rest
    | none => if !level.verbs.isEmpty && text = "help" && rest.isEmpty then .help else .misuse

def finish (level : Level) (r : Reading) : Except Stop Reading := do
  let r ← r.settle
  if level.required.all (fun name => r.options.any fun o => o.1 = name)
      && r.operands.length = level.operands.length then return r
  else .error .misuse

/-- Reads the rest of a level and those below it. After a double dash only operands follow. -/
def readFrom (level : Level) (operandsOnly : Bool) (r : Reading) :
    List String → Except Stop Arguments
  | [] => do
    let r ← level.finish r
    if level.verbs.isEmpty then return ⟨[], r.options, r.operands⟩ else .error .misuse
  | text :: rest =>
    if operandsOnly then do readFrom level true (← level.operand r text) rest
    else if level.isHelp r text then .error (level.helpOn rest)
    else
      match level.verb? r text with
      | some lower => do
        let below ← readFrom lower false .start rest
        let r ← level.finish r
        return ⟨text :: below.verbs, r.options ++ below.options, r.operands ++ below.operands⟩
      | none =>
        if text = "--" then readFrom level true r rest
        else do readFrom level false (← level.word r text) rest

def read (level : Level) (words : List String) : Except Stop Arguments :=
  level.readFrom false .start words

end Level

inductive RequestShape where
  | toplist | timeSeries | totals
  deriving DecidableEq, Repr

def RequestShape.named : List (String × RequestShape) :=
  [("toplist", .toplist), ("timeseries", .timeSeries), ("totals", .totals)]

inductive ObjectsCommand where
  | list (tenant : String) (kind : Option ObjectKind)
  | get (tenant name : String)
  | create (tenant name : String) (kind : ObjectKind) (sql schemaPath : Option String)
      (managed : Bool)
  | delete (tenant name : String)
  deriving DecidableEq, Repr

inductive Command where
  | objects (command : ObjectsCommand)
  | compile (shape : RequestShape) (requestPath : String) (asJson : Bool)
  deriving DecidableEq, Repr

structure Invocation where
  settingsPath : Option String
  command : Command
  deriving DecidableEq, Repr

namespace Invocation

def isAny (_ : String) : Bool := true

def isPath (s : String) : Bool := !s.isEmpty

def isKind (s : String) : Bool := (ObjectKind.parse s).isOk

def isShape (s : String) : Bool := (RequestShape.named.find? fun n => n.1 = s).isSome

def everywhere : List OptionSpec :=
  [⟨"config", some 'c', .value isPath⟩, ⟨"verbose", some 'v', .flag⟩,
    ⟨"help", some 'h', .stop .help⟩]

def tenantOption : OptionSpec := ⟨"tenant", some 't', .value isAny⟩

def kindOption : OptionSpec := ⟨"type", none, .value isKind⟩

def objectsLevel : Level where
  options := everywhere
  required := []
  operands := []
  verbs := [
    ("list", ⟨tenantOption :: kindOption :: everywhere, ["tenant"], [], []⟩),
    ("get", ⟨tenantOption :: everywhere, ["tenant"], [isAny], []⟩),
    ("create", ⟨[tenantOption, kindOption, ⟨"sql", none, .value isAny⟩,
      ⟨"schema", none, .value isPath⟩, ⟨"managed", none, .flag⟩] ++ everywhere,
      ["tenant", "type"], [isAny], []⟩),
    ("delete", ⟨tenantOption :: everywhere, ["tenant"], [isAny], []⟩)]

def compileLevel : Level where
  options := ⟨"json", none, .flag⟩ :: everywhere
  required := []
  operands := [isShape, isPath]
  verbs := []

def grammar : Level where
  options := ⟨"version", some 'V', .stop .version⟩ :: everywhere
  required := []
  operands := []
  verbs := [("objects", objectsLevel), ("compile", compileLevel)]

def kind? (a : Arguments) : Option ObjectKind :=
  (a.value? "type").bind fun s => (ObjectKind.parse s).toOption

def command? (a : Arguments) : Option Command :=
  match a.verbs, a.operands with
  | ["objects", "list"], [] => do return .objects (.list (← a.value? "tenant") (kind? a))
  | ["objects", "get"], [name] => do return .objects (.get (← a.value? "tenant") name)
  | ["objects", "create"], [name] => do
    return .objects (.create (← a.value? "tenant") name (← kind? a) (a.value? "sql")
      (a.value? "schema") (a.has "managed"))
  | ["objects", "delete"], [name] => do return .objects (.delete (← a.value? "tenant") name)
  | ["compile"], [shape, path] => do
    let shape ← RequestShape.named.find? fun n => n.1 = shape
    return .compile shape.2 path (a.has "json")
  | _, _ => none

def ofWords (words : List String) : Except Stop Invocation := do
  let a ← grammar.read words
  match command? a with
  | some command => return ⟨a.value? "config", command⟩
  | none => .error .misuse

end Invocation
end MetricsView
