import MetricsView.Json.Printer
import MetricsView.Time

/-!
# Filters

A filter keeps the rows that meet one of its include conditions and all of its exclude conditions.
It is compiled to a fragment, which is SQL text together with the arguments of its placeholders.
Each way of putting fragments together extends text and arguments in the same order, so the k-th
placeholder always belongs to the k-th argument.
-/
namespace MetricsView

inductive Arg where
  | string (s : String)
  | bool (b : Bool)
  | float (x : Float)
  | int (i : Int)
  | timestamp (t : Instant)

namespace Arg

def toJson : Arg → Json
  | .string s => .text s
  | .bool b => .bool b
  | .float x => .float x
  | .int i => .int i
  | .timestamp t => .text t.text

end Arg

structure Fragment where
  sql : String
  args : List Arg

namespace Fragment

def empty : Fragment := ⟨"", []⟩

def text (sql : String) : Fragment := ⟨sql, []⟩

def bind (a : Arg) : Fragment := ⟨"?", [a]⟩

def placeholders (n : Nat) : String := ",".intercalate (List.replicate n "?")

def bindList (as : List Arg) : Fragment := ⟨placeholders as.length, as⟩

def append (a b : Fragment) : Fragment := ⟨a.sql ++ b.sql, a.args ++ b.args⟩

instance : Append Fragment := ⟨append⟩

def intercalate (separator : String) : List Fragment → Fragment
  | [] => empty
  | [f] => f
  | f :: fs => f ++ text separator ++ intercalate separator fs

def joinParenthesized (separator : String) (fs : List Fragment) : Fragment :=
  text "(" ++ intercalate separator fs ++ text ")"

def isEmpty (f : Fragment) : Bool := f.sql.isEmpty

@[simp] theorem sql_append (a b : Fragment) : (a ++ b).sql = a.sql ++ b.sql := rfl

@[simp] theorem args_append (a b : Fragment) : (a ++ b).args = a.args ++ b.args := rfl

def toJson (f : Fragment) : Json :=
  .record [("sql", .text f.sql), ("args", .list Arg.toJson f.args)]

end Fragment

inductive FilterValue where
  | null
  | bool (b : Bool)
  | number (x : Float)
  | string (s : String)

structure Condition where
  name : String
  values : List FilterValue
  patterns : List FilterValue

structure Filter where
  included : List Condition
  excluded : List Condition

inductive CompileError where
  | unsupportedFilterValue (dimension reason : String)
  | emptyMeasures
  | missingDimension
  | invalidTimeBound (millis : Int)
  deriving DecidableEq, Repr

namespace CompileError

def message : CompileError → String
  | .unsupportedFilterValue dimension reason =>
    s!"filter error: value not supported for '{dimension}': {reason}"
  | .emptyMeasures => "at least one measure is required"
  | .missingDimension => "toplist requires a dimension"
  | .invalidTimeBound millis => s!"time bound out of range: {millis}"

end CompileError

/-- The argument for a value; null has none. -/
def FilterValue.arg? : FilterValue → Option Arg
  | .null => none
  | .bool b => some (.bool b)
  | .number x => some (.float x)
  | .string s => some (.string s)

/-- Which list of a filter a condition stands in. -/
inductive Side where
  | included | excluded
  deriving DecidableEq, Repr

namespace Side

def negation : Side → String
  | .included => ""
  | .excluded => "NOT"

def connective : Side → String
  | .included => " OR "
  | .excluded => " AND "

def nullTest : Side → String
  | .included => " IS NULL"
  | .excluded => " IS NOT NULL"

end Side

namespace Condition

def isEmpty (c : Condition) : Bool := c.values.isEmpty && c.patterns.isEmpty

/-- The comparison with the values that are not null, if there are any. -/
def membership (side : Side) (c : Condition) : List Fragment :=
  match c.values.filterMap FilterValue.arg? with
  | [] => []
  | args => [.text (c.name ++ " " ++ side.negation ++ " IN (") ++ .bindList args ++ .text ")"]

def nullTest (side : Side) (c : Condition) : List Fragment :=
  if c.values.any fun v => v.arg?.isNone then [.text (c.name ++ side.nullTest)] else []

/-- The comparison with one pattern. Null is no pattern. -/
def patternTest (side : Side) (c : Condition) (pattern : FilterValue) :
    Except CompileError Fragment :=
  match pattern.arg? with
  | some arg => .ok (.text (c.name ++ " " ++ side.negation ++ " ILIKE ") ++ .bind arg)
  | none => .error (.unsupportedFilterValue c.name "null is not a valid like pattern")

def tests (side : Side) (c : Condition) : Except CompileError (List Fragment) := do
  let patterns ← c.patterns.mapM (c.patternTest side)
  return c.membership side ++ c.nullTest side ++ patterns

/-- The comparisons of a condition as one expression, in parentheses when there are several. -/
def clause? (side : Side) (c : Condition) : Except CompileError (Option Fragment) := do
  match ← c.tests side with
  | [] => return none
  | [test] => return some test
  | tests => return some (.joinParenthesized side.connective tests)

end Condition

namespace Filter

/-- The conditions of one side as a conjunct, or nothing when none of them compares anything. -/
def sideClause (side : Side) (cs : List Condition) : Except CompileError Fragment := do
  match (← cs.mapM (Condition.clause? side)).filterMap id with
  | [] => return .empty
  | parts => return .text " AND " ++ .joinParenthesized side.connective parts

/-- The filter as conjuncts that extend a WHERE clause. -/
def clause (f : Filter) : Except CompileError Fragment := do
  let included ← sideClause .included f.included
  let excluded ← sideClause .excluded f.excluded
  return included ++ excluded

end Filter
end MetricsView
