import MetricsView.Query.Filter

/-! # Conditions and their values

A text falls into words, numbers, quoted texts and marks. Words are read as long as they go, so a
text may be cut only where no word runs on; each placeholder takes the next argument. The value of a
condition is one of three, for what is compared with null is unknown. It depends on the columns and
on all that the text leaves open: what the arguments stand for, the functions, and the outcome of
every comparison of two values. -/
namespace MetricsView.Sql

inductive Truth where
  | no | unknown | yes
  deriving DecidableEq, Repr

namespace Truth

def ofBool : Bool → Truth
  | false => no
  | true => yes

def not : Truth → Truth
  | no => yes
  | unknown => unknown
  | yes => no

def and : Truth → Truth → Truth
  | no, _ | _, no => no
  | yes, b => b
  | unknown, _ => unknown

def or : Truth → Truth → Truth
  | yes, _ | _, yes => yes
  | no, b => b
  | unknown, _ => unknown

@[simp] theorem yes_and (a : Truth) : and yes a = a := by cases a <;> rfl

@[simp] theorem and_yes (a : Truth) : and a yes = a := by cases a <;> rfl

@[simp] theorem no_or (a : Truth) : or no a = a := by cases a <;> rfl

@[simp] theorem or_no (a : Truth) : or a no = a := by cases a <;> rfl

theorem and_assoc (a b c : Truth) : and (and a b) c = and a (and b c) := by
  cases a <;> cases b <;> cases c <;> rfl

theorem or_assoc (a b c : Truth) : or (or a b) c = or a (or b c) := by
  cases a <;> cases b <;> cases c <;> rfl

theorem or_left_comm (a b c : Truth) : or a (or b c) = or b (or a c) := by
  cases a <;> cases b <;> cases c <;> rfl

theorem or_self (a : Truth) : or a a = a := by cases a <;> rfl

theorem not_or (a b : Truth) : not (or a b) = and (not a) (not b) := by
  cases a <;> cases b <;> rfl

/-- True when one of them is, false when all of them are. -/
def any (ts : List Truth) : Truth := ts.foldr or no

/-- True when all of them are, false when one of them is. -/
def all (ts : List Truth) : Truth := ts.foldr and yes

@[simp] theorem any_nil : any [] = no := rfl

@[simp] theorem any_cons (t : Truth) (ts : List Truth) : any (t :: ts) = or t (any ts) := rfl

@[simp] theorem all_nil : all [] = yes := rfl

@[simp] theorem all_cons (t : Truth) (ts : List Truth) : all (t :: ts) = and t (all ts) := rfl

theorem any_append (ts us : List Truth) : any (ts ++ us) = or (any ts) (any us) := by
  induction ts with
  | nil => simp
  | cons t ts ih => rw [List.cons_append, any_cons, any_cons, ih, or_assoc]

theorem all_append (ts us : List Truth) : all (ts ++ us) = and (all ts) (all us) := by
  induction ts with
  | nil => simp
  | cons t ts ih => rw [List.cons_append, all_cons, all_cons, ih, and_assoc]

theorem not_any (ts : List Truth) : not (any ts) = all (ts.map not) := by
  induction ts with
  | nil => rfl
  | cons t ts ih => rw [any_cons, not_or, ih, List.map_cons, all_cons]

end Truth

inductive Comparison where
  | equal | different | less | lessOrEqual | greater | greaterOrEqual
  deriving DecidableEq, Repr

inductive Keyword where
  | «where» | and | or | not | «in» | is | null | ilike | group | order | limit
  /-- One that occurs in no condition and ends none. -/
  | other (word : String)
  deriving DecidableEq, Repr

inductive Token where
  | keyword (k : Keyword)
  | name (word : String)
  | number (n : Nat)
  | quoted (text : List Char)
  | comparison (op : Comparison)
  | leftParen | rightParen | comma
  | placeholder
  /-- A placeholder for which an argument stands. -/
  | argument (a : Arg)
  /-- What has no place in a condition. -/
  | other (text : List Char)

/-- The words that are no names, in capitals. -/
def keywords : List (String × Keyword) :=
  [("WHERE", .«where»), ("AND", .and), ("OR", .or), ("NOT", .not), ("IN", .«in»), ("IS", .is),
    ("NULL", .null), ("ILIKE", .ilike), ("GROUP", .group), ("ORDER", .order), ("LIMIT", .limit)]
  ++ ["SELECT", "DISTINCT", "FROM", "JOIN", "ON", "HAVING", "UNION", "BY", "AS", "ASC", "DESC",
    "OFFSET", "BETWEEN", "LIKE", "EXISTS", "CASE", "WHEN", "THEN", "ELSE", "END", "TRUE",
    "FALSE"].map fun w => (w, .other w)

/-- Keywords are read in any case. -/
def keyword? (word : List Char) : Option Keyword :=
  keywords.lookup (String.ofList (word.map Char.toUpper))

/-- Letters, digits and the underscore. All characters beyond ASCII count as letters. -/
def isWordChar (c : Char) : Bool := c.isAlphanum || c = '_' || 128 ≤ c.toNat

def Token.ofWord (word : List Char) : Token :=
  match keyword? word with
  | some k => .keyword k
  | none =>
    if word.all Char.isDigit then .number (word.foldl (fun n c => 10 * n + (c.toNat - 48)) 0)
    else if word.head?.any Char.isDigit then .other word
    else .name (String.ofList word)

/-- What has been read of a token that may go on. -/
inductive Pending where
  | nothing
  | word (cs : List Char)
  | less
  | greater
  | quoted (cs : List Char)

def Pending.flush : Pending → List Token
  | nothing => []
  | word cs => [.ofWord cs]
  | less => [.comparison .less]
  | greater => [.comparison .greater]
  | quoted cs => [.other cs]

/-- A character after which nothing is pending. -/
def begin (c : Char) : List Token × Pending :=
  if isWordChar c then ([], .word [c])
  else match c with
    | '(' => ([.leftParen], .nothing)
    | ')' => ([.rightParen], .nothing)
    | ',' => ([.comma], .nothing)
    | '?' => ([.placeholder], .nothing)
    | '=' => ([.comparison .equal], .nothing)
    | '<' => ([], .less)
    | '>' => ([], .greater)
    | '\'' => ([], .quoted [])
    | ' ' | '\t' | '\n' | '\r' => ([], .nothing)
    | c => ([.other [c]], .nothing)

/-- A character that ends what is pending. -/
def interrupt (p : Pending) (c : Char) : List Token × Pending :=
  (p.flush ++ (begin c).1, (begin c).2)

def step : Pending → Char → List Token × Pending
  | .nothing, c => begin c
  | .word cs, c => if isWordChar c then ([], .word (cs ++ [c])) else interrupt (.word cs) c
  | .less, '=' => ([.comparison .lessOrEqual], .nothing)
  | .less, '>' => ([.comparison .different], .nothing)
  | .less, c => interrupt .less c
  | .greater, '=' => ([.comparison .greaterOrEqual], .nothing)
  | .greater, c => interrupt .greater c
  | .quoted cs, '\'' => ([.quoted cs], .nothing)
  | .quoted cs, c => ([], .quoted (cs ++ [c]))

def tokensFrom (p : Pending) : List Char → List Token
  | [] => p.flush
  | c :: cs => (step p c).1 ++ tokensFrom (step p c).2 cs

def tokens (cs : List Char) : List Token := tokensFrom .nothing cs

/-- Each placeholder takes the next argument, and no argument is left over. -/
def supply : List Token → List Arg → Option (List Token)
  | [], [] => some []
  | [], _ :: _ => none
  | .placeholder :: ts, a :: as => (supply ts as).map (.argument a :: ·)
  | .placeholder :: _, [] => none
  | t :: ts, as => (supply ts as).map (t :: ·)

/-- A text together with the arguments of its placeholders. -/
def boundTokens (cs : List Char) (as : List Arg) : Option (List Token) := supply (tokens cs) as

/-- No word runs on into the text. -/
def Boundary (cs : List Char) : Prop := ∀ c ∈ cs.head?, isWordChar c = false

theorem boundary_nil : Boundary [] := by
  intro c hc
  cases hc

theorem boundary_cons {c : Char} (h : isWordChar c = false) (cs : List Char) : Boundary (c :: cs) := by
  intro d hd
  obtain rfl := Option.mem_some_iff.1 hd
  exact h

theorem Boundary.append {cs ds : List Char} (hc : Boundary cs) (hd : Boundary ds) :
    Boundary (cs ++ ds) := by
  cases cs with
  | nil => exact hd
  | cons c cs => exact boundary_cons (hc c rfl) _

private theorem tokensFrom_word {w cs : List Char} (hcs : Boundary cs) :
    tokensFrom (.word w) cs = .ofWord w :: tokens cs := by
  cases cs with
  | nil => rfl
  | cons c cs =>
    have hc : isWordChar c = false := hcs c rfl
    simp [tokensFrom, tokens, step, hc, interrupt, Pending.flush]

private theorem tokensFrom_word_append {v w cs : List Char} (hw : ∀ c ∈ w, isWordChar c)
    (hcs : Boundary cs) : tokensFrom (.word v) (w ++ cs) = .ofWord (v ++ w) :: tokens cs := by
  induction w generalizing v with
  | nil => rw [List.nil_append, List.append_nil, tokensFrom_word hcs]
  | cons c w ih =>
    obtain ⟨hc, hw⟩ := List.forall_mem_cons.1 hw
    have hstep : step (.word v) c = ([], .word (v ++ [c])) := by simp [step, hc]
    rw [List.cons_append, tokensFrom, hstep, ih hw, List.append_assoc]
    rfl

/-- A word up to a boundary is one token. -/
theorem tokens_word_append {w cs : List Char} (hne : w ≠ []) (hw : ∀ c ∈ w, isWordChar c)
    (hcs : Boundary cs) : tokens (w ++ cs) = .ofWord w :: tokens cs := by
  cases w with
  | nil => exact absurd rfl hne
  | cons c w =>
    obtain ⟨hc, hw⟩ := List.forall_mem_cons.1 hw
    have hstep : step .nothing c = ([], .word [c]) := by simp [step, begin, hc]
    rw [tokens, List.cons_append, tokensFrom, hstep, tokensFrom_word_append hw hcs]
    rfl

private theorem tokensFrom_quoted_append {v w : List Char} (hw : '\'' ∉ w) (cs : List Char) :
    tokensFrom (.quoted v) (w ++ '\'' :: cs) = .quoted (v ++ w) :: tokens cs := by
  induction w generalizing v with
  | nil =>
    rw [List.append_nil]
    rfl
  | cons c w ih =>
    rw [List.mem_cons, not_or] at hw
    obtain ⟨hc, hw⟩ := hw
    have hstep : step (.quoted v) c = ([], .quoted (v ++ [c])) := by
      unfold step
      split <;> simp_all
    rw [List.cons_append, tokensFrom, hstep, ih hw, List.append_assoc]
    rfl

/-- A quoted text is one token. -/
theorem tokens_quoted_append {w : List Char} (hw : '\'' ∉ w) (cs : List Char) :
    tokens ('\'' :: (w ++ '\'' :: cs)) = .quoted w :: tokens cs :=
  tokensFrom_quoted_append hw cs

example : tokens "x_1 <> 10 is ?, 'a b'".toList =
    [.name "x_1", .comparison .different, .number 10, .keyword .is, .placeholder, .comma,
      .quoted ['a', ' ', 'b']] := by rfl

universe u

variable {Value : Type u}

inductive Operand where
  | column (name : String)
  | number (n : Nat)
  | argument (a : Arg)
  | call (function : String) (operand : Operand)

/-- What is said of an operand. -/
inductive Test where
  | compare (op : Comparison) (right : Operand)
  | oneOf (choices : List Operand)
  | isNull
  | ilike (pattern : Operand)

inductive Expr where
  | test (left : Operand) (negated : Bool) (t : Test)
  | not (e : Expr)
  | and (a b : Expr)
  | or (a b : Expr)

/-- Null is no value, so nothing is said here about comparing with it. -/
structure Interpretation (Value : Type u) where
  argument : Arg → Value
  number : Nat → Value
  function : String → Option Value → Option Value
  compare : Comparison → Value → Value → Truth
  ilike : Value → Value → Truth

/-- The value of each column, or null. -/
abbrev Assignment (Value : Type u) := String → Option Value

/-- What is compared with null is unknown. -/
def Truth.strict (f : Value → Value → Truth) : Option Value → Option Value → Truth
  | some a, some b => f a b
  | _, _ => unknown

def Truth.negate : Bool → Truth → Truth
  | true, t => t.not
  | false, t => t

def Comparison.ofNats : Comparison → Nat → Nat → Bool
  | equal, m, n => m = n
  | different, m, n => m ≠ n
  | less, m, n => m < n
  | lessOrEqual, m, n => m ≤ n
  | greater, m, n => n < m
  | greaterOrEqual, m, n => n ≤ m

def Operand.value (I : Interpretation Value) (row : Assignment Value) : Operand → Option Value
  | column name => row name
  | number n => some (I.number n)
  | argument a => some (I.argument a)
  | call function operand => I.function function (operand.value I row)

/-- Two numerals compare as numbers under every interpretation. -/
def Operand.compare (I : Interpretation Value) (row : Assignment Value) (op : Comparison) :
    Operand → Operand → Truth
  | number m, number n => .ofBool (op.ofNats m n)
  | a, b => .strict (I.compare op) (a.value I row) (b.value I row)

def Test.value (I : Interpretation Value) (row : Assignment Value) (left : Operand) : Test → Truth
  | compare op right => left.compare I row op right
  | oneOf choices => .any (choices.map (left.compare I row .equal))
  | isNull => .ofBool (left.value I row).isNone
  | ilike pattern => .strict I.ilike (left.value I row) (pattern.value I row)

namespace Expr

def value (I : Interpretation Value) (row : Assignment Value) : Expr → Truth
  | test left negated t => .negate negated (t.value I row left)
  | not e => (e.value I row).not
  | and a b => (a.value I row).and (b.value I row)
  | or a b => (a.value I row).or (b.value I row)

/-- A conjunction, bracketed to the right. -/
def conjoin : Expr → List Expr → Expr
  | e, [] => e
  | e, f :: fs => e.and (conjoin f fs)

/-- A disjunction, bracketed to the right. -/
def disjoin : Expr → List Expr → Expr
  | e, [] => e
  | e, f :: fs => e.or (disjoin f fs)

theorem value_conjoin (I : Interpretation Value) (row : Assignment Value) (e : Expr)
    (es : List Expr) : (conjoin e es).value I row = .all ((e :: es).map (value I row)) := by
  induction es generalizing e with
  | nil => exact (Truth.and_yes _).symm
  | cons f fs ih =>
    rw [conjoin, value, ih]
    rfl

theorem value_disjoin (I : Interpretation Value) (row : Assignment Value) (e : Expr)
    (es : List Expr) : (disjoin e es).value I row = .any ((e :: es).map (value I row)) := by
  induction es generalizing e with
  | nil => exact (Truth.or_no _).symm
  | cons f fs ih =>
    rw [disjoin, value, ih]
    rfl

end Expr
end MetricsView.Sql
