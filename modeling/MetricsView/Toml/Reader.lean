import MetricsView.Toml.Literal

/-!
# Reading TOML

A document is read as a list of statements, one to a line: headers, and keys with a value each.
-/
namespace MetricsView.Toml

/-- What follows blanks, line ends and comments. It stops at a control that may stand in none of
them. -/
def skipFiller (inComment : Bool) : List Char → List Char
  | [] => []
  | '\n' :: cs => skipFiller false cs
  | '\r' :: '\n' :: cs => skipFiller false cs
  | c :: cs =>
    if inComment then if isTextChar c then skipFiller true cs else c :: cs
    else if c = '#' then skipFiller true cs
    else if isSpace c then skipFiller false cs
    else c :: cs

def skipSpace (cs : List Char) : List Char := cs.dropWhile isSpace

def isBareKeyChar (c : Char) : Bool := c.isAlphanum || c = '_' || c = '-'

def keyPart? (cs : List Char) : Option (String × List Char) :=
  let bare := cs.takeWhile isBareKeyChar
  if bare.isEmpty then lineString? cs
  else some (String.ofList bare, cs.dropWhile isBareKeyChar)

/-- Keys have at most so many parts, and arrays and inline tables may be nested in one another to
this depth. -/
def deepest : Nat := 80

/-- A dotted key of at most so many parts: the path before its last part, the last part, and what
follows the key. -/
def keyUpTo? : Nat → List Char → Option (List String × String × List Char)
  | 0, _ => none
  | most + 1, cs => do
    let (part, cs) ← keyPart? cs
    match skipSpace cs with
    | '.' :: more =>
      let (path, last, rest) ← keyUpTo? most (skipSpace more)
      return (part :: path, last, rest)
    | rest => return ([], part, rest)

def key? (cs : List Char) : Option (List String × String × List Char) := keyUpTo? deepest cs

/-- A value without quotes and brackets ends before a character that is no such one. -/
def isPlainChar (c : Char) : Bool :=
  !(isSpace c || isLineEnd c || ['=', ',', '[', ']', '\x7b', '\x7d', '#', '"', '\''].contains c)

/-- The text of a value without quotes and brackets. It has a blank in it when a date comes before
and a digit after the blank. -/
def plain (cs : List Char) : List Char × List Char :=
  let word := cs.takeWhile isPlainChar
  match cs.dropWhile isPlainChar with
  | ' ' :: d :: rest =>
    if afterDate? word = some [] && d.isDigit then
      (word ++ ' ' :: (d :: rest).takeWhile isPlainChar, (d :: rest).dropWhile isPlainChar)
    else (word, ' ' :: d :: rest)
  | rest => (word, rest)

def plainValue? (word : List Char) : Option Value :=
  if word = "true".toList then some (.bool true)
  else if word = "false".toList then some (.bool false)
  else if isDateTime word then some .dateTime
  else number? word

mutual

/-- A value at the front of the text, inside so many arrays and inline tables. The first argument
bounds the number of nested calls. -/
def value? : Nat → Nat → List Char → Option (Value × List Char)
  | 0, _, _ => none
  | fuel + 1, depth, cs =>
    match cs with
    | '[' :: cs => if depth < deepest then items? fuel (depth + 1) [] cs else none
    | '\x7b' :: cs => if depth < deepest then members? fuel (depth + 1) [] cs else none
    | '"' :: _ | '\'' :: _ => (string? cs).map fun r => (.string r.1, r.2)
    | _ =>
      let (word, rest) := plain cs
      (plainValue? word).map (·, rest)

def items? : Nat → Nat → List Value → List Char → Option (Value × List Char)
  | 0, _, _, _ => none
  | fuel + 1, depth, done, cs =>
    match skipFiller false cs with
    | ']' :: rest => some (.array done.reverse, rest)
    | cs => do
      let (v, cs) ← value? fuel depth cs
      match skipFiller false cs with
      | ',' :: rest => items? fuel depth (v :: done) rest
      | ']' :: rest => return (.array (v :: done).reverse, rest)
      | _ => none

def members? : Nat → Nat → Members → List Char → Option (Value × List Char)
  | 0, _, _, _ => none
  | fuel + 1, depth, done, cs =>
    match skipFiller false cs with
    | '\x7d' :: rest => some (.table .inline done, rest)
    | cs => do
      let (path, last, cs) ← key? cs
      let cs ← after? '=' (skipFiller false cs)
      let (v, cs) ← value? fuel depth (skipFiller false cs)
      let done ← done.insert last v path
      match skipFiller false cs with
      | ',' :: rest => members? fuel depth done rest
      | '\x7d' :: rest => return (.table .inline done, rest)
      | _ => none

end

inductive Statement where
  | table (path : List String) (key : String)
  | next (path : List String) (key : String)
  | entry (path : List String) (key : String) (value : Value)

def statement? (cs : List Char) : Option (Statement × List Char) :=
  match cs with
  | '[' :: '[' :: cs => do
    let (path, key, cs) ← key? (skipSpace cs)
    return (.next path key, ← after? ']' (← after? ']' cs))
  | '[' :: cs => do
    let (path, key, cs) ← key? (skipSpace cs)
    return (.table path key, ← after? ']' cs)
  | cs => do
    let (path, key, cs) ← key? cs
    let cs ← after? '=' cs
    let (v, cs) ← value? (2 * cs.length + 2) 0 (skipSpace cs)
    return (.entry path key v, cs)

/-- Nothing but a comment may follow a statement on its line. -/
def isComplete (rest : List Char) : Bool :=
  match skipSpace rest with
  | [] | '#' :: _ | '\n' :: _ | '\r' :: '\n' :: _ => true
  | _ => false

/-- The statements of a text. The first argument bounds their number. -/
def statements? : Nat → List Char → Option (List Statement)
  | 0, _ => none
  | fuel + 1, cs =>
    match skipFiller false cs with
    | [] => some []
    | cs => do
      let (s, rest) ← statement? cs
      if !isComplete rest then none
      return s :: (← statements? fuel rest)

/-- A document in the making: the path of the last header and all members so far. -/
structure Draft where
  header : List String
  members : Members

def Draft.add (d : Draft) : Statement → Option Draft
  | .table path key => do return ⟨path ++ [key], ← d.members.change (Members.openTable key) path⟩
  | .next path key => do return ⟨path ++ [key], ← d.members.change (Members.openNext key) path⟩
  | .entry path key v => do
    return ⟨d.header, ← d.members.change (Members.insert key v path) d.header⟩

/-- The members of the document. A byte order mark may open it. -/
def ofString? (s : String) : Option Members := do
  let cs := match s.toList with
    | '\ufeff' :: cs => cs
    | cs => cs
  let statements ← statements? (cs.length + 1) cs
  return (← statements.foldlM Draft.add ⟨[], []⟩).members

end MetricsView.Toml
