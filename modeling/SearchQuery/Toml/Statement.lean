import SearchQuery.Toml.DateTime
import SearchQuery.Toml.Number
import SearchQuery.Toml.Table

/-!
# Statements of a configuration file

Each line that says something opens a table, begins an element of an array of
tables, or gives a value to a key. `readStatements` reads them in order. Arrays and
tables in braces may be nested, and keys may have parts, only to a fixed depth.
-/

namespace SearchQuery.Toml

open SearchQuery.Text

/-- The parts of a dotted key: the steps that lead to a table, and the last. -/
structure KeyPath where
  steps : List String
  key : String
deriving DecidableEq, Repr

/-- What a line says. -/
inductive Statement where
  | openTable (path : KeyPath)
  | openElement (path : KeyPath)
  | assign (path : KeyPath) (value : Value)
deriving Repr

/-- Arrays and inline tables stand in fewer than this many others, and a key has
fewer parts than this. -/
def maxNesting : Nat := 80

/-- Whether a character may stand in a key without quotes. -/
def isBareKeyChar (c : Char) : Bool :=
  c.isAlphanum || c == '-' || c == '_'

/-- Read one part of a key. -/
def simpleKey : Scan String := fun text =>
  match text with
  | c :: _ =>
      if c = '"' ∨ c = '\x27' then lineString text
      else if isBareKeyChar c then
        some (String.ofList (text.takeWhile isBareKeyChar), text.dropWhile isBareKeyChar)
      else none
  | [] => none

/-- Read at most `most` parts of a key, with points between them and blanks around
them. `steps` holds the parts before, in reverse. -/
def keyPath (steps : List String) : Nat → Scan KeyPath
  | 0 => failure
  | most + 1 => do
      skipBlanks
      let key ← simpleKey
      skipBlanks
      if ← Scan.skip '.' then keyPath (key :: steps) most
      else return ⟨steps.reverse, key⟩

/-- Read a key. -/
def key : Scan KeyPath :=
  keyPath [] (maxNesting - 1)

/-- Read a value that holds no other. -/
def scalar : Scan Value := do
  match ← Scan.peek with
  | some '"' => return Value.string (← anyString)
  | some '\x27' => return Value.string (← anyString)
  | some 't' => do
      Scan.chars ['t', 'r', 'u', 'e']
      return Value.boolean true
  | some 'f' => do
      Scan.chars ['f', 'a', 'l', 's', 'e']
      return Value.boolean false
  | _ => dateTime <|> float <|> integer

/-- Read the elements of an array up to the closing bracket. `done` holds those
before, in reverse; each step reads an element, so a bound on the number of
characters bounds the steps. -/
def elements (element : Scan Value) (done : List Value) : Nat → Scan (List Value)
  | 0 => failure
  | bound + 1 => do
      skipLines
      if ← Scan.skip ']' then return done.reverse
      else do
        let value ← element
        skipLines
        if ← Scan.skip ',' then elements element (value :: done) bound
        else do
          Scan.char ']'
          return (value :: done).reverse

/-- Read an array. -/
def array (element : Scan Value) : Scan Value := do
  Scan.char '['
  return Value.array (← fun text => elements element [] (text.length + 1) text)

/-- Read a key and its value, without the line end. -/
def keyValue (element : Scan Value) : Scan (KeyPath × Value) := do
  let path ← key
  Scan.char '='
  skipBlanks
  return (path, ← element)

/-- Read the members of a table in braces up to the closing brace, adding them to
those before. -/
def inlineMembers (element : Scan Value) (before : Members) : Nat → Scan Members
  | 0 => failure
  | bound + 1 => do
      let (path, value) ← keyValue element
      match before.assign path.key value path.steps with
      | none => failure
      | some members =>
          skipBlanks
          if ← Scan.skip ',' then inlineMembers element members bound
          else do
            Scan.char '\x7d'
            return members

/-- Read a table in braces. -/
def inlineTable (element : Scan Value) : Scan Value := do
  Scan.char '\x7b'
  skipBlanks
  if ← Scan.skip '\x7d' then return Value.table .inline []
  else return Value.table .inline (← fun text => inlineMembers element [] (text.length + 1) text)

/-- Read a value in which others may be nested to the given depth. -/
def value : Nat → Scan Value
  | 0 => scalar
  | depth + 1 => do
      match ← Scan.peek with
      | some '[' => array (value depth)
      | some '\x7b' => inlineTable (value depth)
      | _ => scalar

/-- Read a line that opens a table or begins an element. -/
def header : Scan Statement := do
  Scan.char '['
  if ← Scan.skip '[' then do
    let path ← key
    Scan.chars [']', ']']
    finishLine
    return Statement.openElement path
  else do
    let path ← key
    Scan.char ']'
    finishLine
    return Statement.openTable path

/-- Read a line that gives a value to a key. -/
def assignment : Scan Statement := do
  let (path, content) ← keyValue (value (maxNesting - 1))
  finishLine
  return Statement.assign path content

/-- Read statements to the end of the text. `done` holds those before, in reverse;
each step reads a statement. -/
def statementsFrom (done : List Statement) : Nat → Scan (List Statement)
  | 0 => failure
  | bound + 1 => do
      skipBlanks
      match ← Scan.peek with
      | none => return done.reverse
      | some '\n' => do
          lineEnd
          statementsFrom done bound
      | some '\r' => do
          lineEnd
          statementsFrom done bound
      | some '#' => do
          finishLine
          statementsFrom done bound
      | some '[' => do
          let statement ← header
          statementsFrom (statement :: done) bound
      | some _ => do
          let statement ← assignment
          statementsFrom (statement :: done) bound

/-- The statements of a text, which may start with a byte order mark. -/
def readStatements (text : List Char) : Option (List Statement) :=
  let body :=
    match text with
    | '\ufeff' :: rest => rest
    | _ => text
  (statementsFrom [] (body.length + 1)).complete body

end SearchQuery.Toml
