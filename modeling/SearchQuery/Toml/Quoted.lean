import SearchQuery.Text.Hexadecimal
import SearchQuery.Toml.Layout

/-!
# Strings

Strings stand between double quotes, with escapes, or between single quotes,
without. Either kind may span lines between triple quotes; then a line end at the
start is dropped, every other line end counts as a line feed, and up to two quotes
may stand directly before the closing ones. A backslash at the end of a line joins
it with the next character that is neither blank nor line end.
-/

namespace SearchQuery.Toml

open SearchQuery.Text

/-- The number that hexadecimal digits spell. -/
def hexValue? (digits : List Char) : Option Nat :=
  digits.foldlM (fun value digit => (hexDigit? digit).map fun unit => 16 * value + unit.val) 0

/-- The character with the code point that hexadecimal digits spell. -/
def charOfHex? (digits : List Char) : Option Char :=
  match hexValue? digits with
  | some code => if code.isValidChar then some (Char.ofNat code) else none
  | none => none

/-- The character that a single letter stands for after a backslash. -/
def escapedChar? (letter : Char) : Option Char :=
  if letter = 'b' then some '\x08'
  else if letter = 't' then some '\t'
  else if letter = 'n' then some '\n'
  else if letter = 'f' then some '\x0c'
  else if letter = 'r' then some '\r'
  else if letter = '"' then some '"'
  else if letter = '\\' then some '\\'
  else none

/-- Whether a backslash before this text joins lines: only blanks stand before the
line end. -/
def joinsLines (text : List Char) : Bool :=
  match text.dropWhile isBlank with
  | '\n' :: _ => true
  | '\r' :: '\n' :: _ => true
  | _ => false

/-- Read a string in one line up to its closing quote. `done` holds what has been
read, in reverse. -/
def readLine (quote : Char) (done : List Char) : List Char → Option (List Char × List Char)
  | [] => none
  | '\\' :: rest =>
      if quote = '\x27' then readLine quote ('\\' :: done) rest
      else
        match rest with
        | 'u' :: a :: b :: c :: d :: later =>
            match charOfHex? [a, b, c, d] with
            | some char => readLine quote (char :: done) later
            | none => none
        | 'U' :: a :: b :: c :: d :: e :: f :: g :: h :: later =>
            match charOfHex? [a, b, c, d, e, f, g, h] with
            | some char => readLine quote (char :: done) later
            | none => none
        | letter :: later =>
            match escapedChar? letter with
            | some char => readLine quote (char :: done) later
            | none => none
        | [] => none
  | c :: rest =>
      if c = quote then some (done.reverse, rest)
      else if isVisible c then readLine quote (c :: done) rest
      else none

/-- Close a string that spans lines, given the text after the first three closing
quotes: up to two further quotes belong to the string. -/
def closeLines (quote : Char) (done text : List Char) : List Char × List Char :=
  let extra := (text.take 2).takeWhile (· = quote)
  (done.reverse ++ extra, text.drop extra.length)

/-- Read a string that spans lines up to its closing quotes. `done` holds what has
been read, in reverse; `joining` says whether blanks and line ends are skipped
because lines are being joined. -/
def readLines (quote : Char) (joining : Bool) (done : List Char) :
    List Char → Option (List Char × List Char)
  | [] => none
  | '\n' :: rest => readLines quote joining (if joining then done else '\n' :: done) rest
  | '\r' :: '\n' :: rest => readLines quote joining (if joining then done else '\n' :: done) rest
  | '\\' :: rest =>
      if quote = '\x27' then readLines quote false ('\\' :: done) rest
      else if joinsLines rest then readLines quote true done rest
      else
        match rest with
        | 'u' :: a :: b :: c :: d :: later =>
            match charOfHex? [a, b, c, d] with
            | some char => readLines quote false (char :: done) later
            | none => none
        | 'U' :: a :: b :: c :: d :: e :: f :: g :: h :: later =>
            match charOfHex? [a, b, c, d, e, f, g, h] with
            | some char => readLines quote false (char :: done) later
            | none => none
        | letter :: later =>
            match escapedChar? letter with
            | some char => readLines quote false (char :: done) later
            | none => none
        | [] => none
  | c :: rest =>
      if joining && isBlank c then readLines quote true done rest
      else if c = quote then
        match rest with
        | second :: third :: later =>
            if second = quote ∧ third = quote then some (closeLines quote done later)
            else readLines quote false (c :: done) rest
        | _ => none
      else if isVisible c then readLines quote false (c :: done) rest
      else none

/-- Drop one line end from the front. -/
def dropLineEnd : List Char → List Char
  | '\n' :: rest => rest
  | '\r' :: '\n' :: rest => rest
  | text => text

/-- Read a string that stays in its line. -/
def lineString : Scan String
  | c :: rest =>
      if c = '"' ∨ c = '\x27' then
        (readLine c [] rest).map fun (text, later) => (String.ofList text, later)
      else none
  | [] => none

/-- Read a string of any kind. -/
def anyString : Scan String := fun text =>
  match text with
  | first :: second :: third :: rest =>
      if (first = '"' ∨ first = '\x27') ∧ second = first ∧ third = first then
        (readLines first false [] (dropLineEnd rest)).map fun (value, later) =>
          (String.ofList value, later)
      else lineString text
  | _ => lineString text

end SearchQuery.Toml
