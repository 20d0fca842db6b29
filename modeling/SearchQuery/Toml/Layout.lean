import SearchQuery.Text.Scan

/-!
# Blanks, comments and line ends

A line ends with a line feed, which a carriage return may precede. A comment runs
from a number sign to the end of its line and holds no control characters but
tabs.
-/

namespace SearchQuery.Toml

open SearchQuery.Text

/-- The blanks within a line. -/
def isBlank (c : Char) : Bool :=
  c == ' ' || c == '\t'

/-- The characters that comments and literal strings may hold. -/
def isVisible (c : Char) : Bool :=
  c == '\t' || (0x20 ≤ c.toNat && c.toNat != 0x7F)

/-- Skip the blanks that come next. -/
def skipBlanks : Scan Unit := fun text =>
  some ((), text.dropWhile isBlank)

/-- Read a line end. -/
def lineEnd : Scan Unit
  | '\n' :: rest => some ((), rest)
  | '\r' :: '\n' :: rest => some ((), rest)
  | _ => none

/-- Skip a comment if one comes next. -/
def skipComment : Scan Unit
  | '#' :: rest => some ((), rest.dropWhile isVisible)
  | text => some ((), text)

/-- Read what may follow the last value of a line: blanks, a comment, and the end
of the line or of the text. -/
def finishLine : Scan Unit := do
  skipBlanks
  skipComment
  match ← Scan.peek with
  | none => return ()
  | some _ => lineEnd

/-- Skip blanks, line ends and comments. The flag says whether a comment has begun;
it has to end with its line. -/
def skipLinesFrom (inComment : Bool) : List Char → Option (List Char)
  | [] => if inComment then none else some []
  | c :: rest =>
      if c = '\n' then skipLinesFrom false rest
      else if c = '\r' then
        match rest with
        | '\n' :: later => skipLinesFrom false later
        | _ => none
      else if inComment then if isVisible c then skipLinesFrom true rest else none
      else if isBlank c then skipLinesFrom false rest
      else if c = '#' then skipLinesFrom true rest
      else some (c :: rest)

/-- Skip blanks, line ends and comments. -/
def skipLines : Scan Unit := fun text =>
  (skipLinesFrom false text).map fun rest => ((), rest)

end SearchQuery.Toml
