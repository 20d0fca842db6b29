/-!
# Values of a configuration file

The values of TOML. Settings are strings, so strings are kept exactly; floats and
dates are checked when they are read, and no more is kept of them than their kind.
A table remembers how it came about, since that decides whether later lines may
add to it.
-/

namespace SearchQuery.Toml

/-- How a table came about. -/
inductive Origin where
  /-- A header names the table. -/
  | header
  /-- A header names a table inside it, and none has named the table itself. -/
  | implied
  /-- A dotted key passes through it. -/
  | dotted
  /-- It stands in braces and is complete. -/
  | inline
deriving DecidableEq, Repr

/-- A value, with tables as lists of members in the order of their first mention. -/
inductive Value where
  | string (text : String)
  | integer (number : Int)
  | float
  | boolean (truth : Bool)
  | dateTime
  /-- The elements between brackets. -/
  | array (elements : List Value)
  | table (origin : Origin) (members : List (String × Value))
  /-- The tables under repeated headers in double brackets: the latest, and those
  before it. -/
  | tables (latest : List (String × Value)) (earlier : List (List (String × Value)))
deriving Repr

/-- The members of a table. -/
abbrev Members := List (String × Value)

namespace Members

/-- The value under a key. -/
def get? (members : Members) (key : String) : Option Value :=
  members.lookup key

/-- Put a value under a key, in the place of the value that is there. -/
def put (key : String) (value : Value) : Members → Members
  | [] => [(key, value)]
  | member :: later =>
      if member.1 = key then (key, value) :: later else member :: put key value later

/-- A key leads to the value that was put under it. -/
theorem get?_put_self (key : String) (value : Value) (members : Members) :
    (members.put key value).get? key = some value := by
  induction members with
  | nil => simp [put, get?]
  | cons member later ih =>
      obtain ⟨name, content⟩ := member
      by_cases same : name = key
      · simp [put, get?, same]
      · have different : (key == name) = false := beq_false_of_ne (Ne.symm same)
        simp only [put, get?, same, if_false, List.lookup_cons, different]
        exact ih

end Members

end SearchQuery.Toml
