import SearchQuery.Integer64

/-!
# JSON values

The interchange form of expressions, documents and results, as values rather than
text. Integers are exact. A number with a point or an exponent keeps only its
spelling, because nothing that is exchanged has such a number.

A record is exchanged as an object, by the names of its fields, or as an array, by
their order. Objects may have further members, which are ignored; arrays may not
have further elements.
-/

namespace SearchQuery

/-- A JSON value. -/
inductive Json where
  | null
  | boolean (truth : Bool)
  | integer (number : Int)
  | decimal (spelling : String)
  | string (text : String)
  | array (elements : List Json)
  | object (members : List (String × Json))
deriving Repr, BEq

namespace Json

/-- The text of a string. -/
def text? : Json → Option String
  | string text => some text
  | _ => none

/-- The elements of an array. -/
def elements? : Json → Option (List Json)
  | array elements => some elements
  | _ => none

/-- The integer of a number that has 64 bits with its sign. -/
def integer64? : Json → Option Int
  | integer number => if isInteger64 number then some number else none
  | _ => none

/-- The values of the named fields of a record, in the order of the names; a field
may be missing. -/
def fields? (names : List String) : Json → Option (List (Option Json))
  | object members => some (names.map fun name => List.lookup name members)
  | array elements =>
      if elements.length ≤ names.length then
        some ((List.range names.length).map fun position => elements[position]?)
      else none
  | _ => none

theorem sizeOf_lt_of_lookup {name : String} {members : List (String × Json)} {value : Json}
    (found : List.lookup name members = some value) : sizeOf value < sizeOf members := by
  induction members with
  | nil => simp at found
  | cons member later ih =>
      obtain ⟨key, content⟩ := member
      rw [List.lookup_cons] at found
      simp only [List.cons.sizeOf_spec, Prod.mk.sizeOf_spec]
      split at found
      · cases found
        omega
      · have := ih found
        omega

/-- The fields of a record are smaller than the record. -/
theorem sizeOf_lt_of_fields? {names : List String} {record value : Json}
    {values : List (Option Json)} (found : record.fields? names = some values)
    (valueMem : some value ∈ values) : sizeOf value < sizeOf record := by
  unfold fields? at found
  split at found
  · cases found
    obtain ⟨name, _, look⟩ := List.mem_map.mp valueMem
    have := sizeOf_lt_of_lookup look
    simp only [object.sizeOf_spec]
    omega
  · split at found
    · cases found
      obtain ⟨position, _, look⟩ := List.mem_map.mp valueMem
      have := List.sizeOf_lt_of_mem (List.mem_of_getElem? look)
      simp only [array.sizeOf_spec]
      omega
    · simp at found
  · simp at found

/-- The name of a case without content: the name as a string, or as the only key of
an object whose value is empty. -/
def caseName? (isEmpty : Json → Bool) : Json → Option String
  | string name => some name
  | object [(name, content)] => if isEmpty content then some name else none
  | _ => none

/-- Whether a value is `null`. -/
def isNull : Json → Bool
  | null => true
  | _ => false

/-- Whether a value is `null` or an object without members. -/
def isNullOrBare : Json → Bool
  | null => true
  | object [] => true
  | _ => false

/-- Decode every element of an array. -/
def listOf? {α : Type} (decode? : Json → Option α) (value : Json) : Option (List α) :=
  value.elements?.bind fun elements => elements.mapM decode?

end Json

end SearchQuery
