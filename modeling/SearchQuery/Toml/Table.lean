import SearchQuery.Toml.Value

/-!
# Adding to tables

A key is given a value once. Headers open tables, and may pass through tables that
earlier headers or dotted keys have made; a table is opened by at most one header.
Dotted keys pass only through tables that no header has opened, and add to tables
that dotted keys have made. Tables in braces are complete.
-/

namespace SearchQuery.Toml.Members

/-- Apply a change to the table that the steps lead to; steps that lead nowhere make
tables. In an array of tables, a step leads to the latest. -/
def within (change : Members → Option Members) : List String → Members → Option Members
  | [], members => change members
  | step :: later, members =>
      match members.get? step with
      | none =>
          (within change later []).map fun inner => members ++ [(step, .table .implied inner)]
      | some (.table .inline _) => none
      | some (.table origin inner) =>
          (within change later inner).map fun changed => members.put step (.table origin changed)
      | some (.tables latest earlier) =>
          (within change later latest).map fun changed =>
            members.put step (.tables changed earlier)
      | some _ => none

/-- Open the table under a key by its header. -/
def openTable (key : String) (members : Members) : Option Members :=
  match members.get? key with
  | none => some (members ++ [(key, .table .header [])])
  | some (.table .implied inner) => some (members.put key (.table .header inner))
  | some _ => none

/-- Begin another table in the array of tables under a key. -/
def openElement (key : String) (members : Members) : Option Members :=
  match members.get? key with
  | none => some (members ++ [(key, .tables [] [])])
  | some (.tables latest earlier) => some (members.put key (.tables [] (latest :: earlier)))
  | some _ => none

/-- Give a value to a key that the steps of a dotted key lead to. -/
def assign (key : String) (value : Value) : List String → Members → Option Members
  | [], members =>
      match members.get? key with
      | none => some (members ++ [(key, value)])
      | some _ => none
  | step :: later, members =>
      match members.get? step with
      | none =>
          (assign key value later []).map fun inner =>
            members ++ [(step, .table .dotted inner)]
      | some (.table .dotted inner) =>
          (assign key value later inner).map fun changed =>
            members.put step (.table .dotted changed)
      | some (.table .implied inner) =>
          if later.isEmpty then none
          else
            (assign key value later inner).map fun changed =>
              members.put step (.table .implied changed)
      | some (.tables latest earlier) =>
          if later.isEmpty then none
          else
            (assign key value later latest).map fun changed =>
              members.put step (.tables changed earlier)
      | some _ => none

end SearchQuery.Toml.Members
