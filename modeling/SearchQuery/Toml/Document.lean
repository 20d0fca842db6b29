import SearchQuery.Toml.Statement

/-!
# Configuration files as tables

A configuration file is the table that its statements build, one after another.
-/

namespace SearchQuery.Toml

/-- The table built so far, and the way to the table that is open. -/
structure Building where
  root : Members
  openPath : List String
deriving Repr

namespace Building

/-- Nothing built, with the root open. -/
def start : Building :=
  ⟨[], []⟩

/-- Carry out one statement; nothing if it goes against an earlier one. -/
def step (building : Building) : Statement → Option Building
  | .openTable path =>
      (building.root.within (Members.openTable path.key) path.steps).map fun root =>
        ⟨root, path.steps ++ [path.key]⟩
  | .openElement path =>
      (building.root.within (Members.openElement path.key) path.steps).map fun root =>
        ⟨root, path.steps ++ [path.key]⟩
  | .assign path value =>
      (building.root.within (Members.assign path.key value path.steps) building.openPath).map
        fun root => { building with root }

end Building

/-- The table that a text describes. -/
def read? (text : String) : Option Members := do
  let statements ← readStatements text.toList
  return (← statements.foldlM Building.step .start).root

end SearchQuery.Toml
