import FilterSql.Query.Basic

/-!
# FilterSql.Modifier.Registry

Modifiers change queries before they run. A registry keeps them in the order in which they were
added, each id once, and applies them one after another.
-/

namespace FilterSql

/-- What a modifier may know: the table of the query and its columns. -/
structure ModifierContext where
  table : String
  columns : Option TableColumns

structure Modifier where
  id : String
  modify : ModifierContext → Query → Except Error Query

structure ModifierRegistry where
  modifiers : List Modifier

namespace ModifierRegistry

def empty : ModifierRegistry := ⟨[]⟩

def isEmpty (r : ModifierRegistry) : Bool := r.modifiers.isEmpty

def contains (r : ModifierRegistry) (id : String) : Bool := r.modifiers.any fun m => m.id == id

/-- Adds a modifier at the end and tells whether its id was new; a known id changes nothing. -/
def add (r : ModifierRegistry) (m : Modifier) : Bool × ModifierRegistry :=
  if r.contains m.id then (false, r) else (true, ⟨r.modifiers ++ [m]⟩)

/-- Drops the modifier of an id and tells whether there was one. -/
def remove (r : ModifierRegistry) (id : String) : Bool × ModifierRegistry :=
  let kept := r.modifiers.filter fun m => m.id != id
  (kept.length != r.modifiers.length, ⟨kept⟩)

/-- The modifiers of a list one after another, up to the first error. -/
def applyAll (context : ModifierContext) : List Modifier → Query → Except Error Query
  | [], q => .ok q
  | m :: rest, q =>
    match m.modify context q with
    | .error e => .error e
    | .ok q => applyAll context rest q

def apply (r : ModifierRegistry) (context : ModifierContext) (q : Query) : Except Error Query :=
  applyAll context r.modifiers q

end ModifierRegistry
end FilterSql
