/-
# TOML values

A TOML document is built line by line: a line assigns a value under a dotted key of
the current table, or opens a table or a new item of a list of tables.  A table may
be opened once, and only tables that nothing but other lines' paths have brought
about may be opened afterwards or extended by dotted keys; what is written in braces
is complete.  `Origin` keeps what has to be known for that.
-/

import ApiGraph.Table

namespace ApiGraph

namespace Toml

/-- How a table came about. -/
inductive Origin where
  /-- It was opened by a header. -/
  | opened
  /-- The header of a table inside it was there. -/
  | implied
  /-- A dotted key leads through it. -/
  | dotted
  /-- It is written in braces. -/
  | braced
  deriving DecidableEq, Repr

end Toml

/-- A TOML value.  Floating-point numbers and dates are kept as they are written. -/
inductive Toml where
  | string (s : String)
  | integer (i : Int)
  | float (literal : String)
  | boolean (b : Bool)
  | date (literal : String)
  | array (items : List Toml)
  | table (origin : Toml.Origin) (fields : List (String × Toml))
  /-- A list of tables, each opened by a header of its own. -/
  | tables (items : List Toml)
  deriving Inhabited

namespace Toml

/-- A document before its first line. -/
def empty : Toml :=
  .table .opened []

/-- The value under a key of a table. -/
def get? : Toml → String → Option Toml
  | .table _ fields, key => Table.get? fields key
  | _, _ => none

/-- Changes the table at a path.  Tables that are missing on the way are made, as
`created` says; a list of tables stands for its last one.  Dotted keys do not lead
through tables that were opened, and nothing leads into braces. -/
def change (created : Origin) (f : Toml → Option Toml) : List String → Toml → Option Toml
  | [], t => f t
  | key :: rest, .table origin fields => do
    let child ←
      match (Table.get? fields key).getD (.table created []) with
      | .table .braced _ => none
      | .table .opened inner =>
        if created = .dotted then none else change created f rest (.table .opened inner)
      | .table between inner => change created f rest (.table between inner)
      | .tables items => do
        let last ← change created f rest (← items.getLast?)
        some (.tables (items.dropLast ++ [last]))
      | _ => none
    return .table origin (Table.insert fields key child)
  | _ :: _, _ => none

/-- Writes a value under a new key of a table, which a dotted key led to or not. -/
def assignKey (key : String) (value : Toml) (isDotted : Bool) : Toml → Option Toml
  | .table origin fields =>
    if (origin == .dotted) != isDotted || Table.contains fields key then none
    else some (.table origin (fields ++ [(key, value)]))
  | _ => none

/-- Writes a value under a dotted key of a table. -/
def assign (t : Toml) (path : List String) (value : Toml) : Option Toml := do
  let key ← path.getLast?
  let outer := path.dropLast
  change .dotted (assignKey key value (!outer.isEmpty)) outer t

/-- Opens a table under a key, where there is none or one that is only implied. -/
def openKey (key : String) : Toml → Option Toml
  | .table origin fields =>
    match Table.get? fields key with
    | none => some (.table origin (fields ++ [(key, .table .opened [])]))
    | some (.table .implied inner) =>
      some (.table origin (Table.insert fields key (.table .opened inner)))
    | some _ => none
  | _ => none

/-- Adds a table to the list of tables under a key. -/
def appendKey (key : String) : Toml → Option Toml
  | .table origin fields =>
    match Table.get? fields key with
    | none => some (.table origin (fields ++ [(key, .tables [.table .opened []])]))
    | some (.tables items) =>
      some (.table origin (Table.insert fields key (.tables (items ++ [.table .opened []]))))
    | some _ => none
  | _ => none

/-- Opens the table at a path. -/
def openTable (t : Toml) (path : List String) : Option Toml := do
  change .implied (openKey (← path.getLast?)) path.dropLast t

/-- Adds a table to the list of tables at a path. -/
def appendTable (t : Toml) (path : List String) : Option Toml := do
  change .implied (appendKey (← path.getLast?)) path.dropLast t

/-- Writes a value under a dotted key of the table at a path. -/
def assignWithin (t : Toml) (current path : List String) (value : Toml) : Option Toml :=
  change .implied (·.assign path value) current t

end Toml
end ApiGraph
