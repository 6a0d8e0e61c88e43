/-!
# TOML values

The values that a configuration document holds.  Tables keep their entries in the order in which
they were written.
-/

namespace Chip8.Toml

/-- A value of a document. -/
inductive Value where
  /-- A string. -/
  | text (content : String)
  /-- A whole number. -/
  | integer (number : Int)
  /-- A truth value. -/
  | boolean (truth : Bool)
  /-- A number with a fraction, a date or a time, of which only the wording is kept. -/
  | other (shown : String)
  /-- A sequence of values. -/
  | array (items : List Value)
  /-- Named values. -/
  | table (entries : List (String × Value))
deriving Repr

/-- The entries of a table. -/
abbrev Table := List (String × Value)

/-- The names that lead from the root to a value. -/
abbrev Path := List String

/-- Why a text is no document. -/
inductive Error where
  /-- The text breaks the grammar, or defines something twice. -/
  | malformed
  /-- A decimal number has too many digits. -/
  | numberTooLong
  /-- Values are nested too deeply. -/
  | nestedTooDeeply
deriving DecidableEq, Repr

namespace Value

/-- Whether a value has parts. -/
def isContainer : Value → Bool
  | .array _ | .table _ => true
  | _ => false

end Value

namespace Table

/-- Replace the value of a name that is present. -/
def put (name : String) (value : Value) (table : Table) : Table :=
  table.map fun entry => if entry.1 = name then (name, value) else entry

/-- Change the table that a path leads to.  Missing tables on the way are made, and where
`intoArrays` is set an array on the way stands for its last table. -/
def change (intoArrays : Bool) : Path → (Table → Except Error Table) → Table → Except Error Table
  | [], act, table => act table
  | name :: path, act, table =>
      match table.lookup name with
      | none => do
          let inner ← change intoArrays path act []
          return table ++ [(name, .table inner)]
      | some (.table inner) => do
          let inner ← change intoArrays path act inner
          return Table.put name (.table inner) table
      | some (.array items) =>
          match intoArrays, items.getLast? with
          | true, some (.table inner) => do
              let inner ← change intoArrays path act inner
              return Table.put name (.array (items.dropLast ++ [.table inner])) table
          | _, _ => .error .malformed
      | some _ => .error .malformed

/-- Add a value under a name that is still free. -/
def add (name : String) (value : Value) (table : Table) : Except Error Table :=
  if (table.lookup name).isSome then .error .malformed else .ok (table ++ [(name, value)])

/-- Add an empty table at the end of an array, which is made if it is missing. -/
def extend (name : String) (table : Table) : Except Error Table :=
  match table.lookup name with
  | none => .ok (table ++ [(name, .array [.table []])])
  | some (.array items) => .ok (Table.put name (.array (items ++ [.table []])) table)
  | some _ => .error .malformed

end Table

end Chip8.Toml
