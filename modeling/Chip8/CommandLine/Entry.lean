/-!
# Entries

What the user enters for an option that takes a value.  The value may be lost: a bare separator
attached to a name counts for nothing, so the option is then named and still has no value.
-/

namespace Chip8.CommandLine

/-- What the user enters for an option. -/
inductive Entry (α : Type) where
  /-- The option is not named. -/
  | absent
  /-- The option is named, and its value is lost. -/
  | blank
  /-- The option has a value. -/
  | given (value : α)
deriving DecidableEq, Repr

namespace Entry

/-- Apply a function to the value. -/
def map {α β : Type} (f : α → β) : Entry α → Entry β
  | .absent => .absent
  | .blank => .blank
  | .given value => .given (f value)

/-- The value, if there is one. -/
def value? {α : Type} : Entry α → Option α
  | .absent | .blank => none
  | .given value => some value

/-- Whether the option is named and its value is lost. -/
def isBlank {α : Type} : Entry α → Bool
  | .blank => true
  | .absent | .given _ => false

/-- The decision on a point that is left to a default while it is not named.  A lost value decides
against it. -/
def decision? : Entry Bool → Option Bool
  | .absent => none
  | .blank => some false
  | .given decision => some decision

end Entry

end Chip8.CommandLine
