import Chip8.Toml.Value

/-!
# TOML documents under construction

The tables read so far, with what later lines may no longer do to them.  Values written inline are
closed for good; a table that has been opened by its header or through a dotted name is not opened
again.
-/

namespace Chip8.Toml

/-- A document that is being read. -/
structure Document where
  /-- Everything read so far. -/
  root : Table
  /-- Paths of inline values; nothing below them may change. -/
  frozen : List Path
  /-- Paths of tables that have been opened. -/
  opened : List Path
  /-- Paths of tables made by dotted names; they count as opened from the next header on. -/
  pending : List Path
  /-- Path of the table that the last header opened. -/
  header : Path

namespace Document

/-- A document of which nothing has been read. -/
def empty : Document := ⟨[], [], [], [], []⟩

/-- Whether a path leads into a closed value. -/
def isFrozen (frozen : List Path) (path : Path) : Bool :=
  frozen.any fun closed => closed.isPrefixOf path

/-- The proper prefixes of a name that lie below the header, shortest first. -/
def between (key : Path) : List Path := (List.range key.length).tail.map key.take

/-- Record a value under a dotted name. -/
def pair (document : Document) (key : Path) (value : Value) : Except Error Document := do
  let onTheWay := (between key).map (document.header ++ ·)
  if onTheWay.any document.opened.contains then
    throw .malformed
  let parent := document.header ++ key.dropLast
  if isFrozen document.frozen parent then
    throw .malformed
  let root ← document.root.change true parent (Table.add (key.getLastD "") value)
  return { document with
    root
    pending := onTheWay ++ document.pending
    frozen :=
      if value.isContainer then (document.header ++ key) :: document.frozen
      else document.frozen }

/-- Before a header, tables made by dotted names become opened. -/
def settle (document : Document) : Document :=
  { document with opened := document.pending ++ document.opened, pending := [] }

/-- Open a table by its header. -/
def openTable (document : Document) (key : Path) : Except Error Document := do
  if document.opened.contains key || isFrozen document.frozen key then
    throw .malformed
  let root ← document.root.change true key .ok
  return { document with root, opened := key :: document.opened, header := key }

/-- Open a further table of an array by its header. -/
def openItem (document : Document) (key : Path) : Except Error Document := do
  if isFrozen document.frozen key then
    throw .malformed
  let outside (path : Path) : Bool := !key.isPrefixOf path
  let root ← document.root.change true key.dropLast (Table.extend (key.getLastD ""))
  return { document with
    root
    frozen := document.frozen.filter outside
    opened := key :: document.opened.filter outside
    header := key }

end Document

end Chip8.Toml
