/-!
# Fields

Text that is cut at every occurrence of a separator.
-/

namespace Chip8.Text

/-- The pieces between separators; without a separator the whole text is one piece. -/
def fields (separator : Char) : List Char → List (List Char)
  | [] => [[]]
  | c :: rest =>
      if c = separator then
        [] :: fields separator rest
      else
        match fields separator rest with
        | [] => [[c]]
        | first :: others => (c :: first) :: others

end Chip8.Text
