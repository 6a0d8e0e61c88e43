/-!
# Product identification

The texts by which the interpreter introduces itself.
-/

namespace Chip8.Product

/-- Name shown in window titles and reports. -/
def name : String := "TriChip Interpreter"

/-- Release number. -/
def version : String := "1.0.0"

/-- Opening words of the banner and of crash reports. -/
def intro : String := name ++ " V" ++ version ++ " -- "

/-- Notice printed after the opening words. -/
def notice : String :=
  "Copyright (C) 2022 Gregory Maynard-Hoare, licensed under GNU Affero General Public License v3.0"

/-- First line that the program prints. -/
def banner : String := intro ++ notice

end Chip8.Product
