import Chip8.Arch

/-!
# Dialects

Interpreters of one architecture disagree on eight documented points.  A dialect decides each of
them, and every architecture has a standard dialect from which single points may be changed.
-/

namespace Chip8

/-- A point on which interpreters of one architecture differ. -/
inductive Trait where
  /-- `OR`, `AND` and `XOR` clear VF afterwards. -/
  | flagReset
  /-- Storing or loading a register block leaves I just past the block. -/
  | indexAdvance
  /-- Sprites are drawn only by the first instruction of a frame. -/
  | frameWait
  /-- Sprites are cut off at the screen edges instead of wrapping around. -/
  | clipping
  /-- Shifts work on Vx in place and ignore Vy. -/
  | shiftInPlace
  /-- The indexed jump adds the register named by the top digit of its address, not V0. -/
  | jumpByRegister
  /-- Sprite pixels lost to clipping count as collisions. -/
  | clipCollision
  /-- Scroll distances are physical pixels also in low resolution. -/
  | physicalScroll
deriving DecidableEq, Repr

namespace Trait

/-- Every trait, in the order in which they are listed to the user. -/
def all : List Trait :=
  [.flagReset, .indexAdvance, .frameWait, .clipping, .shiftInPlace, .jumpByRegister,
    .clipCollision, .physicalScroll]

/-- The name of a trait in settings and on the command line. -/
def key : Trait → String
  | .flagReset => "vf_reset"
  | .indexAdvance => "memory_increment"
  | .frameWait => "display_wait"
  | .clipping => "clipping"
  | .shiftInPlace => "shifting_ignores_source"
  | .jumpByRegister => "jump_uses_vx"
  | .clipCollision => "clip_counts_as_collision"
  | .physicalScroll => "legacy_scroll"

/-- The trait with the given name. -/
def ofKey? (text : String) : Option Trait := all.find? fun trait => trait.key == text

end Trait

/-- A decision on every trait. -/
abbrev Dialect := Trait → Bool

namespace Dialect

/-- The customary dialect of an architecture. -/
def standard : Arch → Dialect
  | .chip8, .flagReset | .chip8, .indexAdvance | .chip8, .frameWait | .chip8, .clipping => true
  | .superChip, .clipping | .superChip, .shiftInPlace | .superChip, .jumpByRegister
  | .superChip, .clipCollision | .superChip, .physicalScroll => true
  | .xoChip, .indexAdvance => true
  | _, _ => false

/-- Settings that each decide a trait or leave it to the architecture. -/
abbrev Overrides := Trait → Option Bool

/-- The standard dialect of an architecture with some traits decided otherwise. -/
def ofOverrides (arch : Arch) (overrides : Overrides) : Dialect :=
  fun trait => (overrides trait).getD (standard arch trait)

end Dialect

/-- Why settings do not describe a machine. -/
inductive SettingsError where
  /-- No architecture answers to this text. -/
  | unsupportedArch (shown : String)
  /-- These names belong to no trait. -/
  | unknownTraits (names : List String)
deriving DecidableEq, Repr

namespace SettingsError

/-- The wording shown to the user. -/
def message : SettingsError → String
  | .unsupportedArch shown => "Unsupported architecture: " ++ shown
  | .unknownTraits names => "Unknown quirks: " ++ ", ".intercalate names

end SettingsError

/-- A named setting of a trait; without a value the architecture decides. -/
structure Setting where
  /-- Name of the trait. -/
  name : String
  /-- The decision, if one is made. -/
  value : Option Bool
deriving DecidableEq, Repr

namespace Dialect

/-- The decision that a list of settings makes on a trait. -/
def overridesOf (settings : List Setting) : Overrides :=
  fun trait => (settings.find? fun setting => setting.name == trait.key).bind Setting.value

/-- Settle a dialect from named settings.  Unknown names are reported in code point order. -/
def ofSettings (arch : Arch) (settings : List Setting) : Except SettingsError Dialect :=
  let unknown := (settings.map Setting.name).filter fun name => (Trait.ofKey? name).isNone
  if unknown.isEmpty then
    .ok (ofOverrides arch (overridesOf settings))
  else
    .error (.unknownTraits (unknown.mergeSort fun a b => decide (a ≤ b)))

end Dialect

end Chip8
