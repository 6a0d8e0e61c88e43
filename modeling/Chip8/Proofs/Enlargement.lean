import Chip8.Proofs.Doubling

/-!
# Enlarged screens

A large screen enlarges a small one if the two are doubled and only the first plane is in use.
Clearing and drawing keep it so.
-/

namespace Chip8

namespace Screen

/-- The large screen shows the picture of the small one, on the first plane alone. -/
structure Enlarged (small large : Screen) : Prop where
  /-- Sizes of the small screen. -/
  small_shaped : small.Shaped 64 32 2
  /-- Sizes of the large screen. -/
  large_shaped : large.Shaped 128 64 2
  /-- Both treat their edges alike. -/
  wraps : large.wraps = small.wraps
  /-- A pixel of the small screen is one cell. -/
  small_lowRes : small.lowRes = false
  /-- A pixel of the large screen is a block. -/
  large_lowRes : large.lowRes = true
  /-- The first plane of the small screen is selected. -/
  small_mask : small.mask = 1
  /-- So is that of the large screen. -/
  large_mask : large.mask = 1
  /-- Every block shows its pixel. -/
  pixels : ∀ x < 128, ∀ y < 64,
    (large.plane 0).lit (y * 128 + x) = (small.plane 0).lit (y / 2 * 64 + x / 2)
  /-- The second plane of the small screen is blank. -/
  small_blank : (small.plane 1).Unlit
  /-- So is that of the large screen. -/
  large_blank : (large.plane 1).Unlit

variable {small large : Screen}

theorem selected_of_first {screen : Screen} (two : screen.planes.size = 2)
    (first : screen.mask = 1) : screen.selected = [0] := by
  rw [selected, two, first]
  rfl

/-- Doubled screens are enlarged if the first plane is selected and the second one is blank. -/
theorem Doubled.enlarged (doubled : Doubled 64 32 2 small large) (first : small.mask = 1)
    (blank : (small.plane 1).Unlit) : Enlarged small large where
  small_shaped := doubled.small_shaped
  large_shaped := doubled.large_shaped
  wraps := doubled.wraps
  small_lowRes := doubled.small_lowRes
  large_lowRes := doubled.large_lowRes
  small_mask := first
  large_mask := doubled.mask.trans first
  pixels := (doubled.plane 0 Nat.two_pos).shows
  small_blank := blank
  large_blank := by
    intro place
    have second := doubled.plane 1 Nat.one_lt_two
    by_cases inside : place < 128 * 64
    · have shown := second.shows (place % 128) (Nat.mod_lt _ (by decide)) (place / 128) (by omega)
      rw [Nat.div_add_mod', blank] at shown
      exact shown
    · have outside : (large.plane 1).cells.size ≤ place := by
        rw [second.large_sized.cells]
        omega
      rw [Plane.lit_eq, Array.getElem?_eq_none outside]
      rfl

namespace Enlarged

theorem doubled (enlarged : Enlarged small large) : Doubled 64 32 2 small large where
  small_shaped := enlarged.small_shaped
  large_shaped := enlarged.large_shaped
  wraps := enlarged.wraps
  small_lowRes := enlarged.small_lowRes
  large_lowRes := enlarged.large_lowRes
  mask := enlarged.large_mask.trans enlarged.small_mask.symm
  plane number inside :=
    { small_sized := enlarged.small_shaped.planes_sized number inside
      large_sized := enlarged.large_shaped.planes_sized number inside
      shows := by
        match number with
        | 0 => exact enlarged.pixels
        | 1 =>
            intro x _ y _
            rw [enlarged.large_blank, enlarged.small_blank]
        | _ + 2 => omega }

theorem selected_eq (enlarged : Enlarged small large) :
    small.selected = [0] ∧ large.selected = [0] :=
  ⟨selected_of_first enlarged.small_shaped.planes_size enlarged.small_mask,
    selected_of_first enlarged.large_shaped.planes_size enlarged.large_mask⟩

/-- Doubled screens are enlarged again if only the first plane was repainted. -/
theorem repainted (enlarged : Enlarged small large) {small' large' : Screen}
    (repainted : Repainted small small') (doubled : Doubled 64 32 2 small' large') :
    Enlarged small' large' := by
  refine doubled.enlarged (repainted.mask.trans enlarged.small_mask) ?_
  rw [repainted.unselected 1 (by rw [enlarged.small_mask]; rfl)]
  exact enlarged.small_blank

theorem clear (enlarged : Enlarged small large) : Enlarged small.clear large.clear :=
  enlarged.repainted small.repainted_clear enlarged.doubled.clear

/-- Flipping the same pixel on both screens meets the same and keeps the pictures equal. -/
theorem flipsAlike : FlipsAlike Enlarged 0 := by
  intro small large enlarged x y x_nonneg y_nonneg
  have scale := enlarged.doubled.small_scale
  obtain ⟨small', large', contact, small_flip, large_flip, doubled⟩ :=
    enlarged.doubled.flip (by decide) (by decide) Nat.two_pos (Or.inr ⟨x_nonneg, y_nonneg⟩)
  obtain ⟨after, contact', flipped, repainted⟩ := enlarged.small_shaped.flip
    (by rw [scale]; decide) (by rw [scale]; decide)
    (by rw [enlarged.selected_eq.1]; exact List.mem_cons_self) x_nonneg y_nonneg
  cases small_flip.symm.trans flipped
  exact ⟨small', large', contact, small_flip, large_flip, enlarged.repainted repainted doubled⟩

end Enlarged

end Screen

end Chip8
