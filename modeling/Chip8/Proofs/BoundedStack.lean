import Chip8.BoundedStack

/-!
# Stacks as lists

The items in use form a list, oldest first.  Pushing appends to it while there is room, and popping
takes its last item; slots above the items in use never show.
-/

namespace Chip8

namespace BoundedStack

variable {α : Type}

/-- The stack has `capacity` slots and uses no more than these. -/
structure Within (stack : BoundedStack α) (capacity : Nat) : Prop where
  /-- Number of slots. -/
  slots : stack.slots.size = capacity
  /-- Number of slots in use. -/
  depth_le : stack.depth ≤ capacity

variable {stack : BoundedStack α} {capacity : Nat}

theorem within_empty [Zero α] (capacity : Nat) :
    (empty capacity : BoundedStack α).Within capacity :=
  ⟨by simp [empty], Nat.zero_le _⟩

theorem Within.clear [Zero α] (within : stack.Within capacity) : stack.clear.Within capacity := by
  rw [BoundedStack.clear, within.slots]
  exact within_empty capacity

@[simp]
theorem toList_empty [Zero α] (capacity : Nat) :
    (empty capacity : BoundedStack α).toList = [] := by
  simp [toList, empty]

@[simp]
theorem toList_clear [Zero α] : stack.clear.toList = [] := toList_empty _

theorem Within.length_toList (within : stack.Within capacity) :
    stack.toList.length = stack.depth := by
  have slots := within.slots
  have depth_le := within.depth_le
  simp [toList]
  omega

/-- While there is room, pushing appends the item. -/
theorem Within.push (within : stack.Within capacity) (item : α) (room : stack.depth < capacity) :
    ∃ pushed, stack.push item = .ok pushed ∧ pushed.Within capacity ∧
      pushed.toList = stack.toList ++ [item] := by
  have slots := within.slots
  have fits : stack.depth < stack.slots.size := by omega
  refine ⟨⟨stack.slots.setIfInBounds stack.depth item, stack.depth + 1⟩, ?_, ⟨?_, ?_⟩, ?_⟩
  · rw [BoundedStack.push, if_pos fits]
  · simp [slots]
  · exact room
  · simp only [toList, Array.toList_setIfInBounds]
    rw [List.take_add_one, List.take_set_of_le (Nat.le_refl _), List.getElem?_set_self (by simpa)]
    rfl

theorem Within.push_of_full (within : stack.Within capacity) (item : α)
    (full : stack.depth = capacity) : stack.push item = .error .stackOverflow := by
  have slots := within.slots
  have no_room : ¬ stack.depth < stack.slots.size := by omega
  rw [BoundedStack.push, if_neg no_room]

/-- While something is in use, popping takes the last item. -/
theorem Within.pop [Zero α] (within : stack.Within capacity) (used : 0 < stack.depth) :
    ∃ item rest, stack.pop = .ok (item, rest) ∧ rest.Within capacity ∧
      stack.toList = rest.toList ++ [item] := by
  rcases stack with ⟨slots, depth⟩
  have slots_size := within.slots
  have depth_le := within.depth_le
  cases depth with
  | zero => exact absurd used (Nat.lt_irrefl 0)
  | succ depth =>
      simp only at slots_size depth_le
      refine ⟨slots.getD depth 0, ⟨slots, depth⟩, rfl, ⟨slots_size, ?_⟩, ?_⟩
      · exact Nat.le_of_succ_le depth_le
      · have inside : depth < slots.size := by omega
        simp [toList, List.take_add_one, inside]

theorem pop_of_unused [Zero α] (unused : stack.depth = 0) :
    stack.pop = .error .stackUnderflow := by
  rw [BoundedStack.pop, unused]

theorem Within.push_eq_error_iff (within : stack.Within capacity) (item : α) {fault : Fault} :
    stack.push item = .error fault ↔ stack.toList.length = capacity ∧ fault = .stackOverflow := by
  rw [within.length_toList]
  rcases Nat.lt_or_eq_of_le within.depth_le with room | full
  · obtain ⟨pushed, accepted, -, -⟩ := within.push item room
    rw [accepted]
    exact iff_of_false nofun fun refused => absurd refused.1 (Nat.ne_of_lt room)
  · rw [within.push_of_full item full, Except.error.injEq, and_iff_right full, eq_comm]

theorem Within.pop_eq_error_iff [Zero α] (within : stack.Within capacity) {fault : Fault} :
    stack.pop = .error fault ↔ stack.toList = [] ∧ fault = .stackUnderflow := by
  rw [← List.length_eq_zero_iff, within.length_toList]
  rcases Nat.eq_zero_or_pos stack.depth with unused | used
  · rw [pop_of_unused unused, Except.error.injEq, and_iff_right unused, eq_comm]
  · obtain ⟨item, rest, accepted, -, -⟩ := within.pop used
    rw [accepted]
    exact iff_of_false nofun fun refused => absurd refused.1 (Nat.ne_of_gt used)

end BoundedStack

end Chip8
