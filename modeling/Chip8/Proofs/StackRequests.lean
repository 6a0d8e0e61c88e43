import Chip8.Machine
import Chip8.Proofs.BoundedStack
import Chip8.Proofs.Store

/-!
# Requests to a stack

Items are pushed, popped and cleared in any order, and a request that is refused is as good as any
other.  The stack answers as a list does that takes items at its end while there is room, and shows
the items of this list.  What popped items leave behind in the slots is never seen again: whatever
the slots above the items in use hold, all later answers are the same.
-/

namespace Chip8

namespace BoundedStack

variable {α : Type}

/-- What may be asked of a stack. -/
inductive Request (α : Type) where
  /-- Put an item on top. -/
  | push (item : α)
  /-- Take the topmost item. -/
  | pop
  /-- Take all items away. -/
  | clear

/-- How a request ends; one to pop is answered with the item. -/
abbrev Answer (α : Type) := Except Fault (Option α)

/-- Do what is asked for.  A stack that refuses stays as it is. -/
def serve [Zero α] (stack : BoundedStack α) : Request α → BoundedStack α × Answer α
  | .push item =>
      match stack.push item with
      | .ok pushed => (pushed, .ok none)
      | .error fault => (stack, .error fault)
  | .pop =>
      match stack.pop with
      | .ok (item, rest) => (rest, .ok (some item))
      | .error fault => (stack, .error fault)
  | .clear => (stack.clear, .ok none)

/-- The same for a list with room for `capacity` items. -/
def serveList (capacity : Nat) (items : List α) : Request α → List α × Answer α
  | .push item =>
      if items.length < capacity then (items ++ [item], .ok none)
      else (items, .error .stackOverflow)
  | .pop =>
      match items.getLast? with
      | some item => (items.dropLast, .ok (some item))
      | none => (items, .error .stackUnderflow)
  | .clear => ([], .ok none)

/-- Requests in order, with the answer to each. -/
def serveAll {σ : Type} (serve : σ → Request α → σ × Answer α) :
    List (Request α) → σ → σ × List (Answer α)
  | [], state => (state, [])
  | request :: rest, state =>
      let (state, answer) := serve state request
      let (state, answers) := serveAll serve rest state
      (state, answer :: answers)

/-- Place of the topmost item in use, which is -1 if there is none. -/
def pointer (stack : BoundedStack α) : Int := stack.depth - 1

/-- The stack has `capacity` slots and shows the given items. -/
structure Holds (stack : BoundedStack α) (capacity : Nat) (items : List α) : Prop where
  /-- The slots. -/
  within : stack.Within capacity
  /-- The items in use. -/
  items : stack.toList = items

variable {stack other : BoundedStack α} {capacity : Nat} {items : List α}

theorem Holds.depth_eq (holds : stack.Holds capacity items) : stack.depth = items.length := by
  rw [← holds.items, holds.within.length_toList]

theorem Holds.length_le (holds : stack.Holds capacity items) : items.length ≤ capacity :=
  holds.depth_eq ▸ holds.within.depth_le

variable [Zero α]

/-! ## One request -/

theorem make_eq_ok_iff {size : Int} :
    make size = .ok stack ↔
      (-0x8000000000000000 ≤ size ∧ size < 0x8000000000000000) ∧ stack = empty size.toNat := by
  rw [make]
  split_ifs with negative
  · rw [Int.toNat_of_nonpos (Int.le_of_lt negative.2), Except.ok.injEq, eq_comm, iff_and_self]
    intro
    omega
  · rcases allocated : Store.allocate size with fault | count
    · refine iff_of_false nofun fun both => ?_
      have granted : size = size.toNat ∧ size < 0x8000000000000000 := by omega
      rw [Store.allocate_eq_ok_iff.mpr granted] at allocated
      cases allocated
    · obtain ⟨rfl, few⟩ := Store.allocate_eq_ok_iff.mp allocated
      rw [Except.map, Except.ok.injEq, eq_comm, Int.toNat_natCast, iff_and_self]
      intro
      omega

/-- A refused request leaves the stack as it was, with its slots. -/
theorem serve_of_error {request : Request α} {fault : Fault}
    (refused : (stack.serve request).2 = .error fault) : (stack.serve request).1 = stack := by
  cases request with
  | push item =>
      simp only [serve] at refused ⊢
      split
      · simp_all
      · rfl
  | pop =>
      simp only [serve] at refused ⊢
      split
      · simp_all
      · rfl
  | clear => cases refused

namespace Holds

theorem empty (capacity : Nat) : (empty capacity : BoundedStack α).Holds capacity [] :=
  ⟨within_empty capacity, toList_empty capacity⟩

/-- A stack serves a request as the list of its items does. -/
theorem serve (holds : stack.Holds capacity items) (request : Request α) :
    (stack.serve request).1.Holds capacity (serveList capacity items request).1 ∧
      (stack.serve request).2 = (serveList capacity items request).2 := by
  have depth := holds.depth_eq
  obtain ⟨within, rfl⟩ := holds
  cases request with
  | push item =>
      rw [BoundedStack.serve, serveList]
      split_ifs with room
      · obtain ⟨pushed, accepted, within', items⟩ := within.push item (depth ▸ room)
        rw [accepted]
        exact ⟨⟨within', items⟩, rfl⟩
      · have full : stack.depth = capacity := Nat.le_antisymm within.depth_le (by omega)
        rw [within.push_of_full item full]
        exact ⟨⟨within, rfl⟩, rfl⟩
  | pop =>
      rw [BoundedStack.serve, serveList]
      rcases Nat.eq_zero_or_pos stack.depth with unused | used
      · have none_left : stack.toList = [] := List.length_eq_zero_iff.mp (by omega)
        rw [pop_of_unused unused, none_left]
        exact ⟨⟨within, none_left⟩, rfl⟩
      · obtain ⟨item, rest, accepted, within', items⟩ := within.pop used
        rw [accepted, items, List.getLast?_concat, List.dropLast_concat]
        exact ⟨⟨within', rfl⟩, rfl⟩
  | clear => exact ⟨⟨within.clear, toList_clear⟩, rfl⟩

/-! ## Runs -/

/-- A stack serves requests as the list of its items does. -/
theorem serveAll (holds : stack.Holds capacity items) (requests : List (Request α)) :
    (BoundedStack.serveAll BoundedStack.serve requests stack).1.Holds capacity
        (BoundedStack.serveAll (serveList capacity) requests items).1 ∧
      (BoundedStack.serveAll BoundedStack.serve requests stack).2 =
        (BoundedStack.serveAll (serveList capacity) requests items).2 := by
  induction requests generalizing stack items with
  | nil => exact ⟨holds, rfl⟩
  | cons request rest induction =>
      obtain ⟨next, answer⟩ := holds.serve request
      obtain ⟨last, answers⟩ := induction next
      exact ⟨last, congrArg₂ List.cons answer answers⟩

/-- Two stacks that show the same items answer alike from then on. -/
theorem alike (holds : stack.Holds capacity items) (same : other.Holds capacity items)
    (requests : List (Request α)) :
    (BoundedStack.serveAll BoundedStack.serve requests other).2 =
        (BoundedStack.serveAll BoundedStack.serve requests stack).2 ∧
      (BoundedStack.serveAll BoundedStack.serve requests other).1.toList =
        (BoundedStack.serveAll BoundedStack.serve requests stack).1.toList := by
  obtain ⟨shown, answers⟩ := holds.serveAll requests
  obtain ⟨shown', answers'⟩ := same.serveAll requests
  exact ⟨answers'.trans answers.symm, shown'.items.trans shown.items.symm⟩

end Holds

/-- A new stack of any size, negative ones counting as none, does what is asked of it as a list
does that takes items at its end while there is room.  It shows the items of this list, and the
pointer is one less than their number.  A push is refused if the list is full and a pop if it is
empty, and what is refused changes nothing.  The slots above the items in use may hold anything:
neither the answers to later requests nor the items then shown depend on them.  This is the stack
that is made of every size of at most 64 bits. -/
theorem served_like_list (size : Int) (requests : List (Request α)) :
    let capacity := size.toNat
    let after := (serveAll serve requests (empty capacity : BoundedStack α)).1
    let items := (serveAll (serveList capacity) requests []).1
    (∀ stack : BoundedStack α, make size = .ok stack ↔
      (-0x8000000000000000 ≤ size ∧ size < 0x8000000000000000) ∧ stack = empty capacity) ∧
    (serveAll serve requests (empty capacity : BoundedStack α)).2 =
      (serveAll (serveList capacity) requests []).2 ∧
    after.toList = items ∧ after.slots.size = capacity ∧
    after.pointer = items.length - 1 ∧ -1 ≤ after.pointer ∧ after.pointer ≤ capacity - 1 ∧
    (∀ item fault, after.push item = .error fault ↔
      items.length = capacity ∧ fault = .stackOverflow) ∧
    (∀ fault, after.pop = .error fault ↔ items = [] ∧ fault = .stackUnderflow) ∧
    (∀ request fault, (after.serve request).2 = .error fault → (after.serve request).1 = after) ∧
    ∀ other : BoundedStack α, other.slots.size = capacity → other.depth = after.depth →
      other.toList = after.toList → ∀ later,
        (serveAll serve later other).2 = (serveAll serve later after).2 ∧
        (serveAll serve later other).1.toList = (serveAll serve later after).1.toList := by
  intro capacity after items
  obtain ⟨holds, answers⟩ := (Holds.empty (α := α) capacity).serveAll requests
  change after.Holds capacity items at holds
  have depth := holds.depth_eq
  have length_le := holds.length_le
  have shown := holds.items
  refine ⟨fun stack => make_eq_ok_iff, answers, shown, holds.within.slots,
    ?_, ?_, ?_, ?_, ?_, ?_, ?_⟩
  · rw [pointer, depth]
  · rw [pointer]
    omega
  · rw [pointer]
    omega
  · intro item fault
    rw [holds.within.push_eq_error_iff, shown]
  · intro fault
    rw [holds.within.pop_eq_error_iff, shown]
  · intro request fault
    exact serve_of_error
  · intro other slots same_depth same later
    have within : other.Within capacity := ⟨slots, same_depth ▸ holds.within.depth_le⟩
    exact holds.alike ⟨within, same.trans shown⟩ later

/-- A popped item stays in its slot, and another item in this slot makes no difference. -/
theorem served_like_list_after_popping :
    ∃ stack : CallStack, make 2 = .ok stack ∧
      ∃ after other : CallStack,
        after = (serveAll serve [.push 5, .push 7, .pop] stack).1 ∧ after.pointer = 0 ∧
        after.slots = #[5, 7] ∧ other.slots = #[5, 9] ∧ other.depth = after.depth ∧
        other.toList = after.toList ∧
        (serveAll serve [.push 8, .push 6, .pop, .pop, .pop] other).2 =
          (serveAll serve [.push 8, .push 6, .pop, .pop, .pop] after).2 := by
  obtain ⟨made, -, -, -, pointer, -, -, -, -, -, unnoticed⟩ :=
    served_like_list 2 [.push (5 : Int), .push 7, .pop]
  refine ⟨empty 2, (made _).mpr ⟨by decide, rfl⟩, _, ⟨#[5, 9], 1⟩, rfl, pointer,
    rfl, rfl, rfl, rfl, ?_⟩
  exact (unnoticed ⟨#[5, 9], 1⟩ rfl rfl rfl [.push 8, .push 6, .pop, .pop, .pop]).1

end BoundedStack

end Chip8
