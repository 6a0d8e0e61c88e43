import Chip8.Proofs.Doubling

/-!
# Requests to a screen

A screen is asked, in any order, to flip pixels, to clear, to select planes and to scroll by a
number of its own pixels.  In low resolution it answers as a screen of half the size does in high
resolution, and shows the same picture enlarged after each request.
-/

namespace Chip8

namespace Screen

/-- What may be asked of a screen. -/
inductive Request where
  /-- Flip a pixel of a plane. -/
  | flip (number : Nat) (x y : Int)
  /-- Blank the selected planes. -/
  | clear
  /-- Blank every plane. -/
  | clearAll
  /-- Select planes by a mask. -/
  | select (mask : Int)
  /-- Scroll the selected planes by a number of pixels. -/
  | scroll (direction : Direction) (distance : Nat)

/-- The request is about a plane that exists, and about no pixel left of or above a screen that
does not wrap. -/
def Request.Valid (count : Nat) (wraps : Bool) : Request → Prop
  | .flip number x y => number < count ∧ (wraps = true ∨ 0 ≤ x ∧ 0 ≤ y)
  | _ => True

/-- What a screen answers: what flipping met, nothing to report, or why it did not comply. -/
abbrev Answer := Except Fault (Option Contact)

/-- Go over to the screen that comes out, if there is one. -/
def adopt (screen : Screen) : Except Fault Screen → Screen × Answer
  | .ok after => (after, .ok none)
  | .error fault => (screen, .error fault)

/-- The screen after a request, and its answer. -/
def serve (screen : Screen) : Request → Screen × Answer
  | .flip number x y =>
      let (flipped, result) := screen.flip number x y
      (flipped, result.map some)
  | .clear => (screen.clear, .ok none)
  | .clearAll => (screen.clearAll, .ok none)
  | .select mask => screen.adopt (screen.select mask)
  | .scroll direction distance =>
      screen.adopt (screen.scroll direction (screen.scale * distance : Nat))

/-- The screen after requests, one after the other, and all its answers. -/
def serveAll (screen : Screen) : List Request → Screen × List Answer
  | [] => (screen, [])
  | request :: rest =>
      let (screen, answer) := screen.serve request
      let (screen, answers) := screen.serveAll rest
      (screen, answer :: answers)

variable {screen small large : Screen} {width height count : Nat}

/-! ## Single requests -/

theorem flip_wraps (screen : Screen) (number : Nat) (x y : Int) :
    (screen.flip number x y).1.wraps = screen.wraps := by
  rw [flip]
  split <;> rfl

theorem Shaped.serve_wraps (shaped : screen.Shaped width height count) (request : Request) :
    (screen.serve request).1.wraps = screen.wraps := by
  cases request with
  | flip number x y => exact screen.flip_wraps number x y
  | clear | clearAll => rfl
  | select mask =>
      rw [serve, select]
      split <;> rfl
  | scroll direction distance =>
      rw [serve, shaped.scroll_eq]
      rfl

/-- Both screens answer a request alike. -/
theorem Doubled.serve (doubled : Doubled width height count small large) (width_pos : 0 < width)
    (height_pos : 0 < height) {request : Request} (valid : request.Valid count small.wraps) :
    (large.serve request).2 = (small.serve request).2 ∧
      Doubled width height count (small.serve request).1 (large.serve request).1 := by
  cases request with
  | flip number x y =>
      obtain ⟨existing, named⟩ := valid
      obtain ⟨small', large', contact, small_flip, large_flip, doubled'⟩ :=
        doubled.flip width_pos height_pos existing named
      rw [Screen.serve, Screen.serve, small_flip, large_flip]
      exact ⟨rfl, doubled'⟩
  | clear => exact ⟨rfl, doubled.clear⟩
  | clearAll => exact ⟨rfl, doubled.clearAll⟩
  | select mask =>
      rcases doubled.select mask with
        ⟨fault, small_select, large_select⟩ |
        ⟨small', large', small_select, large_select, doubled'⟩
      · rw [Screen.serve, Screen.serve, small_select, large_select]
        exact ⟨rfl, doubled⟩
      · rw [Screen.serve, Screen.serve, small_select, large_select]
        exact ⟨rfl, doubled'⟩
  | scroll direction distance =>
      obtain ⟨small', large', small_scroll, large_scroll, doubled'⟩ :=
        doubled.scroll direction distance
      rw [Screen.serve, Screen.serve, doubled.small_scale, doubled.large_scale, Nat.one_mul,
        small_scroll, large_scroll]
      exact ⟨rfl, doubled'⟩

/-! ## All requests -/

/-- A screen in low resolution answers any requests as the screen of half the size does that it
shows, and still shows it when they are done. -/
theorem doubled_serves_alike (width_pos : 0 < width) (height_pos : 0 < height)
    (doubled : Doubled width height count small large) (requests : List Request)
    (valid : ∀ request ∈ requests, request.Valid count small.wraps) :
    (large.serveAll requests).2 = (small.serveAll requests).2 ∧
      Doubled width height count (small.serveAll requests).1 (large.serveAll requests).1 := by
  induction requests generalizing small large with
  | nil => exact ⟨rfl, doubled⟩
  | cons request rest induction =>
      obtain ⟨first, others⟩ := List.forall_mem_cons.mp valid
      obtain ⟨answer, doubled'⟩ := doubled.serve width_pos height_pos first
      -- Which requests are valid depends on the edges, and those stay as they are.
      have kept := doubled.small_shaped.serve_wraps request
      obtain ⟨answers, last⟩ := induction doubled' (by rw [kept]; exact others)
      exact ⟨congrArg₂ List.cons answer answers, last⟩

/-- A screen of four cells that shows an unlit one: a pixel on it is flipped from outside and
scrolled away. -/
theorem point_serves_alike :
    let small := blank 1 1 1 true
    let large := { blank 2 2 1 true with lowRes := true }
    let requests : List Request := [.flip 0 (-3) 7, .scroll .up 1, .select 2]
    Doubled 1 1 1 small large ∧ (∀ request ∈ requests, request.Valid 1 small.wraps) ∧
      (large.serveAll requests).2 = [.ok (some .free), .ok none, .error .noSuchPlanes] ∧
      (large.serveAll requests).2 = (small.serveAll requests).2 ∧
      Doubled 1 1 1 (small.serveAll requests).1 (large.serveAll requests).1 := by
  intro small large requests
  have shaped : large.Shaped (2 * 1) (2 * 1) 1 := { shaped_blank 2 2 1 true with }
  have unlit : ∀ number < 1, (large.plane number).Unlit := by
    intro number inside
    rw [show large.plane number = _ from plane_blank 2 2 1 true inside]
    exact Plane.unlit_filled _
  have doubled : Doubled 1 1 1 small large := shaped.doubled_of_unlit rfl unlit
  have valid : ∀ request ∈ requests, request.Valid 1 small.wraps := by
    simp [requests, Request.Valid, small, blank]
  exact ⟨doubled, valid, by decide +kernel,
    doubled_serves_alike Nat.one_pos Nat.one_pos doubled requests valid⟩

end Screen

end Chip8
