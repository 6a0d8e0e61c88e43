import Chip8.Keypad.Keyboard
import Chip8.Proofs.Course
import Chip8.Proofs.Keymap

/-!
# Keys held and requests made

The host asks for the events of its keyboard every now and then, and gets them in batches.  Whether
a key is held depends on the last event of its code, and an event stands for a request only if its
code is assigned to no key.  How the events are cut into batches does not matter, and a batch is
taken to its end even if the window is closed in its midst.
-/

namespace Chip8

namespace KeyEvent

/-- What an event does to the key of a code: press it, release it, or nothing. -/
def stroke? (code : Int) : KeyEvent → Option Bool
  | .down pressed => if code = pressed then some true else none
  | .up released => if code = released then some false else none
  | .close | .other => none

/-- The request that an event stands for.  A code that belongs to a key stands for none. -/
def request? (keymap : Keymap) : KeyEvent → Option HostAction
  | .close => some .quit
  | .down code => if code ∈ keymap.codes then none else HostAction.hotkeys.lookup code
  | .up _ | .other => none

end KeyEvent

namespace Keyboard

/-- React to batches of events in order, with the requests that each batch stands for. -/
def reactBatches : List (List KeyEvent) → Keyboard → Keyboard × List (List HostAction)
  | [], keyboard => (keyboard, [])
  | batch :: rest, keyboard =>
      let (keyboard, actions) := reactAll batch keyboard
      let (keyboard, others) := reactBatches rest keyboard
      (keyboard, actions :: others)

theorem get_set (held : Vector Bool 16) (value : Bool) (other key : Digit) :
    (held.set other value other.isLt).get key = if other = key then value else held.get key := by
  have read : (held.set other value other.isLt)[key.val] =
      if other.val = key.val then value else held[key.val] := Vector.getElem_set ..
  simp only [Fin.ext_iff]
  exact read

section Event

variable (keyboard : Keyboard) (event : KeyEvent)

theorem keymap_react : (keyboard.react event).1.keymap = keyboard.keymap := by
  cases event with
  | down code | up code =>
      rw [react]
      split <;> rfl
  | close | other => rfl

theorem request_react : (keyboard.react event).2 = event.request? keyboard.keymap := by
  cases event with
  | down code =>
      rw [react, KeyEvent.request?]
      rcases assigned : keyboard.keymap.keyOf? code with _ | key
      · rw [if_neg (Keymap.keyOf?_eq_none_iff.mp assigned)]
      · rw [if_pos (Keymap.mem_of_keyOf? assigned)]
  | up code =>
      rw [react]
      split <;> rfl
  | close | other => rfl

/-- A key goes with the event of its code, and stays as it was with any other event. -/
theorem held_react (distinct : keyboard.keymap.codes.toList.Nodup) (key : Digit) :
    (keyboard.react event).1.held.get key =
      (event.stroke? (keyboard.keymap.codes.get key)).getD (keyboard.held.get key) := by
  -- With different codes, looking a code up is comparing it with the code of the key.
  cases event with
  | down code | up code =>
      simp only [react, KeyEvent.stroke?, ← Keymap.keyOf?_eq_some_iff distinct]
      rcases keyboard.keymap.keyOf? code with _ | assigned
      · rfl
      · simp only [get_set, Option.some_inj]
        split <;> rfl
  | close | other => rfl

end Event

section Run

variable {keymap : Keymap} {text : List Char}

theorem reactAll_cons (event : KeyEvent) (rest : List KeyEvent) (keyboard : Keyboard) :
    reactAll (event :: rest) keyboard =
      ((reactAll rest (keyboard.react event).1).1,
        (keyboard.react event).2.toList ++ (reactAll rest (keyboard.react event).1).2) :=
  rfl

theorem requests_reactAll (events : List KeyEvent) (keyboard : Keyboard) :
    (reactAll events keyboard).2 = events.filterMap (KeyEvent.request? keyboard.keymap) := by
  induction events generalizing keyboard with
  | nil => rfl
  | cons event rest induction =>
      rw [reactAll_cons, induction, keymap_react, List.filterMap_cons, ← request_react]
      cases (keyboard.react event).2 <;> rfl

theorem held_reactAll (events : List KeyEvent) (keyboard : Keyboard)
    (distinct : keyboard.keymap.codes.toList.Nodup) (key : Digit) :
    (reactAll events keyboard).1.held.get key =
      (latest (KeyEvent.stroke? (keyboard.keymap.codes.get key)) events).getD
        (keyboard.held.get key) := by
  induction events generalizing keyboard with
  | nil => rfl
  | cons event rest induction =>
      have later := induction (keyboard.react event).1
        ((keymap_react keyboard event).symm ▸ distinct)
      rw [keymap_react, held_react keyboard event distinct] at later
      rw [latest_cons, Option.getD_or]
      exact later

theorem reactAll_append (first second : List KeyEvent) (keyboard : Keyboard) :
    reactAll (first ++ second) keyboard =
      ((reactAll second (reactAll first keyboard).1).1,
        (reactAll first keyboard).2 ++ (reactAll second (reactAll first keyboard).1).2) := by
  induction first generalizing keyboard with
  | nil => rfl
  | cons event rest induction =>
      simp only [List.cons_append, reactAll_cons, induction, List.append_assoc]

/-- Batches of events come to what their events come to in one go. -/
theorem reactBatches_eq (batches : List (List KeyEvent)) (keyboard : Keyboard) :
    ((reactBatches batches keyboard).1, (reactBatches batches keyboard).2.flatten) =
      reactAll batches.flatten keyboard := by
  induction batches generalizing keyboard with
  | nil => rfl
  | cons batch rest induction =>
      rw [List.flatten_cons, reactAll_append, ← induction]
      rfl

/-- Closing the window has no effect on the keys, neither before it nor after it. -/
theorem reactAll_filter_close (events : List KeyEvent) (keyboard : Keyboard) :
    (reactAll (events.filter (· ≠ .close)) keyboard).1 = (reactAll events keyboard).1 := by
  induction events generalizing keyboard with
  | nil => rfl
  | cons event rest induction =>
      by_cases closed : event = .close
      · subst closed
        exact induction keyboard
      · rw [List.filter_cons, if_pos (decide_eq_true closed)]
        exact induction (keyboard.react event).1

theorem held_idle (keymap : Keymap) (key : Digit) : (idle keymap).held.get key = false :=
  Vector.getElem_replicate key.isLt

/-- From the start, a key is held if the last event of its code has pressed it.  The requests are
those of the events in order, and closing the window is a request that keeps no later event from
being heeded.  The same events in other batches come to the same. -/
theorem held_and_requests (accepted : Keymap.parse text = .ok keymap)
    (batches : List (List KeyEvent)) :
    let outcome := reactBatches batches (idle keymap)
    (∀ key, outcome.1.held.get key = true ↔
      latest (KeyEvent.stroke? (keymap.codes.get key)) batches.flatten = some true) ∧
    outcome.2.flatten = batches.flatten.filterMap (KeyEvent.request? keymap) ∧
    (reactBatches (batches.map fun batch => batch.filter (· ≠ .close)) (idle keymap)).1 =
      outcome.1 ∧
    ∀ others : List (List KeyEvent), others.flatten = batches.flatten →
      (reactBatches others (idle keymap)).1 = outcome.1 ∧
      (reactBatches others (idle keymap)).2.flatten = outcome.2.flatten := by
  intro outcome
  have keyboard_eq (batches : List (List KeyEvent)) :
      (reactBatches batches (idle keymap)).1 = (reactAll batches.flatten (idle keymap)).1 :=
    congrArg Prod.fst (reactBatches_eq batches (idle keymap))
  have requests_eq (batches : List (List KeyEvent)) :
      (reactBatches batches (idle keymap)).2.flatten = (reactAll batches.flatten (idle keymap)).2 :=
    congrArg Prod.snd (reactBatches_eq batches (idle keymap))
  refine ⟨fun key => ?_, ?_, ?_, fun others same => ⟨?_, ?_⟩⟩
  · have distinct := (Keymap.parse_eq_ok_iff.mp accepted).2
    have held : outcome.1.held.get key =
        (latest (KeyEvent.stroke? (keymap.codes.get key)) batches.flatten).getD false := by
      rw [keyboard_eq, held_reactAll _ _ distinct, held_idle]
      rfl
    rw [held, Option.getD_eq_iff]
    simp
  · rw [requests_eq]
    exact requests_reactAll batches.flatten (idle keymap)
  · rw [keyboard_eq, keyboard_eq, ← List.filter_flatten, reactAll_filter_close]
  · rw [keyboard_eq, keyboard_eq, same]
  · rw [requests_eq, requests_eq, same]

/-- With Escape and M as keys 0 and 1, they are no requests: they press and release these keys, even
in a batch in which the window has been closed. -/
theorem held_and_requests_of_remapped :
    let keymap : Keymap :=
      ⟨#v[27, 109, 50, 51, 113, 119, 101, 97, 115, 100, 122, 99, 52, 114, 102, 118]⟩
    let outcome :=
      reactBatches [[.down 27, .close, .down 109, .up 27], [], [.down 8, .up 8]] (idle keymap)
    Keymap.parse "27,109,50,51,113,119,101,97,115,100,122,99,52,114,102,118".toList = .ok keymap ∧
      outcome.1.held.get 0 = false ∧ outcome.1.held.get 1 = true ∧
      outcome.2.flatten = [.quit, .reset] := by
  intro keymap outcome
  have accepted : Keymap.parse
      "27,109,50,51,113,119,101,97,115,100,122,99,52,114,102,118".toList = .ok keymap := by
    decide +kernel
  obtain ⟨held, requests, -⟩ := held_and_requests accepted
    [[.down 27, .close, .down 109, .up 27], [], [.down 8, .up 8]]
  refine ⟨accepted, ?_, (held 1).mpr (by decide), requests.trans (by decide +kernel)⟩
  exact Bool.eq_false_iff.mpr fun pressed => absurd ((held 0).mp pressed) (by decide)

end Run

end Keyboard

end Chip8
