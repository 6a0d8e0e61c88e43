/-!
# Loops that may be refused

A loop is never refused if none of its turns is.  Two loops over the same list that carry a state and an
answer end with related states and the same answer if every turn keeps it that way.
-/

namespace Chip8.Loop

variable {α β ε σ τ : Type}

/-- A loop is never refused if no turn is as long as the state is kept in some form. -/
theorem foldlM_eq_ok (kept : σ → Prop) {body : σ → α → Except ε σ} {change : σ → α → σ}
    {turns : List α}
    (turn : ∀ s, ∀ a ∈ turns, kept s → body s a = .ok (change s a) ∧ kept (change s a))
    {s : σ} (start : kept s) :
    turns.foldlM body s = .ok (turns.foldl change s) ∧ kept (turns.foldl change s) := by
  induction turns generalizing s with
  | nil => exact ⟨rfl, start⟩
  | cons first rest induction =>
      obtain ⟨done, next⟩ := turn s first List.mem_cons_self start
      rw [List.foldlM_cons, done]
      exact induction (fun s a member => turn s a (List.mem_cons_of_mem first member)) next

/-- A loop that counts by ones counts no more than its turns. -/
theorem foldlM_count_le {body : σ × Nat → α → Except ε (σ × Nat)} {turns : List α}
    (turn : ∀ s t a count after, body (s, count) a = .ok (t, after) → after ≤ count + 1)
    {s t : σ} {count after : Nat} (done : turns.foldlM body (s, count) = .ok (t, after)) :
    after ≤ count + turns.length := by
  induction turns generalizing s count with
  | nil =>
      cases done
      exact Nat.le_refl _
  | cons first rest induction =>
      rw [List.foldlM_cons] at done
      rcases once : body (s, count) first with fault | ⟨next, middle⟩
      · rw [once] at done
        cases done
      · rw [once] at done
        have step := turn _ _ _ _ _ once
        have others := induction done
        rw [List.length_cons]
        omega

/-- Both computations finish, with the same answer and with related states. -/
def Matched (relation : σ → τ → Prop) (left : Except ε (σ × β)) (right : Except ε (τ × β)) :
    Prop :=
  ∃ s t answer, left = .ok (s, answer) ∧ right = .ok (t, answer) ∧ relation s t

theorem foldlM_matched {relation : σ → τ → Prop} {left : σ × β → α → Except ε (σ × β)}
    {right : τ × β → α → Except ε (τ × β)} {turns : List α}
    (turn : ∀ s t answer, ∀ a ∈ turns, relation s t →
      Matched relation (left (s, answer) a) (right (t, answer) a))
    {s : σ} {t : τ} (start : relation s t) (answer : β) :
    Matched relation (turns.foldlM left (s, answer)) (turns.foldlM right (t, answer)) := by
  induction turns generalizing s t answer with
  | nil => exact ⟨s, t, answer, rfl, rfl, start⟩
  | cons first rest induction =>
      obtain ⟨s', t', answer', left_turn, right_turn, related⟩ :=
        turn s t answer first List.mem_cons_self start
      rw [List.foldlM_cons, List.foldlM_cons, left_turn, right_turn]
      exact induction
        (fun s t answer a member => turn s t answer a (List.mem_cons_of_mem first member))
        related answer'

/-! ## Answers -/

theorem foldl_or (test : α → Bool) (turns : List α) (before : Bool) :
    turns.foldl (fun answer turn => answer || test turn) before = (before || turns.any test) := by
  induction turns generalizing before with
  | nil => exact (Bool.or_false before).symm
  | cons turn rest induction => rw [List.foldl_cons, induction, List.any_cons, Bool.or_assoc]

theorem foldl_count (test : α → Bool) (turns : List α) (before : Nat) :
    turns.foldl (fun answer turn => if test turn then answer + 1 else answer) before =
      before + turns.countP test := by
  induction turns generalizing before with
  | nil => rfl
  | cons turn rest induction =>
      rw [List.foldl_cons, induction, List.countP_cons]
      split
      · rw [Nat.add_assoc, Nat.add_comm 1]
      · rfl

end Chip8.Loop
