/-!
# Spans

The division of a sequence into its spans, the longest stretches of equal neighbours.
-/

namespace Chip8

/-- Equal neighbours in a sequence. -/
structure Span (α : Type) where
  /-- Place of the first of them. -/
  start : Nat
  /-- Number of them. -/
  length : Nat
  /-- What each of them is. -/
  value : α
deriving DecidableEq, Repr

namespace Span

variable {α : Type} [BEq α]

/-- The spans of a sequence, from those behind its first value. -/
def cons (place : Nat) (value : α) : List (Span α) → List (Span α)
  | [] => [⟨place, 1, value⟩]
  | span :: rest =>
      if span.value == value then
        ⟨place, span.length + 1, value⟩ :: rest
      else
        ⟨place, 1, value⟩ :: span :: rest

/-- The spans of a sequence, first to last. -/
def ofArray (values : Array α) : List (Span α) :=
  (values.foldr (fun value (place, spans) => (place - 1, cons (place - 1) value spans))
    (values.size, [])).2

end Span

end Chip8
