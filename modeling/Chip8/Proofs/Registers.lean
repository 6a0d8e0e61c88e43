import Chip8.Registers

/-!
# Full rows of registers

A row with all sixteen registers never misses one, and no operation changes its length.
-/

namespace Chip8

namespace Registers

@[simp]
theorem size_zeros : zeros.size = 16 := by
  simp [zeros]

theorem demand_of_full {registers : Registers} (full : registers.size = 16)
    (needed : List Digit) : registers.demand needed = .ok () := by
  have found : (needed.all fun x => x.val < registers.size) = true := by
    rw [List.all_eq_true]
    intro x _
    have := x.isLt
    simp [full]
  rw [demand, found]
  rfl

@[simp]
theorem size_write (registers : Registers) (x : Digit) (value : UInt8) :
    (registers.write x value).size = registers.size := by
  simp [write]

theorem read_write_self {registers : Registers} (full : registers.size = 16) (x : Digit)
    (value : UInt8) : (registers.write x value).read x = value := by
  have inside : x.val < registers.size := by omega
  simp [read, write, inside]

theorem read_write_of_ne (registers : Registers) {x r : Digit} (other : r ≠ x) (value : UInt8) :
    (registers.write x value).read r = registers.read r := by
  have apart : x.val ≠ r.val := fun same => other (Fin.ext same.symm)
  simp [read, write, apart]

theorem byte_read (registers : Registers) (x : Digit) :
    0 ≤ ((registers.read x).toNat : Int) ∧ ((registers.read x).toNat : Int) ≤ 0xFF := by
  have byte := (registers.read x).toNat_lt
  omega

theorem size_upTo {registers : Registers} (full : registers.size = 16) (x : Digit) :
    (registers.upTo x).size = x + 1 := by
  have := x.isLt
  rw [upTo, Array.size_extract, full]
  omega

theorem size_refill {registers : Registers} (full : registers.size = 16) {x : Digit}
    {block : Array UInt8} (length : block.size = x + 1) :
    (registers.refill x block).size = 16 := by
  have := x.isLt
  rw [refill, Array.size_append, Array.size_extract, length, full]
  omega

end Registers

end Chip8
