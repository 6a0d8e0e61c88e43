import Chip8.Machine.Execute
import Chip8.Text.Hex

/-!
# Mnemonics

The assembly text of an instruction as live debugging shows it.  Where dialects give an instruction
different operands, the text shows those that count.
-/

namespace Chip8

open Text

/-- A register operand. -/
def Digit.register (x : Digit) : String := "V" ++ Hex.text 1 x.val

/-- A byte operand. -/
def Digit.byteText (byte : UInt8) : String := "0x" ++ Hex.text 2 byte.toNat

/-- An address operand. -/
def Digit.addressText (address : Fin 0x1000) : String := "0x" ++ Hex.text 3 address.val

open Digit

/-- A name with two operands. -/
def Instruction.two (name first second : String) : String := name ++ " " ++ first ++ ", " ++ second

/-- A skip and what it compares. -/
def Condition.mnemonic : Condition → String
  | .byteEqual x byte => Instruction.two "SE" x.register (byteText byte)
  | .byteUnequal x byte => Instruction.two "SNE" x.register (byteText byte)
  | .equal x y => Instruction.two "SE" x.register y.register
  | .unequal x y => Instruction.two "SNE" x.register y.register
  | .held x => "SKP " ++ x.register
  | .released x => "SKNP " ++ x.register

/-- The name of an operation on two registers. -/
def Arithmetic.mnemonic : Arithmetic → String
  | .copy => "LD"
  | .or => "OR"
  | .and => "AND"
  | .xor => "XOR"
  | .add => "ADD"
  | .subtract => "SUB"
  | .shiftRight => "SHR"
  | .subtractFrom => "SUBN"
  | .shiftLeft => "SHL"

/-- The text of an instruction that a machine is about to execute.  A long instruction whose second
word cannot be read has none. -/
def Instruction.mnemonic? (dialect : Dialect) (machine : Machine) :
    Instruction → Option String
  | .nop => "NOP"
  | .clear => "CLS"
  | .ret => "RET"
  | .jump address => "JP " ++ addressText address
  | .call address => "CALL " ++ addressText address
  | .skip condition => condition.mnemonic
  | .setByte x byte => two "LD" x.register (byteText byte)
  | .addByte x byte => two "ADD" x.register (byteText byte)
  | .arithmetic operation x y =>
      if operation.isUnary dialect then
        operation.mnemonic ++ " " ++ x.register
      else
        two operation.mnemonic x.register y.register
  | .setIndex address => two "LD" "I" (addressText address)
  | .jumpIndexed address =>
      two "JP" (Machine.jumpRegister dialect address).register (addressText address)
  | .random x mask => two "RND" x.register (byteText mask)
  | .draw x y rows => two "DRW" x.register (y.register ++ ", 0x" ++ Hex.text 1 rows.val)
  | .readDelay x => two "LD" x.register "DT"
  | .awaitKey x => two "LD" x.register "K"
  | .setDelay x => two "LD" "DT" x.register
  | .setSound x => two "LD" "ST" x.register
  | .addIndex x => two "ADD" "I" x.register
  | .smallDigit x => two "LD" "F" x.register
  | .storeDecimal x => two "LD" "B" x.register
  | .store x => two "LD" "[I]" x.register
  | .load x => two "LD" x.register "[I]"
  | .scroll .up count => "SCU " ++ Hex.text 1 count.val
  | .scroll .down count => "SCD " ++ Hex.text 1 count.val
  | .scroll .left _ => "SCL"
  | .scroll .right _ => "SCR"
  | .restart => "EXIT"
  | .resolution false => "LOW"
  | .resolution true => "HIGH"
  | .largeDigit x => two "LD" "HF" x.register
  | .saveFlags x => two "LD" "R" x.register
  | .loadFlags x => two "LD" x.register "R"
  | .storeRange x y => two "XST" x.register y.register
  | .loadRange x y => two "XLD" x.register y.register
  | .setIndexLong =>
      machine.operand.toOption.map fun index => two "XLDL" "I" ("0x" ++ Hex.text 4 index)
  | .selectPlanes mask => "XPLA 0x" ++ Hex.text 1 mask.val
  | .loadPattern => "XSTA"
  | .setPitch x => "XPR " ++ x.register

end Chip8
