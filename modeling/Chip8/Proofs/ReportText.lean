import Chip8.Fault
import Chip8.Machine.Report
import Chip8.Proofs.Numeral
import Chip8.Proofs.Registers

/-!
# Reading reports

Fields of a report end where the label of the next one begins, and numbers in hexadecimal hold
neither blanks nor line breaks.  So a report can be cut into its fields, and from each of them the
number, the registers or the addresses can be read that it was made from.
-/

namespace Chip8

open Text

/-! ## Cutting texts -/

namespace Text

variable {mark : Char} {first first' rest rest' : List Char}

/-- Equal texts are cut alike at the first place where a mark stands. -/
theorem eq_of_append_cons (clean : mark ∉ first) (clean' : mark ∉ first')
    (same : first ++ mark :: rest = first' ++ mark :: rest') : first = first' ∧ rest = rest' := by
  induction first generalizing first' with
  | nil =>
      cases first' with
      | nil => exact ⟨rfl, List.tail_eq_of_cons_eq same⟩
      | cons d others =>
          obtain ⟨rfl, -⟩ := List.cons.inj same
          exact absurd List.mem_cons_self clean'
  | cons c others induction =>
      cases first' with
      | nil =>
          obtain ⟨rfl, -⟩ := List.cons.inj same
          exact absurd List.mem_cons_self clean
      | cons d others' =>
          obtain ⟨rfl, later⟩ := List.cons.inj same
          obtain ⟨rfl, rest_eq⟩ := induction (List.not_mem_of_not_mem_cons clean)
            (List.not_mem_of_not_mem_cons clean') later
          exact ⟨rfl, rest_eq⟩

/-- Equal texts are cut alike at the last place where a mark stands. -/
theorem eq_of_append_cons_last (clean : mark ∉ rest) (clean' : mark ∉ rest')
    (same : first ++ mark :: rest = first' ++ mark :: rest') : first = first' ∧ rest = rest' := by
  have reversed := congrArg List.reverse same
  simp only [List.reverse_append, List.reverse_cons, List.append_assoc, List.singleton_append]
    at reversed
  obtain ⟨rest_eq, first_eq⟩ := eq_of_append_cons (by rwa [List.mem_reverse])
    (by rwa [List.mem_reverse]) reversed
  exact ⟨List.reverse_inj.mp first_eq, List.reverse_inj.mp rest_eq⟩

/-- A field ends where a label begins. -/
theorem eq_of_append_label (label : String) (begins : label.toList.head? = some mark)
    (clean : mark ∉ first) (clean' : mark ∉ first')
    (same : first ++ (label.toList ++ rest) = first' ++ (label.toList ++ rest')) :
    first = first' ∧ rest = rest' := by
  obtain ⟨others, label_eq⟩ := List.head?_eq_some_iff.mp begins
  rw [label_eq] at same
  obtain ⟨rfl, later⟩ := eq_of_append_cons clean clean' same
  exact ⟨rfl, List.append_cancel_left later⟩

/-- A field begins where a label of its own mark ends. -/
theorem eq_of_append_label_last (label : String) (begins : label.toList.head? = some mark)
    (once : mark ∉ label.toList.tail) (clean : mark ∉ rest) (clean' : mark ∉ rest')
    (same : first ++ label.toList ++ rest = first' ++ label.toList ++ rest') :
    first = first' ∧ rest = rest' := by
  obtain ⟨others, label_eq⟩ := List.head?_eq_some_iff.mp begins
  rw [label_eq, List.tail_cons] at once
  rw [label_eq, List.append_assoc, List.append_assoc] at same
  have later {rest : List Char} (clean : mark ∉ rest) : mark ∉ others ++ rest := fun member =>
    (List.mem_append.mp member).elim once clean
  obtain ⟨rfl, ends⟩ := eq_of_append_cons_last (later clean) (later clean') same
  exact ⟨rfl, List.append_cancel_left ends⟩

theorem notMem_intercalate {separator : Char} (apart : mark ≠ separator)
    {pieces : List (List Char)} (clean : ∀ piece ∈ pieces, mark ∉ piece) :
    mark ∉ [separator].intercalate pieces := by
  induction pieces with
  | nil => exact List.not_mem_nil
  | cons piece others induction =>
      obtain ⟨first, later⟩ := List.forall_mem_cons.mp clean
      cases others with
      | nil => rwa [List.intercalate_singleton]
      | cons next others =>
          rw [List.intercalate_cons_cons, List.mem_append, List.mem_append, not_or, not_or,
            List.mem_singleton]
          exact ⟨⟨first, apart⟩, induction later⟩

/-! ## Hexadecimal fields -/

namespace Hex

variable {width width' : Nat} {mark : Char}

/-- Letters and digits do not separate. -/
theorem notMem_of_isAlphanum (separates : mark.isAlphanum = false) {written : List Char}
    (alphanum : ∀ c ∈ written, c.isAlphanum) : mark ∉ written :=
  fun member => Bool.eq_false_iff.mp separates (alphanum mark member)

theorem notMem_sign (separates : mark.isAlphanum = false) : mark ∉ "0x".toList :=
  notMem_of_isAlphanum separates (List.all_eq_true.mp rfl)

theorem isAlphanum_of_mem_padDigits {number : Nat} {c : Char}
    (member : c ∈ padDigits width number) : c.isAlphanum := by
  obtain ⟨digits, written, bounded, -⟩ := exists_padDigits_eq width number
  rw [written] at member
  obtain ⟨digit, digit_member, rfl⟩ := List.mem_map.mp member
  exact (Numeral.isAlphanum_digitChar (bounded digit digit_member)).1

/-- A number can be read from its digits, however many zeros stand in front. -/
theorem padDigits_injective {number number' : Nat}
    (same : padDigits width number = padDigits width' number') : number = number' := by
  have read (width number : Nat) : Numeral.hexadecimal.valueOf ((padDigits width number).map
      fun c => (Numeral.digitValue? c).getD 0) = number := by
    obtain ⟨digits, written, bounded, value⟩ := exists_padDigits_eq width number
    rw [written, List.map_map, List.map_congr_left (g := id), List.map_id, value]
    intro digit member
    rw [Function.comp, (Numeral.digitValue?_digitChar (bounded digit member)).1]
    rfl
  rw [← read width number, same, read]

/-- The sign tells negative numbers, and nothing else in front of the digits counts. -/
theorem pad_injective {number number' : Int} (same : pad width number = pad width number') :
    number = number' := by
  have unsigned {width number : Nat} {rest : List Char} : padDigits width number ≠ '-' :: rest := by
    intro signed
    have member : '-' ∈ padDigits width number := signed ▸ List.mem_cons_self
    exact absurd (isAlphanum_of_mem_padDigits member) (by decide)
  cases number with
  | ofNat number =>
      cases number' with
      | ofNat number' => exact congrArg Int.ofNat (padDigits_injective same)
      | negSucc number' => exact absurd same unsigned
  | negSucc number =>
      cases number' with
      | ofNat number' => exact absurd same.symm unsigned
      | negSucc number' =>
          have magnitude := padDigits_injective (List.cons.inj same).2
          exact congrArg Int.negSucc (Nat.succ.inj magnitude)

theorem notMem_pad (separates : mark.isAlphanum = false) (noSign : mark ≠ '-')
    {number : Int} : mark ∉ pad width number := by
  have notMem {width number : Nat} : mark ∉ padDigits width number :=
    notMem_of_isAlphanum separates fun _ => isAlphanum_of_mem_padDigits
  cases number with
  | ofNat number => exact notMem
  | negSucc number => exact List.not_mem_cons_of_ne_of_not_mem noSign notMem

theorem notMem_text (separates : mark.isAlphanum = false) (noSign : mark ≠ '-')
    {number : Int} : mark ∉ (text width number).toList := by
  rw [text, String.toList_ofList]
  exact notMem_pad separates noSign

theorem notMem_bytes (separates : mark.isAlphanum = false) (block : List UInt8) :
    mark ∉ (bytes block).toList := by
  rw [bytes, String.toList_ofList, List.mem_flatMap]
  rintro ⟨b, -, member⟩
  exact notMem_of_isAlphanum separates (fun _ => isAlphanum_of_mem_padDigits) member

/-- Bytes can be read from their digits, two for each. -/
theorem bytes_injective {block block' : List UInt8} (same : bytes block = bytes block') :
    block = block' := by
  have two (b : UInt8) : (byte b).length = 2 := length_padDigits (by decide) b.toNat_lt
  have nonempty (b : UInt8) (rest : List Char) : byte b ++ rest ≠ [] :=
    List.append_ne_nil_of_left_ne_nil (List.ne_nil_of_length_eq_add_one (two b)) rest
  replace same := String.ofList_injective same
  induction block generalizing block' with
  | nil =>
      cases block' with
      | nil => rfl
      | cons b others => exact absurd same.symm (nonempty b _)
  | cons b others induction =>
      cases block' with
      | nil => exact absurd same (nonempty b _)
      | cons b' others' =>
          rw [List.flatMap_cons, List.flatMap_cons] at same
          obtain ⟨first, later⟩ := List.append_inj same ((two b).trans (two b').symm)
          rw [UInt8.toNat_inj.mp (padDigits_injective first), induction later]

end Hex

end Text

namespace Machine

variable {machine other : Machine} {address address' opcode opcode' : Int} {text text' : String}

/-! ## Registers and return addresses -/

theorem notMem_registersText {mark : Char} (separates : mark.isAlphanum = false)
    (registers : Registers) : mark ∉ (registersText registers).toList := by
  rw [registersText, String.toList_append, List.mem_append, not_or]
  exact ⟨Hex.notMem_sign separates, Hex.notMem_bytes separates _⟩

/-- Sixteen registers can be read from their text. -/
theorem registersText_injective {registers registers' : Registers} (full : registers.size = 16)
    (full' : registers'.size = 16) (same : registersText registers = registersText registers') :
    registers = registers' := by
  have whole {registers : Registers} (full : registers.size = 16) :
      registers.upTo 15 = registers := Array.extract_eq_self_of_le (Nat.le_of_eq full)
  rw [registersText, registersText, whole full, whole full', String.append_right_inj] at same
  exact Array.toList_inj.mp (List.reverse_inj.mp (Hex.bytes_injective same))

/-- The addresses on the stack as they are written between blanks. -/
def returnTexts (addresses : List Int) : List (List Char) :=
  addresses.map fun address => "0x".toList ++ Hex.pad 3 address

theorem toList_stackText (used : machine.stack.toList ≠ []) :
    machine.stackText.toList = [' '].intercalate (returnTexts machine.stack.toList) := by
  obtain ⟨oldest, others, used_eq⟩ := List.exists_cons_of_ne_nil used
  rw [stackText, used_eq]
  simp only [String.toList_intercalate, List.map_map, returnTexts]
  congr 1
  refine List.map_congr_left fun address _ => ?_
  simp [Hex.text]

/-- Beside what numbers are written with, only blanks are written between return addresses. -/
theorem notMem_returnTexts {mark : Char} (separates : mark.isAlphanum = false)
    (noSign : mark ≠ '-') {addresses : List Int} :
    ∀ piece ∈ returnTexts addresses, mark ∉ piece := by
  intro piece member
  obtain ⟨address, -, rfl⟩ := List.mem_map.mp member
  rw [List.mem_append, not_or]
  exact ⟨Hex.notMem_sign separates, Hex.notMem_pad separates noSign⟩

theorem newline_notMem_stackText : '\n' ∉ machine.stackText.toList := by
  by_cases used : machine.stack.toList = []
  · rw [stackText, used]
    decide
  · rw [toList_stackText used]
    exact notMem_intercalate (by decide) (notMem_returnTexts (by decide) (by decide))

/-- An empty stack is told by a text that no addresses have. -/
theorem stackText_eq_empty_iff :
    machine.stackText = "(Empty)" ↔ machine.stack.toList = [] := by
  constructor
  · intro told
    by_contra used
    have bracket : '(' ∈ machine.stackText.toList := by
      rw [told]
      decide
    rw [toList_stackText used] at bracket
    exact notMem_intercalate (by decide) (notMem_returnTexts (by decide) (by decide)) bracket
  · intro unused
    rw [stackText, unused]

/-- Return addresses can be read from their text. -/
theorem stackText_injective (same : machine.stackText = other.stackText) :
    machine.stack.toList = other.stack.toList := by
  by_cases used : machine.stack.toList = []
  · rw [used, stackText_eq_empty_iff.mp (same ▸ stackText_eq_empty_iff.mpr used)]
  · have used' : other.stack.toList ≠ [] := fun unused =>
      used (stackText_eq_empty_iff.mp (same ▸ stackText_eq_empty_iff.mpr unused))
    have joined := congrArg String.toList same
    rw [toList_stackText used, toList_stackText used'] at joined
    have pieces := congrArg (fields ' ') joined
    have nonempty {addresses : List Int} (used : addresses ≠ []) : returnTexts addresses ≠ [] :=
      List.map_eq_nil_iff.not.mpr used
    rw [fields_intercalate (nonempty used) (notMem_returnTexts (by decide) (by decide)),
      fields_intercalate (nonempty used') (notMem_returnTexts (by decide) (by decide))] at pieces
    refine List.map_injective_iff.mpr (fun address address' written => ?_) pieces
    exact Hex.pad_injective (List.append_cancel_left written)

/-! ## Lines -/

/-- What a line shows beside the text of an instruction. -/
structure Glance where
  /-- General registers. -/
  v : Registers
  /-- Index register. -/
  index : Int
  /-- Delay timer. -/
  delay : Int
  /-- Sound timer. -/
  sound : Int
  /-- Address of the instruction. -/
  address : Int
  /-- Number of the instruction. -/
  opcode : Int
deriving DecidableEq, Repr

/-- What a line shows of a machine. -/
def glance (machine : Machine) (address opcode : Int) : Glance :=
  ⟨machine.v, machine.index, machine.delay, machine.sound, address, opcode⟩

/-- All that a line shows can be read from it, whatever follows. -/
theorem eq_of_line_append {rest rest' : List Char} (full : machine.v.size = 16)
    (full' : other.v.size = 16)
    (same : (machine.line address opcode text).toList ++ rest =
      (other.line address' opcode' text').toList ++ rest') :
    machine.glance address opcode = other.glance address' opcode' ∧
      text.toList ++ rest = text'.toList ++ rest' := by
  unfold line at same
  simp only [Hex.text, String.toList_append, String.toList_ofList, List.append_assoc] at same
  have blank {width : Nat} {number : Int} : ' ' ∉ Hex.pad width number :=
    Hex.notMem_pad (by decide) (by decide)
  obtain ⟨v, same⟩ := eq_of_append_label " I: 0x" rfl (notMem_registersText (by decide) _)
    (notMem_registersText (by decide) _) (List.append_cancel_left same)
  obtain ⟨index, same⟩ := eq_of_append_label " DT: 0x" rfl blank blank same
  obtain ⟨delay, same⟩ := eq_of_append_label " ST: 0x" rfl blank blank same
  obtain ⟨sound, same⟩ := eq_of_append_label " PC: 0x" rfl blank blank same
  obtain ⟨fetchedFrom, same⟩ := eq_of_append_label " OP: 0x" rfl blank blank same
  obtain ⟨number, same⟩ := eq_of_append_label " IN: " rfl blank blank same
  refine ⟨?_, same⟩
  rw [glance, glance, registersText_injective full full' (String.toList_injective v),
    Hex.pad_injective index, Hex.pad_injective delay, Hex.pad_injective sound,
    Hex.pad_injective fetchedFrom, Hex.pad_injective number]

theorem newline_notMem_line (single : '\n' ∉ text.toList) :
    '\n' ∉ (machine.line address opcode text).toList := by
  have number {width : Nat} {number : Int} : '\n' ∉ (Hex.text width number).toList :=
    Hex.notMem_text (by decide) (by decide)
  unfold line
  simp [number, notMem_registersText, single]

/-! ## Full reports -/

/-- What a full report shows beside the text of an instruction. -/
structure Readout extends Glance where
  /-- Flags that outlive a reset. -/
  flags : Registers
  /-- Outstanding return addresses, oldest first. -/
  returns : List Int
deriving DecidableEq, Repr

/-- What a full report shows of a machine. -/
def readout (machine : Machine) (address opcode : Int) : Readout :=
  { machine.glance address opcode with
    flags := machine.flags
    returns := machine.stack.toList }

/-- All that a full report shows can be read from it, and the text of the instruction as well. -/
theorem eq_of_fullReport (full : machine.v.size = 16) (full' : other.v.size = 16)
    (flags : machine.flags.size = 16) (flags' : other.flags.size = 16)
    (same : machine.fullReport address opcode text = other.fullReport address' opcode' text') :
    machine.readout address opcode = other.readout address' opcode' ∧ text = text' := by
  have shown := congrArg String.toList same
  unfold fullReport at shown
  simp only [String.toList_append, List.append_assoc] at shown
  obtain ⟨glance, shown⟩ := eq_of_line_append full full' shown
  -- The text of the instruction may hold anything, so the rest is cut from its end.
  simp only [← List.append_assoc] at shown
  obtain ⟨shown, returns⟩ := eq_of_append_label_last "\nStack: " rfl (by decide)
    newline_notMem_stackText newline_notMem_stackText shown
  obtain ⟨text_eq, rpl⟩ := eq_of_append_label_last "\nRPL: " rfl (by decide)
    (notMem_registersText (by decide) _) (notMem_registersText (by decide) _) shown
  refine ⟨?_, String.toList_injective text_eq⟩
  rw [readout, readout, glance, registersText_injective flags flags' (String.toList_injective rpl),
    stackText_injective (String.toList_injective returns)]

end Machine

/-! ## Crash reports -/

namespace CrashReport

variable {report other : CrashReport}

/-- A crash report can be read from its text, if its architecture is shown without a bracket. -/
theorem text_injective (label : ')' ∉ report.arch.toList) (label' : ')' ∉ other.arch.toList)
    (same : report.text = other.text) : report = other := by
  have shown := congrArg String.toList same
  unfold text at shown
  simp only [Hex.text, String.toList_append, String.toList_ofList, List.append_assoc] at shown
  have shown := List.append_cancel_left (List.append_cancel_left (List.append_cancel_left shown))
  obtain ⟨arch, shown⟩ := eq_of_append_label "):\n" rfl label label' shown
  have blank {width : Nat} {number : Int} : ' ' ∉ Hex.pad width number :=
    Hex.notMem_pad (by decide) (by decide)
  have newline {width : Nat} {number : Int} : '\n' ∉ Hex.pad width number :=
    Hex.notMem_pad (by decide) (by decide)
  -- The state may hold line breaks itself, so it ends at the last but one of them.
  rw [show "\n\nOpcode 0x".toList = '\n' :: '\n' :: "Opcode 0x".toList from rfl] at shown
  simp only [List.cons_append] at shown
  rw [List.append_cons report.state.toList, List.append_cons other.state.toList] at shown
  obtain ⟨state, shown⟩ := eq_of_append_cons_last (by simp [newline]) (by simp [newline]) shown
  obtain ⟨opcode, address⟩ := eq_of_append_label " at address 0x" rfl blank blank
    (List.append_cancel_left shown)
  rcases report with ⟨_, _, _, _⟩
  rcases other with ⟨_, _, _, _⟩
  rw [mk.injEq]
  exact ⟨String.toList_injective arch, Hex.pad_injective opcode,
    Hex.pad_injective (List.append_cancel_right address),
    String.toList_injective (List.append_cancel_right state)⟩

end CrashReport

end Chip8
