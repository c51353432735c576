set_option autoImplicit false

/-!
# Addressing modes, operand widths and opcodes

The 65816 addressing modes of the datasheet, three more that only hand-kept amendments use
(accumulator, absolute indirect long, and `manual` for an entry classified by hand), the
operand width classes, and opcodes as bytes.

Each mode and width has a tag, the upper-case name under which generated sources and the
listing line print it. `AddrMode.all` lists the modes in declaration order, so that a mode's
position there is its ordinal.
-/

namespace W65816

abbrev Opcode := Fin 256

/-- The opcode of a byte value; values past 255 wrap around. -/
def Opcode.ofByte (n : Nat) : Opcode := ⟨n % 256, Nat.mod_lt n (by decide)⟩

/-- The first element of `xs` whose opcode an element of `seen`, or an earlier element of `xs`,
already has, together with that earlier element. Listing rows and amendments are both checked
this way. -/
def firstRepeat {α : Type} (opcode : α → Opcode) (seen : List α) : List α → Option (α × α)
  | [] => none
  | x :: xs =>
    match seen.find? (opcode · == opcode x) with
    | some prev => some (prev, x)
    | none => firstRepeat opcode (seen ++ [x]) xs

theorem firstRepeat_eq_none_iff {α : Type} (opcode : α → Opcode) (seen xs : List α) :
    firstRepeat opcode seen xs = none ↔
      (∀ x ∈ xs, ∀ s ∈ seen, opcode s ≠ opcode x) ∧ (xs.map opcode).Nodup := by
  induction xs generalizing seen with
  | nil => simp [firstRepeat]
  | cons x xs inductionHypothesis =>
      cases found : seen.find? (opcode · == opcode x) with
      | some prev =>
          have earlier := List.mem_of_find?_eq_some found
          have same : opcode prev = opcode x := by simpa using List.find?_some found
          simp only [firstRepeat, found, reduceCtorEq, false_iff, not_and]
          intro fresh
          exact absurd same (fresh x List.mem_cons_self prev earlier)
      | none =>
          -- `x` joins the elements seen, so the rest is checked against it too
          have fresh : ∀ s ∈ seen, opcode s ≠ opcode x := by simpa using found
          simp only [firstRepeat, found, inductionHypothesis, List.map_cons, List.nodup_cons,
            List.mem_map, List.mem_cons, List.mem_append]
          clear found
          grind

theorem firstRepeat_nil_eq_none_iff {α : Type} (opcode : α → Opcode) (xs : List α) :
    firstRepeat opcode [] xs = none ↔ (xs.map opcode).Nodup := by
  simp [firstRepeat_eq_none_iff]

/-- An addressing mode of the 65816. -/
inductive AddrMode where
  | immediateMemory
  | immediateIndex
  | immediate8
  | branch8
  | branch16
  | implied
  | stack
  | directPage
  | directPageX
  | directPageY
  | directPageIndirect
  | directPageXIndirect
  | directPageIndirectY
  | directPageIndirectLong
  | directPageIndirectLongY
  | absolute
  | absoluteX
  | absoluteY
  | absoluteLong
  | absoluteLongX
  | stackRelative
  | stackRelativeIndirectY
  | absoluteIndirect
  | absoluteXIndirect
  | blockMove
  | accumulator
  | absoluteIndirectLong
  | manual
  deriving DecidableEq, Repr, Inhabited

namespace AddrMode

def tag : AddrMode → String
  | immediateMemory => "IMMEDIATE_MEMORY"
  | immediateIndex => "IMMEDIATE_INDEX"
  | immediate8 => "IMMEDIATE_8"
  | branch8 => "BRANCH_8"
  | branch16 => "BRANCH_16"
  | implied => "IMPLIED"
  | stack => "STACK"
  | directPage => "DIRECT_PAGE"
  | directPageX => "DIRECT_PAGE_INDEXED_X"
  | directPageY => "DIRECT_PAGE_INDEXED_Y"
  | directPageIndirect => "DIRECT_PAGE_INDIRECT"
  | directPageXIndirect => "DIRECT_PAGE_INDEXED_X_INDIRECT"
  | directPageIndirectY => "DIRECT_PAGE_INDIRECT_INDEXED_Y"
  | directPageIndirectLong => "DIRECT_PAGE_INDIRECT_LONG"
  | directPageIndirectLongY => "DIRECT_PAGE_INDIRECT_LONG_INDEXED_Y"
  | absolute => "ABSOLUTE"
  | absoluteX => "ABSOLUTE_INDEXED_X"
  | absoluteY => "ABSOLUTE_INDEXED_Y"
  | absoluteLong => "ABSOLUTE_LONG"
  | absoluteLongX => "ABSOLUTE_LONG_INDEXED_X"
  | stackRelative => "STACK_RELATIVE"
  | stackRelativeIndirectY => "STACK_RELATIVE_INDIRECT_INDEXED_Y"
  | absoluteIndirect => "ABSOLUTE_INDIRECT"
  | absoluteXIndirect => "ABSOLUTE_INDEXED_X_INDIRECT"
  | blockMove => "BLOCK_MOVE"
  | accumulator => "ACCUMULATOR"
  | absoluteIndirectLong => "ABSOLUTE_INDIRECT_LONG"
  | manual => "MANUAL"

def all : List AddrMode :=
  [immediateMemory, immediateIndex, immediate8, branch8, branch16, implied, stack,
    directPage, directPageX, directPageY, directPageIndirect, directPageXIndirect,
    directPageIndirectY, directPageIndirectLong, directPageIndirectLongY,
    absolute, absoluteX, absoluteY, absoluteLong, absoluteLongX,
    stackRelative, stackRelativeIndirectY, absoluteIndirect, absoluteXIndirect,
    blockMove, accumulator, absoluteIndirectLong, manual]

def ofTag? (s : String) : Option AddrMode := all.find? (·.tag == s)

/-- The immediate modes: the operand is the byte or bytes after the opcode. -/
def isImmediate : AddrMode → Bool
  | immediateMemory | immediateIndex | immediate8 => true
  | _ => false

end AddrMode

/-- The width class of an instruction's operand: none declared (printed as `small` in the
finished table), following the index-register or the accumulator width flag, one byte, or
reserved for 24-bit operands (always among the generated width names). -/
inductive Width where
  | unsized
  | index
  | memory
  | small
  | wide
  deriving DecidableEq, Repr, Inhabited

namespace Width

def tag : Width → String
  | unsized => "NONE"
  | index => "INDEX"
  | memory => "MEMORY"
  | small => "SMALL"
  | wide => "WIDE"

def all : List Width := [unsized, index, memory, small, wide]

def ofTag? (s : String) : Option Width := all.find? (·.tag == s)

/-- The width the finished table carries: `unsized` becomes `small`. -/
def normalized : Width → Width
  | unsized => small
  | w => w

end Width

end W65816
