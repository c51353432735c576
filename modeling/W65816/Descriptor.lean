import W65816.Coverage
import W65816.Amendment
import W65816.Text.Layout

set_option autoImplicit false

/-!
# Opcode descriptors

The finished description of one opcode: its operation, the mnemonic an assembler writes, the
operand width, the operand mode, whether the operand is read, and the listing's alias. An
amended opcode takes operation and width from its amendment, has mode `manual`, reads no
operand and has no alias; the mode the amendment states is kept beside it.

`Descriptor.line` is the one-line form that listings of the table print.
-/

namespace W65816

open W65816.Text

/-- Whether executing `op` in `mode` reads the addressed operand first. Jumps, calls, pure
stores and branches (`BIT` is no branch) do not, and neither does an instruction without a
memory operand. -/
def readsOperand (op : String) (mode : AddrMode) : Bool :=
  if op ∈ ["JSR", "JSL", "JMP", "JML", "STA", "STZ", "STX", "STY"] then false
  else if op.startsWith "B" && op != "BIT" then false
  else !(mode == .accumulator || mode.isImmediate || mode == .manual)

/-- The finished description of one opcode: its operation (the name of its member in the
generated operation type), the mnemonic as the listing writes it, whether the operand is read
before the instruction acts, and the mode an amendment stated, for an amended opcode. -/
structure Descriptor where
  opcode : Opcode
  op : String
  mnemonic : String
  width : Width
  operand : AddrMode
  load : Bool
  altName : String
  amended : Option AddrMode
  deriving DecidableEq, Repr, Inhabited

namespace Descriptor

/-- The descriptor of an opcode from its listing row, or from its amendment if it has one. -/
def ofRow (legend : Legend) (k : Opcode) (r : Row) : Option Amendment → Descriptor
  | some a =>
    { opcode := k, op := a.op, mnemonic := r.mnemonic, width := a.width.normalized,
      operand := .manual, load := readsOperand a.op .manual, altName := "", amended := some a.mode }
  | none =>
    let mode := (legend.entry r.mode).mode
    { opcode := k, op := r.mnemonic, mnemonic := r.mnemonic, width := .small,
      operand := mode, load := readsOperand r.mnemonic mode, altName := r.altName, amended := none }

def line (e : Descriptor) : String :=
  hexByte e.opcode.val ++ " " ++ padRight 4 e.op ++ " " ++ padRight 6 e.width.tag ++ " " ++
    padRight 35 e.operand.tag ++ " " ++ padRight 5 (toString e.load) ++
    (match e.amended with
      | some m => " override:" ++ m.tag
      | none => "") ++
    (if e.altName.isEmpty then "" else " alias:" ++ e.altName)

end Descriptor

/-- The finished table: one descriptor per opcode, in opcode order. -/
structure Table where
  entries : List Descriptor
  deriving Repr

/-- The member names of the three generated types, each in increasing byte order without
repeats. -/
structure Vocabulary where
  operations : List String
  sizes : List String
  operands : List String
  deriving DecidableEq, Repr

/-- `s` put into an increasing list, unless it is there already. -/
def insertSorted (s : String) : List String → List String
  | [] => [s]
  | x :: xs => if s < x then s :: x :: xs else if s = x then x :: xs else x :: insertSorted s xs

def sortedDistinct (xs : List String) : List String := xs.foldr insertSorted []

namespace Table

/-- The row each opcode takes, in opcode order, once the rows cover the opcodes. -/
def rowsByOpcode (rows : List Row) (slots : List Nat) : List (Opcode × Row) :=
  (List.finRange 256).map fun k => (k, rows.getD (slots.getD k.val 0) default)

/-- The table of a covering listing with its amendments. -/
def assemble (legend : Legend) (rows : List Row) (amendments : AmendmentTable) :
    Except Fault Table := do
  let slots ← Coverage.slots rows
  pure ⟨(rowsByOpcode rows slots).map fun (k, r) =>
    Descriptor.ofRow legend k r (amendments.lookup k)⟩

/-- The notes on amendments whose operation is not the listing's mnemonic, in opcode order. -/
def mismatches (rows : List Row) (amendments : AmendmentTable) : List String :=
  match Coverage.slots rows with
  | .error _ => []
  | .ok slots =>
    (rowsByOpcode rows slots).filterMap fun (k, r) =>
      match amendments.lookup k with
      | some a =>
        if a.op != r.mnemonic then
          some ("override for " ++ hexByte k.val ++ " says " ++ a.op ++ " but line " ++
            toString r.line ++ " lists " ++ r.mnemonic)
        else none
      | none => none

def get (t : Table) (k : Opcode) : Descriptor := t.entries.getD k.val default

@[simp]
theorem get_eq_getElem {t : Table} {k : Opcode} (bound : k.val < t.entries.length) :
    t.get k = t.entries[k.val] := by
  simp [get, bound]

def amendedCount (t : Table) : Nat := (t.entries.filter (·.amended.isSome)).length

/-- The member names of the generated types: operations, widths (always with `WIDE`) and
operand modes. -/
def vocabulary (t : Table) : Vocabulary where
  operations := sortedDistinct (t.entries.map (·.op))
  sizes := sortedDistinct ("WIDE" :: t.entries.map (·.width.tag))
  operands := sortedDistinct (t.entries.map (·.operand.tag))

end Table

end W65816
