import W65816.Fault

set_option autoImplicit false

/-!
# Amendments

Hand-kept classifications of single opcodes. The listing cannot tell accumulator shifts from
memory shifts, gives branches no operand width and does not mark the index-register
instructions as index-sized; an amendment states the operation, mode and width of its opcode
outright, and the finished table takes it as given.

`AmendmentTable.build` accepts amendments whose opcodes are pairwise distinct, and otherwise
names the first amendment whose opcode an earlier one already has, together with that earlier
one.
-/

namespace W65816

/-- The hand-kept classification of one opcode. -/
structure Amendment where
  opcode : Opcode
  op : String
  mode : AddrMode
  width : Width
  deriving DecidableEq, Repr, Inhabited

/-- Amendments with pairwise distinct opcodes, in the order given. -/
structure AmendmentTable where
  entries : List Amendment
  distinct : (entries.map (·.opcode)).Nodup

namespace AmendmentTable

/-- The table of `es`, if no two share an opcode. -/
def build (es : List Amendment) : Except Fault AmendmentTable :=
  match found : firstRepeat Amendment.opcode [] es with
  | some (prev, e) => .error (.duplicateAmendment e.opcode prev.op prev.mode e.op e.mode)
  | none => .ok ⟨es, (firstRepeat_nil_eq_none_iff _ es).mp found⟩

def lookup (t : AmendmentTable) (k : Opcode) : Option Amendment :=
  t.entries.find? (·.opcode == k)

def size (t : AmendmentTable) : Nat := t.entries.length

end AmendmentTable

end W65816
