import W65816.Listing.Row

set_option autoImplicit false

/-!
# Opcode coverage

A listing covers the opcodes when each of the 256 opcodes is carried by exactly one row.
`Coverage.slots` gives, for each opcode in increasing order, the position of its row. A
repeated opcode is reported at the first row whose opcode an earlier row already carries,
before any gap is looked for; otherwise every opcode no row carries is reported at once.
-/

namespace W65816

namespace Coverage

/-- The opcodes no row carries, in increasing order. -/
def uncovered (rows : List Row) : List Opcode :=
  (List.finRange 256).filter fun k => !rows.any (·.opcode == k)

/-- For each opcode in increasing order, the position of the one row that carries it. -/
def slots (rows : List Row) : Except Fault (List Nat) :=
  match firstRepeat Row.opcode [] rows with
  | some (prev, r) => .error (.listedTwice r.opcode prev.line prev.mnemonic r.line r.mnemonic)
  | none =>
    match uncovered rows with
    | [] => .ok ((List.finRange 256).map fun k => rows.findIdx (·.opcode == k))
    | gaps => .error (.missing gaps)

end Coverage

end W65816
