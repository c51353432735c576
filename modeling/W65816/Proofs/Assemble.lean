import W65816.Proofs.Coverage
import W65816.Descriptor

set_option autoImplicit false

/-!
# The assembled table

`Table.assemble` succeeds exactly when the listing covers the opcodes, and fails with the
coverage fault otherwise. A covering listing gives one descriptor per opcode in opcode order,
taken from the one row that carries the opcode, with the opcode's amendment winning over the
row. So the table does not depend on the order of the rows, no descriptor is left without a
width, the load flag always follows the operation and the operand, and the number of amended
descriptors is the number of amendments.
-/

namespace W65816

theorem readsOperand_manual (op : String) : readsOperand op .manual = false := by
  unfold readsOperand
  split_ifs <;> simp

theorem Width.normalized_ne_unsized (w : Width) : w.normalized ≠ .unsized := by
  cases w <;> simp [Width.normalized]

namespace Descriptor

/-- What the table promises about the descriptor `e` of the opcode of row `r`, when `o` is the
amendment of that opcode: the amendment gives operation and width and leaves the operand to
be read by hand; without one, the row gives everything. -/
def Describes (legend : Legend) (r : Row) (o : Option Amendment) (e : Descriptor) : Prop :=
  e.opcode = r.opcode ∧ e.mnemonic = r.mnemonic ∧
    match o with
    | some a =>
      e.op = a.op ∧ e.width = a.width.normalized ∧ e.operand = .manual ∧ e.altName = "" ∧
        e.amended = some a.mode ∧ e.load = false
    | none =>
      e.op = r.mnemonic ∧ e.width = .small ∧ e.operand = (legend.entry r.mode).mode ∧
        e.altName = r.altName ∧ e.amended = none ∧
        e.load = readsOperand r.mnemonic (legend.entry r.mode).mode

variable (legend : Legend) (k : Opcode) (r : Row)

@[simp]
theorem ofRow_opcode (o : Option Amendment) : (ofRow legend k r o).opcode = k := by
  cases o <;> rfl

theorem ofRow_amended (o : Option Amendment) :
    (ofRow legend k r o).amended = o.map (·.mode) := by
  cases o <;> rfl

theorem ofRow_describes (o : Option Amendment) : (ofRow legend r.opcode r o).Describes legend r o := by
  cases o with
  | none => simp [Describes, ofRow]
  | some a => simp [Describes, ofRow, readsOperand_manual]

theorem ofRow_width_ne_unsized (o : Option Amendment) : (ofRow legend k r o).width ≠ .unsized := by
  cases o with
  | none => simp [ofRow]
  | some a => exact Width.normalized_ne_unsized a.width

theorem ofRow_load (o : Option Amendment) :
    (ofRow legend k r o).load = readsOperand (ofRow legend k r o).op (ofRow legend k r o).operand := by
  cases o <;> rfl

end Descriptor

namespace Table

variable (legend : Legend) (rows : List Row) (am : AmendmentTable)

/-- The table of a covering listing: each opcode described from the row its slot points at. -/
def ofCovering : Table :=
  ⟨(List.finRange 256).map fun k =>
    Descriptor.ofRow legend k (rows.getD (Coverage.position rows k) default) (am.lookup k)⟩

theorem rowsByOpcode_slots :
    rowsByOpcode rows ((List.finRange 256).map (Coverage.position rows)) =
      (List.finRange 256).map fun k => (k, rows.getD (Coverage.position rows k) default) := by
  simp [rowsByOpcode, List.getD_eq_getElem?_getD]

theorem assemble_eq_error_iff (f : Fault) :
    assemble legend rows am = .error f ↔ Coverage.slots rows = .error f := by
  unfold assemble
  cases Coverage.slots rows <;> simp [bind, Except.bind, pure, Except.pure]

theorem assemble_of_coversOnce {rows : List Row} (covers : CoversOnce rows) :
    assemble legend rows am = .ok (ofCovering legend rows am) := by
  simp [assemble, Coverage.slots_of_coversOnce covers, rowsByOpcode_slots, bind, Except.bind,
    pure, Except.pure, ofCovering]

theorem assemble_isOk_iff : (∃ t, assemble legend rows am = .ok t) ↔ CoversOnce rows := by
  constructor
  · rintro ⟨t, built⟩
    cases slotted : Coverage.slots rows with
    | error f => simp [(assemble_eq_error_iff legend rows am f).mpr slotted] at built
    | ok s => exact Coverage.coversOnce_of_slots_eq_ok slotted
  · intro covers
    exact ⟨_, assemble_of_coversOnce legend am covers⟩

variable {legend rows am}

theorem eq_ofCovering_of_assemble_eq_ok {t : Table} (built : assemble legend rows am = .ok t) :
    CoversOnce rows ∧ t = ofCovering legend rows am := by
  have covers := (assemble_isOk_iff legend rows am).mp ⟨t, built⟩
  rw [assemble_of_coversOnce legend am covers, Except.ok.injEq] at built
  exact ⟨covers, built.symm⟩

theorem ofCovering_length : (ofCovering legend rows am).entries.length = 256 := by
  simp [ofCovering]

theorem ofCovering_get (k : Opcode) :
    (ofCovering legend rows am).get k =
      Descriptor.ofRow legend k (rows.getD (Coverage.position rows k) default) (am.lookup k) := by
  simp [ofCovering]

theorem ofCovering_get_row (covers : CoversOnce rows) {r : Row} (member : r ∈ rows) :
    (ofCovering legend rows am).get r.opcode = Descriptor.ofRow legend r.opcode r (am.lookup r.opcode) := by
  rw [ofCovering_get, covers.getD_position member r.opcode rfl]

theorem mem_ofCovering {e : Descriptor} (member : e ∈ (ofCovering legend rows am).entries) :
    ∃ k r, e = Descriptor.ofRow legend k r (am.lookup k) := by
  obtain ⟨k, -, rfl⟩ := List.mem_map.mp member
  exact ⟨k, _, rfl⟩

theorem ofCovering_perm (covers : CoversOnce rows) {rows' : List Row} (reordered : rows'.Perm rows) :
    ofCovering legend rows' am = ofCovering legend rows am := by
  simp only [ofCovering, covers.getD_position_perm reordered]

theorem ofCovering_amendedCount : (ofCovering legend rows am).amendedCount = am.size := by
  rw [← AmendmentTable.length_filter_lookup_isSome]
  simp [amendedCount, ofCovering, List.filter_map, Function.comp_def, Descriptor.ofRow_amended]

/-- The assembled table fails exactly as the coverage check does, and otherwise has one
descriptor per opcode, each taken from the opcode's one row with its amendment winning; it
is the same for every order of the rows, and has as many amended descriptors as amendments.
Every amendment table is one that `build` accepted (`AmendmentTable.build_entries`). -/
theorem assemble_describes_each_opcode (legend : Legend) (rows : List Row) (ov : AmendmentTable) :
    (∀ f, assemble legend rows ov = .error f ↔ Coverage.slots rows = .error f) ∧
    ((∃ t, assemble legend rows ov = .ok t) ↔ CoversOnce rows) ∧
    ∀ t, assemble legend rows ov = .ok t →
      t.entries.length = 256 ∧ (∀ k : Opcode, (t.get k).opcode = k) ∧
      (∀ r ∈ rows, (t.get r.opcode).Describes legend r (ov.lookup r.opcode)) ∧
      (∀ e ∈ t.entries, e.width ≠ .unsized ∧ e.load = readsOperand e.op e.operand) ∧
      (∀ rows', rows'.Perm rows → assemble legend rows' ov = .ok t) ∧
      t.amendedCount = ov.size := by
  refine ⟨assemble_eq_error_iff legend rows _, assemble_isOk_iff legend rows _, ?_⟩
  intro t assembled
  obtain ⟨covers, rfl⟩ := eq_ofCovering_of_assemble_eq_ok assembled
  refine ⟨ofCovering_length, fun k => by simp [ofCovering_get], ?_, ?_, ?_,
    ofCovering_amendedCount⟩
  · intro r member
    rw [ofCovering_get_row covers member]
    exact Descriptor.ofRow_describes legend r _
  · intro e member
    obtain ⟨k, r, rfl⟩ := mem_ofCovering member
    exact ⟨Descriptor.ofRow_width_ne_unsized legend k r _, Descriptor.ofRow_load legend k r _⟩
  · intro rows' reordered
    rw [assemble_of_coversOnce legend _ (covers.perm reordered), ofCovering_perm covers reordered]

end Table

end W65816
