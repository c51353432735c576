import W65816.Proofs.Row
import W65816.Proofs.Legend
import W65816.Proofs.Assemble
import W65816.Proofs.Listing

set_option autoImplicit false

/-!
# The modes of parsed rows

A row read under a legend that `build` accepted carries the position of a legend entry: the
entry of the immediate mode its mnemonic calls for, or the entry its description resolves to
(`Row.mode_lt`). The descriptor of an opcode that no amendment covers shows that entry's mode,
and since the modes of the legend are distinct, looking that mode up gives the row's position
back; so the operand of the table and the description of the listing name the same entry
(`unamended_descriptor_recovers_row`).
-/

namespace W65816

open W65816.Text

variable {entries : List LegendEntry} {phrasings : List (String × String)} {g : Legend}

/-- A row carries the position of one of the entries of the legend it was read under. -/
theorem Row.mode_lt {n : Nat} {s : String} {r : Row} (read : Row.parse g n s = .ok r) :
    r.mode < g.entries.length := by
  rcases modeOfRow_eq_ok (Row.parse_eq_ok read).2 with ⟨-, x, -, found⟩ | ⟨-, resolved⟩
  · exact (Legend.indexOf_eq_some found).1
  · exact Legend.resolve_lt resolved

/-- The descriptor of an opcode that no amendment covers, in the table of a listing read under an
accepted legend, takes operation, alias and width from the opcode's row, and shows the mode of
the row's legend entry: the immediate mode the mnemonic calls for when the description is the
word `immediate`, and otherwise the mode of the entry the description resolves to. -/
theorem unamended_descriptor_recovers_row (entries : List LegendEntry)
    (phrasings : List (String × String)) (g : Legend) (_built : Legend.build entries phrasings = .ok g)
    (lines : List String) (rows : List Row) (parsed : Listing.parse g lines = .ok rows)
    (am : AmendmentTable) (t : Table) (assembled : Table.assemble g rows am = .ok t)
    (r : Row) (member : r ∈ rows) (unamended : am.lookup r.opcode = none) :
    (t.get r.opcode).op = r.mnemonic ∧ (t.get r.opcode).altName = r.altName ∧
    (t.get r.opcode).width = .small ∧ g.indexOf (t.get r.opcode).operand = some r.mode ∧
    (isImmediateWord r.description = true →
      immediateMode r.mnemonic = some (t.get r.opcode).operand) ∧
    (isImmediateWord r.description = false → g.resolve r.description = .ok r.mode) := by
  obtain ⟨n, s, read⟩ := Listing.parse_rows_read parsed r member
  have bound := Row.mode_lt read
  have chosen := modeOfRow_eq_ok (Row.parse_eq_ok read).2
  obtain ⟨covers, rfl⟩ := Table.eq_ofCovering_of_assemble_eq_ok assembled
  have described : (Table.ofCovering g rows am).get r.opcode = Descriptor.ofRow g r.opcode r none := by
    rw [Table.ofCovering_get_row covers member, unamended]
  simp only [described, Descriptor.ofRow, true_and]
  refine ⟨Legend.indexOf_entry_mode bound, fun immediate => ?_, fun notImmediate => ?_⟩
  · rcases chosen with ⟨-, x, selected, found⟩ | ⟨plain, -⟩
    · rw [selected, (Legend.indexOf_eq_some found).2]
    · rw [immediate] at plain
      cases plain
  · rcases chosen with ⟨word, -⟩ | ⟨-, resolved⟩
    · rw [notImmediate] at word
      cases word
    · exact resolved

/-- The line giving opcode `00` to `LDA` with the listing's wording `direct page`. -/
def directPageLine : String := "LDA\t\t\t00\tdirect page"

/-- Under the standard legend the line reads through the phrasing `direct page`, which points
at the entry of direct-page addressing. -/
theorem parse_directPageLine {g : Legend} (built : Legend.standard = .ok g) (n : Nat) :
    Row.parse g n directPageLine =
      .ok ⟨n, trim "00", Opcode.ofByte 0, "LDA", trim "", "direct page", 7⟩ := by
  have enough : 5 ≤ (fieldsOf directPageLine).length := by decide
  have mnemonic : mnemonicOf (rowField directPageLine 0) = some "LDA" := by decide
  have opcode : opcodeOf (rowField directPageLine 3) = some (Opcode.ofByte 0) := by decide
  have described : trim (rowField directPageLine 4) = "direct page" := by decide
  have plain : isImmediateWord "direct page" = false := by decide
  have resolved : g.resolve "direct page" = .ok 7 := by
    refine (Legend.resolve_eq_ok_iff _ _).mpr (.inr ?_)
    rw [Legend.phrasings_of_build built]
    have located : Legend.target Legend.datasheet "d" = 7 := by decide
    exact List.mem_map.mpr ⟨("direct page", "d"), by decide, by rw [located]⟩
  have moded : modeOfRow g n directPageLine "LDA" (Opcode.ofByte 0) "direct page" = .ok 7 := by
    simp [modeOfRow, plain, resolved]
  rw [Row.parse_of_syntax g n directPageLine enough mnemonic opcode, described, moded]
  rfl

/-- A listing whose first row is described by a phrasing of the standard legend, read under that
legend and assembled with the standard amendments, which leave the row's opcode alone: the
descriptor of its opcode recovers the row as the theorem says. -/
theorem unamended_descriptor_recovers_row_direct_page :
    ∃ g rows t r, Legend.build Legend.datasheet Legend.listingWordings = .ok g ∧
      Listing.parse g (directPageLine :: (List.finRange 256).tail.map immediateLine) = .ok rows ∧
      Table.assemble g rows AmendmentTable.standard = .ok t ∧ r ∈ rows ∧
      r.description = "direct page" ∧ isImmediateWord r.description = false ∧
      AmendmentTable.standard.lookup r.opcode = none ∧
      (t.get r.opcode).op = r.mnemonic ∧ (t.get r.opcode).altName = r.altName ∧
      (t.get r.opcode).width = .small ∧ g.indexOf (t.get r.opcode).operand = some r.mode ∧
      (isImmediateWord r.description = true →
        immediateMode r.mnemonic = some (t.get r.opcode).operand) ∧
      (isImmediateWord r.description = false → g.resolve r.description = .ok r.mode) := by
  obtain ⟨g, built, immediate⟩ := standard_legend_builds
  obtain ⟨rows, scanned, opcodes⟩ := scanFrom_immediateLines immediate (List.finRange 256).tail 2
  have stripped : stripLineEnd directPageLine = directPageLine := by decide
  have kept : isSkipped directPageLine = false := by decide
  have parsed : Listing.parse g (directPageLine :: (List.finRange 256).tail.map immediateLine) =
      .ok (⟨1, trim "00", Opcode.ofByte 0, "LDA", trim "", "direct page", 7⟩ :: rows) := by
    simp only [Listing.parse, Listing.scan, Listing.scanFrom, stripped, kept, Bool.false_eq_true,
      ↓reduceIte, parse_directPageLine built, scanned]
  have covers : CoversOnce
      (⟨1, trim "00", Opcode.ofByte 0, "LDA", trim "", "direct page", 7⟩ :: rows) := by
    refine CoversOnce.of_opcodes_eq_finRange ?_
    rw [List.map_cons, opcodes, List.finRange_succ]
    rfl
  obtain ⟨t, assembled⟩ := (Table.assemble_isOk_iff g _ AmendmentTable.standard).mpr covers
  have unamended : AmendmentTable.standard.lookup (Opcode.ofByte 0) = none := by decide +kernel
  exact ⟨g, _, t, _, built, parsed, assembled, List.mem_cons_self, rfl, by decide, unamended,
    unamended_descriptor_recovers_row _ _ g built _ _ parsed _ t assembled _ List.mem_cons_self
      unamended⟩

end W65816
