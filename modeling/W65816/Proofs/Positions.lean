import W65816.Proofs.RowModes

set_option autoImplicit false

/-!
# Positions in range

A build reads by position: the legend entry of a row's mode, for the row's descriptor and for
its trace under `-v`; the row that each opcode's slot points at; and the descriptor of an
opcode in the finished table. `getD` stands ready with a default for a position out of range.
The default is never taken (`build_reads_in_range`): in every legend, all of them accepted by
`build`, `resolve` and `indexOf` give positions of entries, so every row read under the legend
carries one, whether or not a later row fails; the slots of a covering listing point at its
rows; and a table that is built has a descriptor for every opcode.
-/

namespace W65816

variable {entries : List LegendEntry} {phrasings : List (String × String)} {g : Legend}

/-- The rows a scan reads, up to its first faulty row, carry the positions of entries. -/
theorem Listing.scanFrom_mode_lt (lines : List String) (n : Nat) :
    ∀ r ∈ (Listing.scanFrom g n lines).1, r.mode < g.entries.length := by
  intro r member
  obtain ⟨m, s, read⟩ := Listing.scanFrom_rows_read g lines n r member
  exact Row.mode_lt read

theorem Listing.parse_mode_lt {lines : List String} {rows : List Row}
    (parsed : Listing.parse g lines = .ok rows) : ∀ r ∈ rows, r.mode < g.entries.length := by
  intro r member
  obtain ⟨m, s, read⟩ := Listing.parse_rows_read parsed r member
  exact Row.mode_lt read

/-- The slots of a covering listing, one per opcode, point at its rows. -/
theorem Coverage.slots_lt {rows : List Row} {s : List Nat} (slotted : Coverage.slots rows = .ok s) :
    s.length = 256 ∧ ∀ j ∈ s, j < rows.length := by
  have covers := Coverage.coversOnce_of_slots_eq_ok slotted
  rw [Coverage.slots_of_coversOnce covers, Except.ok.injEq] at slotted
  subst slotted
  refine ⟨by simp, fun j member => ?_⟩
  obtain ⟨k, -, rfl⟩ := List.mem_map.mp member
  exact covers.position_lt k

theorem Table.assemble_length {rows : List Row} {am : AmendmentTable} {t : Table}
    (assembled : Table.assemble g rows am = .ok t) : t.entries.length = 256 := by
  obtain ⟨-, rfl⟩ := Table.eq_ofCovering_of_assemble_eq_ok assembled
  exact Table.ofCovering_length

/-- Under a legend that `build` accepted, every position a build reads is in range. A
description resolves, if at all, to the position of an entry, and `indexOf` finds the position
of an entry with the mode looked for; so every row the listing yields, before any faulty row,
carries the position of an entry, which its trace and its descriptor read. The slots of a
covering listing point at rows, one slot per opcode, and a built table has a descriptor for
each of the 256 opcodes. -/
theorem build_reads_in_range (entries : List LegendEntry) (phrasings : List (String × String))
    (g : Legend) (built : Legend.build entries phrasings = .ok g) :
    (∀ d i, g.resolve d = .ok i → i < entries.length) ∧
    (∀ m i, g.indexOf m = some i → i < entries.length ∧ (g.entry i).mode = m) ∧
    (∀ lines, ∀ r ∈ (Listing.scan g lines).1, r.mode < entries.length) ∧
    (∀ lines rows, Listing.parse g lines = .ok rows → ∀ r ∈ rows, r.mode < entries.length) ∧
    (∀ rows s, Coverage.slots rows = .ok s → s.length = 256 ∧ ∀ j ∈ s, j < rows.length) ∧
    (∀ lines es t, buildTable (.ok g) lines es = .ok t → t.entries.length = 256) := by
  rw [← Legend.entries_of_build built]
  refine ⟨fun d i resolved => Legend.resolve_lt resolved,
    fun m i found => Legend.indexOf_eq_some found,
    fun lines => Listing.scanFrom_mode_lt lines 1,
    fun lines rows parsed => Listing.parse_mode_lt parsed,
    fun rows s slotted => Coverage.slots_lt slotted, fun lines es t tabled => ?_⟩
  obtain ⟨g', rows, am, same, -, -, assembled⟩ := buildTable_eq_ok tabled
  cases same
  exact Table.assemble_length assembled

/-- The standard legend: the laws above hold of it. -/
theorem build_reads_in_range_standard_legend :
    ∃ g, Legend.build Legend.datasheet Legend.listingWordings = .ok g ∧
      (∀ d i, g.resolve d = .ok i → i < Legend.datasheet.length) ∧
      (∀ m i, g.indexOf m = some i → i < Legend.datasheet.length ∧ (g.entry i).mode = m) ∧
      (∀ lines, ∀ r ∈ (Listing.scan g lines).1, r.mode < Legend.datasheet.length) ∧
      (∀ lines rows, Listing.parse g lines = .ok rows →
        ∀ r ∈ rows, r.mode < Legend.datasheet.length) ∧
      (∀ rows s, Coverage.slots rows = .ok s → s.length = 256 ∧ ∀ j ∈ s, j < rows.length) ∧
      (∀ lines es t, buildTable (.ok g) lines es = .ok t → t.entries.length = 256) := by
  obtain ⟨g, built, -⟩ := standard_legend_builds
  exact ⟨g, built, build_reads_in_range _ _ g built⟩

end W65816
