import Mathlib.Data.String.Basic
import W65816.Proofs.Render
import W65816.Proofs.Utf8
import W65816.Proofs.Positions
import W65816.Proofs.AmendmentTable

set_option autoImplicit false

/-!
# The vocabulary of a table

The generated types take their members from `Table.vocabulary`: the operations of the
descriptors, their widths together with `WIDE`, and their operand modes, each put in increasing
order without repeats by `sortedDistinct`. Strings compare character by character; UTF-8 keeps
the order of characters, and no character's bytes begin another's, so this is also the order
of the strings' bytes (`Text.lt_iff_utf8Bytes_lt`).

A table built under an accepted legend shows `manual` exactly at its amended opcodes and the
mode of a legend entry everywhere else (`Table.operand_of_assemble`). So `MANUAL` is a member
exactly when some amendment was given, and under the standard legend the two modes that only
amendments name are never members (`vocabulary_laws`).
-/

namespace W65816

open W65816.Text

/-! ## Sorting without repeats -/

theorem insertSorted_pairwise {s : String} {xs : List String} (sorted : xs.Pairwise (· < ·)) :
    (insertSorted s xs).Pairwise (· < ·) := by
  induction xs with
  | nil => simp [insertSorted]
  | cons x xs inductionHypothesis =>
    obtain ⟨belowRest, restSorted⟩ := List.pairwise_cons.mp sorted
    unfold insertSorted
    split_ifs with below same
    · refine List.pairwise_cons.mpr ⟨fun y member => ?_, sorted⟩
      rcases List.mem_cons.mp member with rfl | later
      · exact below
      · exact lt_trans below (belowRest y later)
    · exact sorted
    · have above : x < s := lt_of_le_of_ne (not_lt.mp below) (Ne.symm same)
      refine List.pairwise_cons.mpr ⟨fun y member => ?_, inductionHypothesis restSorted⟩
      rcases mem_insertSorted.mp member with rfl | later
      · exact above
      · exact belowRest y later

theorem sortedDistinct_pairwise (xs : List String) : (sortedDistinct xs).Pairwise (· < ·) := by
  induction xs with
  | nil => simp [sortedDistinct]
  | cons x xs inductionHypothesis =>
    simp only [sortedDistinct, List.foldr_cons] at inductionHypothesis ⊢
    exact insertSorted_pairwise inductionHypothesis

/-- The distinct strings of a list, increasing in the order of their bytes. -/
theorem sortedDistinct_increasing (xs : List String) :
    (sortedDistinct xs).Pairwise fun a b => utf8Bytes a < utf8Bytes b :=
  (sortedDistinct_pairwise xs).imp fun below => (lt_iff_utf8Bytes_lt _ _).mp below

/-! ## The members -/

theorem Width.tag_eq_none_iff (w : Width) : w.tag = "NONE" ↔ w = .unsized := by
  cases w <;> decide

theorem AddrMode.tag_eq_manual_iff (m : AddrMode) : m.tag = "MANUAL" ↔ m = .manual := by
  cases m <;> decide

namespace Table

/-- The vocabulary of a table: each list increases in byte order; its members are the operations
of the descriptors, their widths together with `WIDE`, and their operand modes. -/
theorem vocabulary_spec (t : Table) :
    t.vocabulary.operations.Pairwise (fun a b => utf8Bytes a < utf8Bytes b) ∧
    t.vocabulary.sizes.Pairwise (fun a b => utf8Bytes a < utf8Bytes b) ∧
    t.vocabulary.operands.Pairwise (fun a b => utf8Bytes a < utf8Bytes b) ∧
    (∀ x, x ∈ t.vocabulary.operations ↔ ∃ e ∈ t.entries, e.op = x) ∧
    (∀ x, x ∈ t.vocabulary.sizes ↔ x = "WIDE" ∨ ∃ e ∈ t.entries, e.width.tag = x) ∧
    (∀ x, x ∈ t.vocabulary.operands ↔ ∃ e ∈ t.entries, e.operand.tag = x) := by
  refine ⟨sortedDistinct_increasing _, sortedDistinct_increasing _, sortedDistinct_increasing _,
    fun x => ?_, fun x => ?_, fun x => ?_⟩ <;>
  simp [vocabulary, mem_sortedDistinct, eq_comm]

variable {entries : List LegendEntry} {phrasings : List (String × String)} {g : Legend}
  {rows : List Row} {am : AmendmentTable} {t : Table}

/-- In a table assembled from rows that carry positions of legend entries, an operand is
`manual` on a descriptor that an amendment made, and otherwise the mode of a legend entry. -/
theorem operand_of_assemble (read : ∀ r ∈ rows, r.mode < g.entries.length)
    (assembled : assemble g rows am = .ok t) {e : Descriptor} (member : e ∈ t.entries) :
    (e.operand = .manual ∧ ∃ a ∈ am.entries, a.opcode = e.opcode) ∨
      ∃ x ∈ g.entries, x.mode = e.operand := by
  obtain ⟨covers, rfl⟩ := eq_ofCovering_of_assemble_eq_ok assembled
  obtain ⟨k, -, rfl⟩ := List.mem_map.mp member
  cases amended : am.lookup k with
  | some a =>
    refine .inl ⟨rfl, a, List.mem_of_find?_eq_some amended, ?_⟩
    simpa using List.find?_some amended
  | none =>
    have row : rows.getD (Coverage.position rows k) default ∈ rows := by
      rw [List.getD_eq_getElem _ _ (covers.position_lt k)]
      exact List.getElem_mem _
    refine .inr ⟨g.entry (rows.getD (Coverage.position rows k) default).mode, ?_, rfl⟩
    rw [Legend.entry_eq_getElem (read _ row)]
    exact List.getElem_mem _

/-- An assembled table shows `manual` as the operand of every amended opcode. -/
theorem manual_of_amended (assembled : assemble g rows am = .ok t) {a : Amendment}
    (amendment : a ∈ am.entries) : ∃ e ∈ t.entries, e.operand = .manual := by
  obtain ⟨b, found⟩ : ∃ b, am.lookup a.opcode = some b :=
    Option.isSome_iff_exists.mp ((AmendmentTable.lookup_isSome_iff _).mpr (List.mem_map_of_mem amendment))
  have listed : t.get a.opcode ∈ t.entries := by
    rw [entries_of_assemble assembled]
    exact List.mem_ofFn.mpr ⟨a.opcode, rfl⟩
  obtain ⟨-, rfl⟩ := eq_ofCovering_of_assemble_eq_ok assembled
  refine ⟨_, listed, ?_⟩
  rw [ofCovering_get, found]
  rfl

/-- A table built under a legend that `build` accepts has no width `NONE`, has `MANUAL` among
its operands exactly when some amendment was given, and names no other operand than the mode of
a legend entry. -/
theorem vocabulary_of_buildTable {lines : List String} {es : List Amendment}
    (tabled : buildTable (Legend.build entries phrasings) lines es = .ok t) :
    "NONE" ∉ t.vocabulary.sizes ∧ ("MANUAL" ∈ t.vocabulary.operands ↔ es ≠ []) ∧
      ∀ x ∈ t.vocabulary.operands, x ≠ "MANUAL" → ∃ e ∈ entries, e.mode.tag = x := by
  obtain ⟨-, -, -, -, widths, modes⟩ := t.vocabulary_spec
  obtain ⟨g, rows, am, accepted, parsed, amended, assembled⟩ := buildTable_eq_ok tabled
  have legendEntries := Legend.entries_of_build accepted
  subst legendEntries
  obtain ⟨-, held⟩ := (AmendmentTable.build_eq_ok_iff es am).mp amended
  have read := Listing.parse_mode_lt parsed
  refine ⟨fun listed => ?_, ⟨fun listed => ?_, fun given => ?_⟩, fun x listed other => ?_⟩
  · rcases (widths _).mp listed with wide | ⟨e, member, named⟩
    · exact absurd wide (by decide)
    · obtain ⟨k, r, rfl⟩ := mem_ofCovering (by
        rwa [(eq_ofCovering_of_assemble_eq_ok assembled).2] at member)
      exact Descriptor.ofRow_width_ne_unsized _ k r _ ((Width.tag_eq_none_iff _).mp named)
  · obtain ⟨e, member, named⟩ := (modes _).mp listed
    rcases operand_of_assemble read assembled member with ⟨-, a, amendment, -⟩ | ⟨x, entry, same⟩
    · rw [← held]
      exact List.ne_nil_of_mem amendment
    · exact absurd (same.trans ((AddrMode.tag_eq_manual_iff _).mp named))
        (g.consistent.notManual x entry)
  · obtain ⟨a, amendment⟩ := List.exists_mem_of_ne_nil es given
    obtain ⟨e, member, manual⟩ := manual_of_amended assembled (held ▸ amendment)
    exact (modes _).mpr ⟨e, member, by rw [manual]; rfl⟩
  · obtain ⟨e, member, named⟩ := (modes _).mp listed
    rcases operand_of_assemble read assembled member with ⟨manual, -⟩ | ⟨y, entry, same⟩
    · rw [manual] at named
      exact absurd named.symm other
    · exact ⟨y, entry, by rw [same, named]⟩

end Table

/-- No entry of the standard legend has a mode that only amendments name. -/
theorem Legend.datasheet_modes :
    Legend.datasheet.all (fun e => e.mode.tag != "ACCUMULATOR" && e.mode.tag != "ABSOLUTE_INDIRECT_LONG") =
      true := by
  decide

/-- The vocabulary of every table lists each kind of member once, in increasing byte order: the
operations of its descriptors, their widths together with `WIDE`, and their operand modes. In a
table built under a legend that `build` accepts, from any listing and amendments, no width is
`NONE`, `MANUAL` is a member exactly when some amendment was given, and every other operand is
the mode of a legend entry. So under the standard legend neither the accumulator nor the
absolute indirect long mode is ever a member, whatever the listing and amendments. -/
theorem vocabulary_laws (t : Table) :
    t.vocabulary.operations.Pairwise (fun a b => utf8Bytes a < utf8Bytes b) ∧
    t.vocabulary.sizes.Pairwise (fun a b => utf8Bytes a < utf8Bytes b) ∧
    t.vocabulary.operands.Pairwise (fun a b => utf8Bytes a < utf8Bytes b) ∧
    (∀ x, x ∈ t.vocabulary.operations ↔ ∃ e ∈ t.entries, e.op = x) ∧
    (∀ x, x ∈ t.vocabulary.sizes ↔ x = "WIDE" ∨ ∃ e ∈ t.entries, e.width.tag = x) ∧
    (∀ x, x ∈ t.vocabulary.operands ↔ ∃ e ∈ t.entries, e.operand.tag = x) ∧
    (∀ entries phrasings lines es, buildTable (Legend.build entries phrasings) lines es = .ok t →
      "NONE" ∉ t.vocabulary.sizes ∧
      ("MANUAL" ∈ t.vocabulary.operands ↔ es ≠ []) ∧
      ∀ x ∈ t.vocabulary.operands, x ≠ "MANUAL" → ∃ e ∈ entries, e.mode.tag = x) ∧
    (∀ lines es, buildTable Legend.standard lines es = .ok t →
      "ACCUMULATOR" ∉ t.vocabulary.operands ∧ "ABSOLUTE_INDIRECT_LONG" ∉ t.vocabulary.operands) := by
  obtain ⟨operations, sizes, operands, ops, widths, modes⟩ := t.vocabulary_spec
  refine ⟨operations, sizes, operands, ops, widths, modes,
    fun _ _ _ _ tabled => Table.vocabulary_of_buildTable tabled, fun lines es tabled => ?_⟩
  obtain ⟨-, -, legendModes⟩ := Table.vocabulary_of_buildTable tabled
  have absent := List.all_eq_true.mp Legend.datasheet_modes
  constructor
  · intro listed
    obtain ⟨e, entry, named⟩ := legendModes _ listed (by decide)
    simpa [named] using absent e entry
  · intro listed
    obtain ⟨e, entry, named⟩ := legendModes _ listed (by decide)
    simpa [named] using absent e entry

/-- The listing of immediate `LDA` lines under the standard legend and amendments gives a table
of which the laws above hold. -/
theorem vocabulary_laws_immediate_listing :
    ∃ t, buildTable Legend.standard (linesOf immediateListing) Amendment.standard = .ok t ∧
    t.vocabulary.operations.Pairwise (fun a b => utf8Bytes a < utf8Bytes b) ∧
    t.vocabulary.sizes.Pairwise (fun a b => utf8Bytes a < utf8Bytes b) ∧
    t.vocabulary.operands.Pairwise (fun a b => utf8Bytes a < utf8Bytes b) ∧
    (∀ x, x ∈ t.vocabulary.operations ↔ ∃ e ∈ t.entries, e.op = x) ∧
    (∀ x, x ∈ t.vocabulary.sizes ↔ x = "WIDE" ∨ ∃ e ∈ t.entries, e.width.tag = x) ∧
    (∀ x, x ∈ t.vocabulary.operands ↔ ∃ e ∈ t.entries, e.operand.tag = x) ∧
    (∀ entries phrasings lines es, buildTable (Legend.build entries phrasings) lines es = .ok t →
      "NONE" ∉ t.vocabulary.sizes ∧
      ("MANUAL" ∈ t.vocabulary.operands ↔ es ≠ []) ∧
      ∀ x ∈ t.vocabulary.operands, x ≠ "MANUAL" → ∃ e ∈ entries, e.mode.tag = x) ∧
    (∀ lines es, buildTable Legend.standard lines es = .ok t →
      "ACCUMULATOR" ∉ t.vocabulary.operands ∧ "ABSOLUTE_INDIRECT_LONG" ∉ t.vocabulary.operands) := by
  obtain ⟨g, standard, -⟩ := standard_legend_builds
  obtain ⟨t, tabled⟩ := immediateListing_builds standard
  refine ⟨t, by rw [standard]; exact tabled, vocabulary_laws t⟩

end W65816
