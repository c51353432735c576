import W65816.Proofs.Coverage

set_option autoImplicit false

/-!
# The amendment table

`AmendmentTable.build` keeps the amendments in the order given, and `lookup` answers with the
first amendment of an opcode. The table is built exactly when the opcodes are pairwise
distinct. Then `lookup` finds, for each opcode, the one amendment that has it, and nothing for
any other opcode, and the size is both the number of amendments and the number of opcodes that
have one. So a reordering of the amendments gives a table that answers every question alike
(`amendment_table_laws`). A repeated opcode is reported at the first amendment whose opcode an
earlier one has, with that earlier one named first.
-/

namespace W65816

namespace AmendmentTable

variable {es : List Amendment} {t : AmendmentTable}

theorem lookup_eq_none_iff {k : Opcode} : t.lookup k = none ↔ ∀ a ∈ t.entries, a.opcode ≠ k := by
  simp [lookup, List.find?_eq_none]

/-- Tables of the same amendments in two orders look every opcode up alike. -/
theorem lookup_perm {t' : AmendmentTable} (reordered : t'.entries.Perm t.entries) (k : Opcode) :
    t'.lookup k = t.lookup k := by
  cases found : t.lookup k with
  | some a =>
      obtain ⟨member, keyed⟩ := lookup_eq_some_iff.mp found
      exact lookup_eq_some_iff.mpr ⟨reordered.mem_iff.mpr member, keyed⟩
  | none =>
      rw [lookup_eq_none_iff] at found ⊢
      exact fun a member => found a (reordered.mem_iff.mp member)

theorem build_of_firstRepeat {p e : Amendment}
    (found : firstRepeat Amendment.opcode [] es = some (p, e)) :
    build es = .error (.duplicateAmendment e.opcode p.op p.mode e.op e.mode) := by
  unfold build
  split
  next p' e' found' =>
    rw [found] at found'
    cases found'
    rfl
  next found' =>
    rw [found] at found'
    cases found'

/-- A reordering of amendments that build a table builds one that answers alike. -/
theorem build_perm (built : build es = .ok t) {es' : List Amendment} (reordered : es'.Perm es) :
    ∃ t', build es' = .ok t' ∧ (∀ k, t'.lookup k = t.lookup k) ∧ t'.size = t.size := by
  obtain ⟨distinct, held⟩ := (build_eq_ok_iff es t).mp built
  have distinct' : (es'.map (·.opcode)).Nodup := (reordered.map _).nodup_iff.mpr distinct
  refine ⟨⟨es', distinct'⟩, build_of_nodup distinct', fun k => ?_, ?_⟩
  · have sameEntries : (⟨es', distinct'⟩ : AmendmentTable).entries.Perm t.entries := by
      rw [held]
      exact reordered
    exact lookup_perm sameEntries k
  · simp only [size, held, reordered.length_eq]

end AmendmentTable

/-- The amendment table is built exactly when the amendments' opcodes are pairwise distinct.
It then looks each opcode up to the one amendment that has it and finds nothing for an opcode
no amendment has; its size is the number of amendments and the number of opcodes that have
one; a reordering of the amendments builds a table that looks every opcode up alike and has
the same size. Otherwise the fault, of the duplicate-override kind, names the first amendment
whose opcode an earlier one has, after that earlier one. -/
theorem amendment_table_laws (es : List Amendment) :
    ((∃ t, AmendmentTable.build es = .ok t) ↔ (es.map (·.opcode)).Nodup) ∧
    (∀ t, AmendmentTable.build es = .ok t →
      (∀ k a, t.lookup k = some a ↔ a ∈ es ∧ a.opcode = k) ∧
      (∀ k, t.lookup k = none ↔ ∀ a ∈ es, a.opcode ≠ k) ∧
      t.size = es.length ∧
      ((List.finRange 256).filter fun k => (t.lookup k).isSome).length = t.size ∧
      ∀ es', es'.Perm es →
        ∃ t', AmendmentTable.build es' = .ok t' ∧ (∀ k, t'.lookup k = t.lookup k) ∧
          t'.size = t.size) ∧
    (¬(es.map (·.opcode)).Nodup →
      ∃ (j i : Nat) (later : j < es.length) (earlier : i < j),
        ((es.take j).map (·.opcode)).Nodup ∧ es[i].opcode = es[j].opcode ∧
        AmendmentTable.build es =
          .error (.duplicateAmendment es[j].opcode es[i].op es[i].mode es[j].op es[j].mode) ∧
        (Fault.duplicateAmendment es[j].opcode es[i].op es[i].mode es[j].op es[j].mode).kind =
          .duplicateOverride ∧
        (Fault.duplicateAmendment es[j].opcode es[i].op es[i].mode es[j].op es[j].mode).message =
          "duplicate override for opcode " ++ Text.hexByte es[j].opcode.val ++ " (" ++ es[i].op ++
            " " ++ es[i].mode.tag ++ " and " ++ es[j].op ++ " " ++ es[j].mode.tag ++ ")") := by
  refine ⟨⟨fun ⟨t, built⟩ => ((AmendmentTable.build_eq_ok_iff es t).mp built).1,
    fun distinct => ⟨_, AmendmentTable.build_of_nodup distinct⟩⟩, fun t built => ?_,
    fun repeated => ?_⟩
  · obtain ⟨-, held⟩ := (AmendmentTable.build_eq_ok_iff es t).mp built
    refine ⟨fun k a => ?_, fun k => ?_, by rw [AmendmentTable.size, held],
      AmendmentTable.length_filter_lookup_isSome, fun es' reordered =>
        AmendmentTable.build_perm built reordered⟩
    · rw [AmendmentTable.lookup_eq_some_iff, held]
    · rw [AmendmentTable.lookup_eq_none_iff, held]
  · obtain ⟨j, i, later, earlier, distinct, same, found⟩ := firstRepeat_of_not_nodup repeated
    exact ⟨j, i, later, earlier, distinct, same, AmendmentTable.build_of_firstRepeat found, rfl, rfl⟩

end W65816
