import Mathlib.Data.Fintype.Card
import Mathlib.Data.List.Nodup
import Mathlib.Data.List.GetD
import W65816.Coverage
import W65816.Amendment

set_option autoImplicit false

/-!
# One entry per opcode

Listing rows and amendments are both checked by `firstRepeat`: a list passes exactly when its
opcodes are pairwise distinct. For listing rows the coverage check adds that every opcode is
carried, and then each opcode's slot points at the one row that carries it, whatever the order
of the rows. For amendments, distinct opcodes make `AmendmentTable.lookup` find the one
amendment of an opcode, and make the number of amended opcodes the number of amendments.

The coverage check reports its faults in a fixed way (`coverage_report`): a repeated opcode at
the first row whose opcode an earlier row carries, with that earlier row, before any gap is
looked for; otherwise every opcode no row carries at once, in increasing order, as many as
the opcodes the rows leave out, whatever the order of the rows.
-/

namespace W65816

/-- Every opcode is carried by exactly one row. -/
structure CoversOnce (rows : List Row) : Prop where
  nodup : (rows.map (·.opcode)).Nodup
  complete : ∀ k : Opcode, ∃ r ∈ rows, r.opcode = k

namespace Coverage

theorem uncovered_eq_nil_iff (rows : List Row) :
    uncovered rows = [] ↔ ∀ k : Opcode, ∃ r ∈ rows, r.opcode = k := by
  simp [uncovered, List.filter_eq_nil_iff, List.mem_finRange]

/-- The position of the first row that carries `k`: what the slot of `k` holds. -/
def position (rows : List Row) (k : Opcode) : Nat := rows.findIdx (·.opcode == k)

theorem slots_of_coversOnce {rows : List Row} (covers : CoversOnce rows) :
    slots rows = .ok ((List.finRange 256).map (position rows)) := by
  have noRepeat : firstRepeat Row.opcode [] rows = none :=
    (firstRepeat_nil_eq_none_iff _ _).mpr covers.nodup
  have noGap : uncovered rows = [] := (uncovered_eq_nil_iff rows).mpr covers.complete
  simp [slots, noRepeat, noGap, position]

theorem coversOnce_of_slots_eq_ok {rows : List Row} {s : List Nat} (h : slots rows = .ok s) :
    CoversOnce rows := by
  unfold slots at h
  cases found : firstRepeat Row.opcode [] rows with
  | some pair => simp [found] at h
  | none =>
      cases gaps : uncovered rows with
      | nil =>
          exact ⟨(firstRepeat_nil_eq_none_iff _ _).mp found,
            (uncovered_eq_nil_iff rows).mp gaps⟩
      | cons k ks => simp [found, gaps] at h

theorem slots_isOk_iff (rows : List Row) : (∃ s, slots rows = .ok s) ↔ CoversOnce rows :=
  ⟨fun ⟨_, h⟩ => coversOnce_of_slots_eq_ok h, fun covers => ⟨_, slots_of_coversOnce covers⟩⟩

end Coverage

namespace CoversOnce

variable {rows : List Row}

/-- Rows that carry the opcodes in increasing order cover each once. -/
theorem of_opcodes_eq_finRange (opcodes : rows.map (·.opcode) = List.finRange 256) :
    CoversOnce rows where
  nodup := by
    rw [opcodes]
    exact List.nodup_finRange 256
  complete k := by
    have listed : k ∈ rows.map (·.opcode) := by
      rw [opcodes]
      exact List.mem_finRange k
    simpa using listed

theorem eq_of_opcode_eq (covers : CoversOnce rows) {r r' : Row} (hr : r ∈ rows) (hr' : r' ∈ rows)
    (same : r.opcode = r'.opcode) : r = r' :=
  List.inj_on_of_nodup_map covers.nodup hr hr' same

theorem position_lt (covers : CoversOnce rows) (k : Opcode) :
    Coverage.position rows k < rows.length := by
  obtain ⟨r, member, carries⟩ := covers.complete k
  exact List.findIdx_lt_length_of_exists ⟨r, member, by simpa using carries⟩

/-- The row at the position the slots give for `k` is the one row that carries `k`. -/
theorem getD_position (covers : CoversOnce rows) {r : Row} (member : r ∈ rows) (k : Opcode)
    (carries : r.opcode = k) : rows.getD (Coverage.position rows k) default = r := by
  have bound := covers.position_lt k
  have found := @List.findIdx_getElem _ (fun r : Row => r.opcode == k) rows bound
  rw [List.getD_eq_getElem _ _ bound]
  exact covers.eq_of_opcode_eq (List.getElem_mem bound) member
    ((beq_iff_eq.mp found).trans carries.symm)

theorem perm (covers : CoversOnce rows) {rows' : List Row} (reordered : rows'.Perm rows) :
    CoversOnce rows' where
  nodup := (reordered.map _).nodup_iff.mpr covers.nodup
  complete k := by
    obtain ⟨r, member, carries⟩ := covers.complete k
    exact ⟨r, reordered.mem_iff.mpr member, carries⟩

/-- Reordering the rows moves each slot to the same row. -/
theorem getD_position_perm (covers : CoversOnce rows) {rows' : List Row}
    (reordered : rows'.Perm rows) (k : Opcode) :
    rows'.getD (Coverage.position rows' k) default = rows.getD (Coverage.position rows k) default := by
  obtain ⟨r, member, carries⟩ := covers.complete k
  rw [(covers.perm reordered).getD_position (reordered.mem_iff.mpr member) k carries,
    covers.getD_position member k carries]

end CoversOnce

namespace AmendmentTable

theorem build_eq_ok_iff (es : List Amendment) (t : AmendmentTable) :
    build es = .ok t ↔ (es.map (·.opcode)).Nodup ∧ t.entries = es := by
  unfold build
  split
  next found =>
    simp only [reduceCtorEq, false_iff, not_and]
    intro distinct
    rw [(firstRepeat_nil_eq_none_iff _ es).mpr distinct] at found
    cases found
  next found =>
    simp only [Except.ok.injEq]
    constructor
    · rintro rfl
      exact ⟨(firstRepeat_nil_eq_none_iff _ es).mp found, rfl⟩
    · rintro ⟨-, rfl⟩
      rfl

theorem build_of_nodup {es : List Amendment} (distinct : (es.map (·.opcode)).Nodup) :
    build es = .ok ⟨es, distinct⟩ :=
  (build_eq_ok_iff es _).mpr ⟨distinct, rfl⟩

theorem build_entries (t : AmendmentTable) : build t.entries = .ok t :=
  build_of_nodup t.distinct

variable {t : AmendmentTable}

theorem lookup_eq_some_iff {k : Opcode} {a : Amendment} :
    t.lookup k = some a ↔ a ∈ t.entries ∧ a.opcode = k := by
  constructor
  · intro found
    exact ⟨List.mem_of_find?_eq_some found, by simpa using List.find?_some found⟩
  · rintro ⟨member, keyed⟩
    obtain ⟨b, found⟩ : ∃ b, t.lookup k = some b :=
      Option.isSome_iff_exists.mp (List.find?_isSome.mpr ⟨a, member, by simpa using keyed⟩)
    have same : b = a := List.inj_on_of_nodup_map t.distinct (List.mem_of_find?_eq_some found)
      member ((by simpa using List.find?_some found : b.opcode = k).trans keyed.symm)
    rw [found, same]

theorem lookup_isSome_iff (k : Opcode) :
    (t.lookup k).isSome ↔ k ∈ t.entries.map (·.opcode) := by
  simp [lookup, List.find?_isSome]

/-- As many opcodes have an amendment as there are amendments. -/
theorem length_filter_lookup_isSome :
    ((List.finRange 256).filter fun k => (t.lookup k).isSome).length = t.size := by
  have sameMembers : ((List.finRange 256).filter fun k => (t.lookup k).isSome).Perm
      (t.entries.map (·.opcode)) := by
    rw [List.perm_ext_iff_of_nodup ((List.nodup_finRange 256).filter _) t.distinct]
    intro k
    simp only [List.mem_filter, List.mem_finRange, true_and, lookup_isSome_iff]
  rw [sameMembers.length_eq, List.length_map, size]

end AmendmentTable

/-! ## The report of the coverage check -/

/-- What `firstRepeat` finds, by position, when the elements seen carry distinct opcodes: the
element at the first position whose opcode an element seen or an earlier element carries, and
one of those with its opcode. -/
theorem firstRepeat_eq_some {α : Type} {opcode : α → Opcode} {seen xs : List α} {p x : α}
    (found : firstRepeat opcode seen xs = some (p, x)) (distinct : (seen.map opcode).Nodup) :
    ∃ (j : Nat) (bound : j < xs.length), xs[j] = x ∧ ((seen ++ xs.take j).map opcode).Nodup ∧
      p ∈ seen ++ xs.take j ∧ opcode p = opcode x := by
  induction xs generalizing seen with
  | nil => simp [firstRepeat] at found
  | cons y ys inductionHypothesis =>
      unfold firstRepeat at found
      cases earlier : seen.find? (opcode · == opcode y) with
      | some prev =>
          simp only [earlier, Option.some.injEq, Prod.mk.injEq] at found
          obtain ⟨rfl, rfl⟩ := found
          exact ⟨0, by simp, rfl, by simpa using distinct, by simpa using List.mem_of_find?_eq_some earlier,
            by simpa using List.find?_some earlier⟩
      | none =>
          simp only [earlier] at found
          have fresh : ∀ s ∈ seen, opcode s ≠ opcode y := by simpa using earlier
          have grown : ((seen ++ [y]).map opcode).Nodup := by
            rw [List.map_append, List.nodup_append]
            refine ⟨distinct, by simp, ?_⟩
            simp only [List.map_cons, List.map_nil, List.mem_singleton, List.mem_map]
            rintro _ ⟨s, seenHere, rfl⟩ _ rfl
            exact fresh s seenHere
          obtain ⟨j, bound, at_j, nodup, member, same⟩ := inductionHypothesis found grown
          refine ⟨j + 1, by simpa using bound, by simpa using at_j, ?_, ?_, same⟩
          · simpa [List.take_succ_cons, List.append_assoc] using nodup
          · simpa [List.take_succ_cons, List.append_assoc] using member

/-- A list whose opcodes repeat has a first repeat: the element at the first position `j` whose
opcode an earlier element carries, found with the one earlier element `i` of that opcode. -/
theorem firstRepeat_of_not_nodup {α : Type} {opcode : α → Opcode} {xs : List α}
    (repeated : ¬(xs.map opcode).Nodup) :
    ∃ (j i : Nat) (later : j < xs.length) (earlier : i < j),
      ((xs.take j).map opcode).Nodup ∧ opcode xs[i] = opcode xs[j] ∧
      firstRepeat opcode [] xs = some (xs[i], xs[j]) := by
  obtain ⟨p, x, found⟩ : ∃ p x, firstRepeat opcode [] xs = some (p, x) := by
    cases search : firstRepeat opcode [] xs with
    | none => exact absurd ((firstRepeat_nil_eq_none_iff _ xs).mp search) repeated
    | some pair => exact ⟨pair.1, pair.2, rfl⟩
  obtain ⟨j, later, rfl, distinct, member, same⟩ := firstRepeat_eq_some found (by simp)
  simp only [List.nil_append] at distinct member
  obtain ⟨i, earlier, rfl⟩ := List.mem_iff_getElem.mp member
  have before : i < j := by
    rw [List.length_take] at earlier
    omega
  refine ⟨j, i, later, before, distinct, by simpa using same, ?_⟩
  simpa only [List.getElem_take] using found

/-- Every opcode is carried by exactly one row when each occurs once among the rows' opcodes. -/
theorem coversOnce_iff_count (rows : List Row) :
    CoversOnce rows ↔ ∀ k : Opcode, (rows.map (·.opcode)).count k = 1 := by
  constructor
  · intro covers k
    have atMost := List.nodup_iff_count_le_one.mp covers.nodup k
    have atLeast : 0 < (rows.map (·.opcode)).count k := by
      obtain ⟨r, member, carries⟩ := covers.complete k
      exact List.count_pos_iff.mpr (List.mem_map.mpr ⟨r, member, carries⟩)
    omega
  · intro once
    refine ⟨List.nodup_iff_count_le_one.mpr fun k => (once k).le, fun k => ?_⟩
    have listed : k ∈ rows.map (·.opcode) := List.count_pos_iff.mp (by rw [once k]; omega)
    simpa using listed

namespace Coverage

theorem mem_uncovered {rows : List Row} {k : Opcode} :
    k ∈ uncovered rows ↔ ∀ r ∈ rows, r.opcode ≠ k := by
  simp [uncovered]

theorem uncovered_sorted (rows : List Row) : (uncovered rows).Pairwise (· < ·) :=
  (List.pairwise_lt_finRange 256).filter _

theorem uncovered_perm {rows rows' : List Row} (reordered : rows'.Perm rows) :
    uncovered rows' = uncovered rows := by
  simp only [uncovered, reordered.any_eq]

/-- As many opcodes are left out as the rows do not carry. -/
theorem length_uncovered (rows : List Row) :
    (uncovered rows).length = 256 - (rows.map (·.opcode)).toFinset.card := by
  have distinct : (uncovered rows).Nodup := (List.nodup_finRange 256).filter _
  have gaps : (uncovered rows).toFinset = ((rows.map (·.opcode)).toFinset)ᶜ := by
    ext k
    simp [mem_uncovered]
  rw [← List.toFinset_card_of_nodup distinct, gaps, Finset.card_compl, Fintype.card_fin]

theorem slots_of_repeat {rows : List Row} {p r : Row}
    (found : firstRepeat Row.opcode [] rows = some (p, r)) :
    slots rows = .error (.listedTwice r.opcode p.line p.mnemonic r.line r.mnemonic) := by
  simp [slots, found]

/-- The coverage check reports gaps exactly when no opcode repeats and some opcode is left
out; the gaps it reports are then the opcodes left out. -/
theorem slots_eq_missing_iff {rows : List Row} {gaps : List Opcode} :
    slots rows = .error (.missing gaps) ↔
      (rows.map (·.opcode)).Nodup ∧ uncovered rows = gaps ∧ gaps ≠ [] := by
  rw [← firstRepeat_nil_eq_none_iff]
  unfold slots
  cases firstRepeat Row.opcode [] rows with
  | some pair => simp
  | none =>
      cases uncovered rows with
      | nil => simp
      | cons k ks => simp +contextual [eq_comm]

theorem slots_of_gaps {rows : List Row} (distinct : (rows.map (·.opcode)).Nodup)
    (gap : ∃ k : Opcode, ∀ r ∈ rows, r.opcode ≠ k) : slots rows = .error (.missing (uncovered rows)) := by
  obtain ⟨k, left⟩ := gap
  exact slots_eq_missing_iff.mpr ⟨distinct, rfl, List.ne_nil_of_mem (mem_uncovered.mpr left)⟩

theorem slots_error_kind {rows : List Row} {f : Fault} (failed : slots rows = .error f) :
    f.kind = .incompleteOpcodeCoverage ∧ f.context = none := by
  unfold slots at failed
  split at failed
  · cases failed
    exact ⟨rfl, rfl⟩
  · split at failed
    · cases failed
    · cases failed
      exact ⟨rfl, rfl⟩

end Coverage

namespace CoversOnce

variable {rows : List Row}

theorem length_eq (covers : CoversOnce rows) : rows.length = 256 := by
  have sameOpcodes : (rows.map (·.opcode)).Perm (List.finRange 256) := by
    rw [List.perm_ext_iff_of_nodup covers.nodup (List.nodup_finRange 256)]
    intro k
    obtain ⟨r, member, carries⟩ := covers.complete k
    simpa using ⟨r, member, carries⟩
  simpa using sameOpcodes.length_eq

theorem opcode_getD_position (covers : CoversOnce rows) (k : Opcode) :
    (rows.getD (Coverage.position rows k) default).opcode = k := by
  obtain ⟨r, member, carries⟩ := covers.complete k
  rw [covers.getD_position member k carries, carries]

/-- The slots of a covering listing are the positions `0, …, 255`, each once. -/
theorem slots_perm (covers : CoversOnce rows) :
    ((List.finRange 256).map (Coverage.position rows)).Perm (List.range 256) := by
  have injective : ∀ k k' : Opcode, Coverage.position rows k = Coverage.position rows k' → k = k' := by
    intro k k' same
    rw [← covers.opcode_getD_position k, same, covers.opcode_getD_position k']
  have distinct : ((List.finRange 256).map (Coverage.position rows)).Nodup :=
    (List.nodup_finRange 256).map_on fun k _ k' _ same => injective k k' same
  have within : (List.finRange 256).map (Coverage.position rows) ⊆ List.range 256 := by
    intro i member
    obtain ⟨k, -, rfl⟩ := List.mem_map.mp member
    simpa [covers.length_eq] using covers.position_lt k
  exact (distinct.subperm within).perm_of_length_le (by simp)

end CoversOnce

/-- The coverage check passes exactly when every opcode occurs once among the rows' opcodes, and
then gives for each opcode the position of the row that carries it: a permutation of
`0, …, 255`, so the rows are 256. A repeated opcode is reported at the first row whose opcode an
earlier row carries, naming that row and the earlier one, before any gap is looked for. With no
repeat, every opcode no row carries is reported at once, in increasing order, and the count is
256 less the number of distinct opcodes; a reordering of the rows reports the same. Either
fault is of the coverage kind and carries no row. -/
theorem coverage_report (rows : List Row) :
    ((∃ s, Coverage.slots rows = .ok s) ↔ ∀ k : Opcode, (rows.map (·.opcode)).count k = 1) ∧
    (∀ s, Coverage.slots rows = .ok s →
      rows.length = 256 ∧ s.Perm (List.range 256) ∧
      ∀ k : Opcode, ∃ i, s[k.val]? = some i ∧ ∃ bound : i < rows.length, rows[i].opcode = k) ∧
    (¬(rows.map (·.opcode)).Nodup →
      ∃ (j i : Nat) (later : j < rows.length) (earlier : i < j),
        ((rows.take j).map (·.opcode)).Nodup ∧ rows[i].opcode = rows[j].opcode ∧
        Coverage.slots rows = .error (.listedTwice rows[j].opcode rows[i].line rows[i].mnemonic
          rows[j].line rows[j].mnemonic) ∧
        (Fault.listedTwice rows[j].opcode rows[i].line rows[i].mnemonic rows[j].line
          rows[j].mnemonic).message =
          "opcode " ++ Text.hexByte rows[j].opcode.val ++ " is listed twice (line " ++
            toString rows[i].line ++ " " ++ rows[i].mnemonic ++ " and line " ++
            toString rows[j].line ++ " " ++ rows[j].mnemonic ++ ")") ∧
    ((rows.map (·.opcode)).Nodup → (∃ k : Opcode, ∀ r ∈ rows, r.opcode ≠ k) →
      Coverage.slots rows = .error (.missing (Coverage.uncovered rows)) ∧
      (Fault.missing (Coverage.uncovered rows)).message =
        toString (256 - (rows.map (·.opcode)).toFinset.card) ++
          " opcode(s) missing from the reference table: " ++
          " ".intercalate ((Coverage.uncovered rows).map fun k => Text.hexByte k.val)) ∧
    (∀ k, k ∈ Coverage.uncovered rows ↔ ∀ r ∈ rows, r.opcode ≠ k) ∧
    (Coverage.uncovered rows).Pairwise (· < ·) ∧
    (∀ gaps, Coverage.slots rows = .error (.missing gaps) →
      (rows.map (·.opcode)).Nodup ∧
      ∀ rows', rows'.Perm rows → Coverage.slots rows' = .error (.missing gaps)) ∧
    (∀ f, Coverage.slots rows = .error f → f.kind = .incompleteOpcodeCoverage ∧ f.context = none) := by
  refine ⟨?_, fun s slotted => ?_, fun repeated => ?_, fun distinct gap => ?_,
    fun k => Coverage.mem_uncovered, Coverage.uncovered_sorted rows, fun gaps failed => ?_,
    fun f failed => Coverage.slots_error_kind failed⟩
  · rw [Coverage.slots_isOk_iff, coversOnce_iff_count]
  · have covers := Coverage.coversOnce_of_slots_eq_ok slotted
    rw [Coverage.slots_of_coversOnce covers, Except.ok.injEq] at slotted
    subst slotted
    refine ⟨covers.length_eq, covers.slots_perm, fun k =>
      ⟨Coverage.position rows k, by simp, covers.position_lt k, ?_⟩⟩
    rw [← List.getD_eq_getElem _ default (covers.position_lt k)]
    exact covers.opcode_getD_position k
  · obtain ⟨p, r, found⟩ : ∃ p r, firstRepeat Row.opcode [] rows = some (p, r) := by
      cases search : firstRepeat Row.opcode [] rows with
      | none => exact absurd ((firstRepeat_nil_eq_none_iff _ rows).mp search) repeated
      | some pair => exact ⟨pair.1, pair.2, rfl⟩
    obtain ⟨j, later, rfl, distinct, member, same⟩ := firstRepeat_eq_some found (by simp)
    simp only [List.nil_append] at distinct member
    obtain ⟨i, earlier, rfl⟩ := List.mem_iff_getElem.mp member
    have before : i < j := by
      rw [List.length_take] at earlier
      omega
    refine ⟨j, i, later, before, distinct, by simpa using same, ?_, rfl⟩
    rw [Coverage.slots_of_repeat found]
    simp only [List.getElem_take]
  · refine ⟨Coverage.slots_of_gaps distinct gap, ?_⟩
    rw [← Coverage.length_uncovered]
    rfl
  · -- gaps are reported only when no opcode repeats, and reordering keeps the gaps
    obtain ⟨distinct, rfl, nonempty⟩ := Coverage.slots_eq_missing_iff.mp failed
    refine ⟨distinct, fun rows' reordered => Coverage.slots_eq_missing_iff.mpr
      ⟨(reordered.map _).nodup_iff.mpr distinct, Coverage.uncovered_perm reordered, nonempty⟩⟩

end W65816
