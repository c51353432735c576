import W65816.Proofs.Legend

set_option autoImplicit false

/-!
# The order of the legend's checks

`Legend.build` checks the entries one after the other and then the phrasings one after the other,
and stops at the first check that fails. Said without its bookkeeping: each entry is checked
against the entries before it (`entryViolation`: the `manual` mode, then a symbol, a lowercased
name or a mode that an earlier entry has), each phrasing against the entries and the phrasings
before it (`phrasingViolation`: a symbol no entry has, then a key that is a lowercased name, then
a key an earlier phrasing has), and the fault reported is the one of the first position that
fails (`FirstViolation`). The phrasing faults carry the phrase as it was written
(`legend_check_order`).
-/

namespace W65816

open W65816.Text

namespace Legend

/-! ## Checks stated position by position -/

/-- The fault of position `j` of `xs`, every position before it passing, each position checked
against the ones before it. -/
def FirstViolation {α : Type} (check : List α → α → Option Fault) (xs : List α) (f : Fault) : Prop :=
  ∃ (j : Nat) (bound : j < xs.length),
    (∀ i (earlier : i < j), check (xs.take i) xs[i] = none) ∧ check (xs.take j) xs[j] = some f

/-- Every position of `xs` passes its check against the ones before it. -/
def NoViolation {α : Type} (check : List α → α → Option Fault) (xs : List α) : Prop :=
  ∀ i (bound : i < xs.length), check (xs.take i) xs[i] = none

section Positions

variable {α : Type} {check : List α → α → Option Fault} {x : α} {xs : List α} {f : Fault}

theorem not_firstViolation_nil : ¬FirstViolation check [] f := by
  rintro ⟨j, bound, -⟩
  exact absurd bound (Nat.not_lt_zero j)

theorem noViolation_nil : NoViolation check [] := fun i bound => absurd bound (Nat.not_lt_zero i)

/-- The first position fails, or it passes and the first failure is further on, where each
position is checked against the first one as well. -/
theorem firstViolation_cons :
    FirstViolation check (x :: xs) f ↔
      check [] x = some f ∨
        (check [] x = none ∧ FirstViolation (fun earlier => check (x :: earlier)) xs f) := by
  constructor
  · rintro ⟨j, bound, passed, failed⟩
    cases j with
    | zero => exact .inl failed
    | succ j =>
        refine .inr ⟨passed 0 (Nat.zero_lt_succ j), j, by simpa using bound, fun i earlier => ?_,
          by simpa using failed⟩
        simpa using passed (i + 1) (by omega)
  · rintro (failed | ⟨passed, j, bound, rest, failed⟩)
    · exact ⟨0, by simp, fun i earlier => absurd earlier (Nat.not_lt_zero i), failed⟩
    · refine ⟨j + 1, by simpa using bound, fun i earlier => ?_, by simpa using failed⟩
      cases i with
      | zero => exact passed
      | succ i => simpa using rest i (by omega)

theorem noViolation_cons :
    NoViolation check (x :: xs) ↔
      check [] x = none ∧ NoViolation (fun earlier => check (x :: earlier)) xs := by
  constructor
  · intro passed
    refine ⟨passed 0 (by simp), fun i bound => ?_⟩
    have later := passed (i + 1) (by simp only [List.length_cons]; omega)
    simpa using later
  · rintro ⟨first, rest⟩ i bound
    cases i with
    | zero => exact first
    | succ i => simpa using rest i (by simpa using bound)

/-- Every position passes exactly when no position is the first to fail. -/
theorem noViolation_iff_forall_not_firstViolation :
    NoViolation check xs ↔ ∀ f, ¬FirstViolation check xs f := by
  induction xs generalizing check with
  | nil => simp [noViolation_nil, not_firstViolation_nil]
  | cons x xs inductionHypothesis =>
      rw [noViolation_cons, inductionHypothesis]
      simp only [firstViolation_cons, not_or, not_and]
      cases check [] x <;> simp

/-- A run of the checks that stops at the first failure, given by what one position does to it,
reports the first violation. `fails before xs f` says that the run over `xs`, after the positions
`before`, stops with `f`. -/
theorem firstViolation_iff_of_run (fails : List α → List α → Fault → Prop)
    (nil : ∀ before f, ¬fails before [] f)
    (stop : ∀ before x xs f, check before x = some f → ∀ f', fails before (x :: xs) f' ↔ f = f')
    (next : ∀ before x xs, check before x = none →
      ∀ f', fails before (x :: xs) f' ↔ fails (before ++ [x]) xs f')
    (xs before : List α) (f : Fault) :
    fails before xs f ↔ FirstViolation (fun earlier => check (before ++ earlier)) xs f := by
  induction xs generalizing before with
  | nil => simp [nil, not_firstViolation_nil]
  | cons x xs inductionHypothesis =>
      have shifted : (fun earlier => check (before ++ x :: earlier)) =
          fun earlier => check (before ++ [x] ++ earlier) := by
        funext earlier
        simp
      rw [firstViolation_cons, List.append_nil, shifted]
      cases checked : check before x with
      | some f' => simp [stop before x xs f' checked]
      | none => simp [next before x xs checked, inductionHypothesis]

end Positions

/-- The fault of entry `e` after the entries `earlier`, in the order the checks are made. -/
def entryViolation (earlier : List LegendEntry) (e : LegendEntry) : Option Fault :=
  if e.mode = .manual then some (.manualInLegend e.symbol)
  else if ∃ p ∈ earlier, p.symbol = e.symbol then some (.duplicateSymbol e.symbol)
  else if ∃ p ∈ earlier, lower p.name = lower e.name then some (.duplicateName e.name)
  else if ∃ p ∈ earlier, p.mode = e.mode then some (.duplicateMode e.mode)
  else none

/-- The fault of phrasing `q` of a legend with `entries`, after the phrasings `earlier`, in the
order the checks are made. -/
def phrasingViolation (entries : List LegendEntry) (earlier : List (String × String))
    (q : String × String) : Option Fault :=
  if ¬∃ e ∈ entries, e.symbol = q.2 then some (.unknownTarget q.1 q.2)
  else if ∃ e ∈ entries, lower e.name = key q.1 then some (.shadowedName q.1)
  else if ∃ p ∈ earlier, key p.1 = key q.1 then some (.duplicatePhrase q.1)
  else none

theorem entryViolation_kind {earlier : List LegendEntry} {e : LegendEntry} {f : Fault}
    (failed : entryViolation earlier e = some f) : f.kind = .catalog ∧ f.context = none := by
  unfold entryViolation at failed
  split_ifs at failed <;> cases failed <;> exact ⟨rfl, rfl⟩

theorem phrasingViolation_kind {entries : List LegendEntry} {earlier : List (String × String)}
    {q : String × String} {f : Fault} (failed : phrasingViolation entries earlier q = some f) :
    f.kind = .catalog ∧ f.context = none := by
  unfold phrasingViolation at failed
  split_ifs at failed <;> cases failed <;> exact ⟨rfl, rfl⟩

/-! ## The entries -/

/-- What the entry checks remember of the entries `before`: their symbols, lowercased names and
modes, latest first. -/
theorem entryFault_cons_of_violation {before : List LegendEntry} {e : LegendEntry}
    (es : List LegendEntry) {f : Fault} (failed : entryViolation before e = some f) :
    entryFault (before.reverse.map (·.symbol)) (before.reverse.map (lower ·.name))
      (before.reverse.map (·.mode)) (e :: es) = some f := by
  unfold entryViolation at failed
  simp only [entryFault, List.mem_map, List.mem_reverse]
  split_ifs at failed ⊢ <;> simp_all

theorem entryFault_cons_of_pass {before : List LegendEntry} {e : LegendEntry}
    (es : List LegendEntry) (passed : entryViolation before e = none) :
    entryFault (before.reverse.map (·.symbol)) (before.reverse.map (lower ·.name))
      (before.reverse.map (·.mode)) (e :: es) =
    entryFault ((before ++ [e]).reverse.map (·.symbol)) ((before ++ [e]).reverse.map (lower ·.name))
      ((before ++ [e]).reverse.map (·.mode)) es := by
  unfold entryViolation at passed
  simp only [entryFault, List.mem_map, List.mem_reverse]
  split_ifs at passed ⊢
  simp_all

/-- The entry checks, run after the entries `before`, find the first entry that fails against the
entries before it. -/
theorem entryFault_spec (es before : List LegendEntry) :
    (∀ f, entryFault (before.reverse.map (·.symbol)) (before.reverse.map (lower ·.name))
        (before.reverse.map (·.mode)) es = some f ↔
      FirstViolation (fun earlier => entryViolation (before ++ earlier)) es f) ∧
    (entryFault (before.reverse.map (·.symbol)) (before.reverse.map (lower ·.name))
        (before.reverse.map (·.mode)) es = none ↔
      NoViolation (fun earlier => entryViolation (before ++ earlier)) es) := by
  have faulty := firstViolation_iff_of_run
    (fun before es f => entryFault (before.reverse.map (·.symbol)) (before.reverse.map (lower ·.name))
      (before.reverse.map (·.mode)) es = some f)
    (fun before f => by simp [entryFault])
    (fun before e es f failed f' => by rw [entryFault_cons_of_violation es failed, Option.some.injEq])
    (fun before e es passed f' => by rw [entryFault_cons_of_pass es passed]) es before
  refine ⟨faulty, ?_⟩
  rw [Option.eq_none_iff_forall_ne_some, noViolation_iff_forall_not_firstViolation]
  exact forall_congr' fun f => not_congr (faulty f)

/-! ## The phrasings -/

/-- What the phrasing checks remember of the phrasings `before`: their keys with their targets,
latest first. -/
def keyedBefore (entries : List LegendEntry) (before : List (String × String)) : List (String × Nat) :=
  (before.map fun q => (key q.1, target entries q.2)).reverse

theorem keyPhrasings_cons_of_violation {entries : List LegendEntry} {before : List (String × String)}
    {q : String × String} (rest : List (String × String)) {f : Fault}
    (failed : phrasingViolation entries before q = some f) :
    keyPhrasings entries (keyedBefore entries before) (q :: rest) = .error f := by
  obtain ⟨phrase, symbol⟩ := q
  unfold phrasingViolation at failed
  cases found : entries.findIdx? (·.symbol == symbol) with
  | none =>
      have unknown : ¬∃ e ∈ entries, e.symbol = symbol := by simpa using found
      simp only [unknown, not_false_eq_true, if_true, Option.some.injEq] at failed
      simp [keyPhrasings, found, failed]
  | some i =>
      have known : ∃ e ∈ entries, e.symbol = symbol := by
        obtain ⟨bound, same, -⟩ := List.findIdx?_eq_some_iff_getElem.mp found
        exact ⟨entries[i], List.getElem_mem bound, by simpa using same⟩
      simp only [known, not_true_eq_false, if_false] at failed
      simp only [keyPhrasings, found, keyedBefore, List.any_reverse, List.any_map]
      split_ifs at failed ⊢ <;> simp_all

theorem keyPhrasings_cons_of_pass {entries : List LegendEntry} {before : List (String × String)}
    {q : String × String} (rest : List (String × String))
    (passed : phrasingViolation entries before q = none) :
    keyPhrasings entries (keyedBefore entries before) (q :: rest) =
      keyPhrasings entries (keyedBefore entries (before ++ [q])) rest := by
  obtain ⟨phrase, symbol⟩ := q
  unfold phrasingViolation at passed
  have known : ∃ e ∈ entries, e.symbol = symbol := by
    by_contra unknown
    simp [unknown] at passed
  obtain ⟨i, found⟩ : ∃ i, entries.findIdx? (·.symbol == symbol) = some i :=
    Option.isSome_iff_exists.mp (by simpa using known)
  have located : target entries symbol = i := by simp [target, found]
  simp only [known, not_true_eq_false, if_false] at passed
  simp only [keyPhrasings, found, keyedBefore, List.any_reverse, List.any_map, List.map_append,
    List.map_cons, List.map_nil, List.reverse_append, List.reverse_cons, List.reverse_nil,
    List.nil_append, List.singleton_append, located]
  split_ifs at passed ⊢ <;> simp_all

/-- The phrasing checks, run after the phrasings `before`, fail exactly at the first phrasing
that fails against the entries and the phrasings before it. -/
theorem keyPhrasings_eq_error_iff (entries : List LegendEntry) (ps before : List (String × String))
    (f : Fault) :
    keyPhrasings entries (keyedBefore entries before) ps = .error f ↔
      FirstViolation (fun earlier => phrasingViolation entries (before ++ earlier)) ps f := by
  exact firstViolation_iff_of_run
    (fun before ps f => keyPhrasings entries (keyedBefore entries before) ps = .error f)
    (fun before f => by simp [keyPhrasings])
    (fun before q ps f failed f' => by rw [keyPhrasings_cons_of_violation ps failed, Except.error.injEq])
    (fun before q ps passed f' => by rw [keyPhrasings_cons_of_pass ps passed]) ps before f

/-! ## The whole build -/

theorem build_eq_error_iff (entries : List LegendEntry) (phrasings : List (String × String))
    (f : Fault) :
    build entries phrasings = .error f ↔
      FirstViolation entryViolation entries f ∨
        (NoViolation entryViolation entries ∧
          FirstViolation (phrasingViolation entries) phrasings f) := by
  obtain ⟨faulty, clean⟩ := entryFault_spec entries []
  have phrased := keyPhrasings_eq_error_iff entries phrasings [] f
  simp only [List.reverse_nil, List.map_nil, List.nil_append] at faulty clean phrased
  unfold build
  split
  next f' checked =>
      have first := (faulty f').mp checked
      have notClean : ¬NoViolation entryViolation entries := fun passes =>
        noViolation_iff_forall_not_firstViolation.mp passes f' first
      simp only [Except.error.injEq, notClean, false_and, or_false]
      constructor
      · rintro rfl
        exact first
      · intro other
        have same := (faulty f).mpr other
        rw [checked] at same
        exact Option.some.inj same
  next checked =>
      have passes := clean.mp checked
      have noFirst : ¬FirstViolation entryViolation entries f :=
        noViolation_iff_forall_not_firstViolation.mp passes f
      simp only [noFirst, passes, true_and, false_or, ← phrased, keyedBefore, List.map_nil,
        List.reverse_nil]
      split
      next f' passed => simp only [passed, Except.error.injEq]
      next keyed passed => simp [passed]

end Legend

/-- The checks of a legend, in order. The legend is built exactly when no entry is `manual`, the
symbols, the lowercased names and the modes of the entries are pairwise distinct, every phrasing
targets a symbol of an entry, no phrasing's key (trimmed and lowercased) is a lowercased name,
and the keys of the phrasings are pairwise distinct. Otherwise the fault is that of the first
entry that fails against the entries before it, checked for `manual`, then a repeated symbol,
name and mode; or, all entries passing, that of the first phrasing that fails against the
entries and the phrasings before it, checked for an unknown symbol, then a key that is a name,
then a repeated key. Every such fault is a legend fault with no row, and the phrasing faults
quote the phrase as it was written. -/
theorem legend_check_order (entries : List LegendEntry) (phrasings : List (String × String)) :
    ((∃ g, Legend.build entries phrasings = .ok g) ↔
      (∀ e ∈ entries, e.mode ≠ .manual) ∧ (entries.map (·.symbol)).Nodup ∧
      (entries.map (lower ·.name)).Nodup ∧ (entries.map (·.mode)).Nodup ∧
      (∀ q ∈ phrasings, ∃ e ∈ entries, e.symbol = q.2) ∧
      (∀ q ∈ phrasings, ∀ e ∈ entries, lower e.name ≠ Legend.key q.1) ∧
      (phrasings.map (Legend.key ·.1)).Nodup) ∧
    (∀ f, Legend.build entries phrasings = .error f ↔
      Legend.FirstViolation Legend.entryViolation entries f ∨
        (Legend.NoViolation Legend.entryViolation entries ∧
          Legend.FirstViolation (Legend.phrasingViolation entries) phrasings f)) ∧
    (∀ f, Legend.build entries phrasings = .error f → f.kind = .catalog ∧ f.context = none) ∧
    (∀ phrase symbol,
      (Fault.unknownTarget phrase symbol).message =
        "correction \"" ++ phrase ++ "\" targets unknown symbol \"" ++ symbol ++ "\"" ∧
      (Fault.shadowedName phrase).message =
        "correction \"" ++ phrase ++ "\" shadows a catalog description" ∧
      (Fault.duplicatePhrase phrase).message = "duplicate correction \"" ++ phrase ++ "\"") := by
  refine ⟨⟨fun ⟨g, built⟩ => ?_, fun holds => ?_⟩, Legend.build_eq_error_iff entries phrasings,
    fun f failed => ?_, fun phrase symbol => ⟨?_, ?_, ?_⟩⟩
  · obtain ⟨notManual, symbols, names, modes, known, unshadowed, distinct, -, -⟩ :=
      (Legend.build_eq_ok_iff entries phrasings g).mp built
    exact ⟨notManual, symbols, names, modes, known, unshadowed, distinct⟩
  · obtain ⟨notManual, symbols, names, modes, known, unshadowed, distinct⟩ := holds
    obtain ⟨g, built, -⟩ :=
      Legend.build_of_passing notManual symbols names modes known unshadowed distinct
    exact ⟨g, built⟩
  · rcases (Legend.build_eq_error_iff entries phrasings f).mp failed with
      ⟨j, bound, -, violated⟩ | ⟨-, j, bound, -, violated⟩
    · exact Legend.entryViolation_kind violated
    · exact Legend.phrasingViolation_kind violated
  · apply String.toList_inj.mp
    show ("correction " ++ ("\"" ++ phrase ++ "\"") ++ " targets unknown symbol " ++
      ("\"" ++ symbol ++ "\"")).toList = _
    simp [String.toList_append]
  · apply String.toList_inj.mp
    show ("correction " ++ ("\"" ++ phrase ++ "\"") ++ " shadows a catalog description").toList = _
    simp [String.toList_append]
  · apply String.toList_inj.mp
    show ("duplicate correction " ++ ("\"" ++ phrase ++ "\"")).toList = _
    simp [String.toList_append]

end W65816
