import Mathlib.Data.List.Nodup
import W65816.Legend

set_option autoImplicit false

/-!
# Lookups in a consistent legend

`Legend.build` accepts exactly the entries and phrasings that pass its checks
(`build_eq_ok_iff`), and keys each phrasing to the first entry with its symbol. In every legend,
every mode and every lowercased name belongs to one entry, and no phrasing key is a lowercased
name; so `indexOf` finds each entry by its mode, and `resolve` is the union of two disjoint
maps, names first or phrasings first alike (`resolve_eq_ok_iff`).

Names are keyed lowercased but not trimmed, while a description is trimmed before it is looked
up. So an entry's name resolves to the entry exactly when trimming does not change its key, or
a phrasing with that key points at the entry.
-/

namespace W65816

open W65816.Text

namespace Legend

variable {entries : List LegendEntry} {phrasings : List (String × String)} {g : Legend}

/-- Entries and phrasings that pass the checks build the legend of them. -/
theorem build_of_checks {keyed : List (String × Nat)} (checked : entryFault [] [] [] entries = none)
    (passed : keyPhrasings entries [] phrasings = .ok keyed) :
    build entries phrasings = .ok ⟨entries, keyed, consistent_of_checks checked passed⟩ := by
  unfold build
  split
  next f failed =>
    rw [checked] at failed
    cases failed
  next =>
    split
    next f failed =>
      rw [passed] at failed
      cases failed
    next keyed' passed' =>
      rw [passed] at passed'
      cases passed'
      rfl

/-- Entries and phrasings that pass every check build a legend of the entries, with each
phrasing keyed to the first entry with its symbol. -/
theorem build_of_passing (notManual : ∀ e ∈ entries, e.mode ≠ .manual)
    (symbols : (entries.map (·.symbol)).Nodup) (names : (entries.map (lower ·.name)).Nodup)
    (modes : (entries.map (·.mode)).Nodup) (known : ∀ q ∈ phrasings, ∃ e ∈ entries, e.symbol = q.2)
    (unshadowed : ∀ q ∈ phrasings, ∀ e ∈ entries, lower e.name ≠ key q.1)
    (distinct : (phrasings.map (key ·.1)).Nodup) :
    ∃ g, build entries phrasings = .ok g ∧ g.entries = entries ∧
      g.phrasings = phrasings.map fun q => (key q.1, target entries q.2) := by
  have checked : entryFault [] [] [] entries = none :=
    (entryFault_eq_none_iff [] [] [] entries).mpr
      ⟨notManual, by simp, symbols, by simp, names, by simp, modes⟩
  have passed : keyPhrasings entries [] phrasings =
      .ok (phrasings.map fun q => (key q.1, target entries q.2)) :=
    (keyPhrasings_eq_ok_iff entries [] phrasings _).mpr ⟨known, unshadowed, by simp, distinct, by simp⟩
  exact ⟨_, build_of_checks checked passed, rfl, rfl⟩

/-- The legends `build` accepts: entries that pass their checks, phrasings whose symbols are
known, whose keys are no lowercased name and are pairwise distinct; each phrasing is keyed to
the first entry with its symbol. -/
theorem build_eq_ok_iff (entries : List LegendEntry) (phrasings : List (String × String))
    (g : Legend) :
    build entries phrasings = .ok g ↔
      (∀ e ∈ entries, e.mode ≠ .manual) ∧ (entries.map (·.symbol)).Nodup ∧
      (entries.map (lower ·.name)).Nodup ∧ (entries.map (·.mode)).Nodup ∧
      (∀ q ∈ phrasings, ∃ e ∈ entries, e.symbol = q.2) ∧
      (∀ q ∈ phrasings, ∀ e ∈ entries, lower e.name ≠ key q.1) ∧
      (phrasings.map (key ·.1)).Nodup ∧ g.entries = entries ∧
      g.phrasings = phrasings.map fun q => (key q.1, target entries q.2) := by
  have entriesPass := entryFault_eq_none_iff [] [] [] entries
  simp only [List.not_mem_nil, not_false_eq_true, implies_true, true_and] at entriesPass
  have phrasingsPass := keyPhrasings_eq_ok_iff entries [] phrasings
  simp only [List.map_nil, List.not_mem_nil, not_false_eq_true, implies_true, true_and,
    List.reverse_nil, List.nil_append] at phrasingsPass
  constructor
  · intro built
    unfold build at built
    split at built
    · cases built
    · next checked =>
      split at built
      · cases built
      · next keyed passed =>
        cases built
        obtain ⟨notManual, symbols, names, modes⟩ := entriesPass.mp checked
        obtain ⟨known, unshadowed, distinct, rfl⟩ := (phrasingsPass keyed).mp passed
        exact ⟨notManual, symbols, names, modes, known, unshadowed, distinct, rfl, rfl⟩
  · rintro ⟨notManual, symbols, names, modes, known, unshadowed, distinct, held, keyed⟩
    obtain ⟨g', built, held', keyed'⟩ :=
      build_of_passing notManual symbols names modes known unshadowed distinct
    rw [built]
    exact congrArg Except.ok (Legend.ext (held'.trans held.symm) (keyed'.trans keyed.symm))

theorem entries_of_build (built : build entries phrasings = .ok g) : g.entries = entries := by
  obtain ⟨-, -, -, -, -, -, -, held, -⟩ := (build_eq_ok_iff entries phrasings g).mp built
  exact held

theorem phrasings_of_build (built : build entries phrasings = .ok g) :
    g.phrasings = phrasings.map fun q => (key q.1, target entries q.2) := by
  obtain ⟨-, -, -, -, -, -, -, -, keyed⟩ := (build_eq_ok_iff entries phrasings g).mp built
  exact keyed

/-- In a list whose keys are distinct, looking a key up finds the one pair with that key. -/
private theorem lookup_eq_some_iff_mem {l : List (String × Nat)} (distinct : (l.map (·.1)).Nodup)
    {k : String} {i : Nat} : l.lookup k = some i ↔ (k, i) ∈ l := by
  have sound : ∀ {j}, l.lookup k = some j → (k, j) ∈ l := by
    intro j found
    obtain ⟨l₁, l₂, split, -⟩ := List.lookup_eq_some_iff.mp found
    simp [split]
  refine ⟨sound, fun member => ?_⟩
  obtain ⟨j, found⟩ : ∃ j, l.lookup k = some j :=
    Option.isSome_iff_exists.mp (List.lookup_isSome_iff.mpr ⟨(k, i), member, by simp⟩)
  have same := List.inj_on_of_nodup_map distinct (sound found) member rfl
  rw [found, (Prod.mk.inj same).2]

/-- Two positions of a list whose images under `f` are distinct, with the same image, are one. -/
private theorem eq_of_nodup_map {β : Type} {l : List LegendEntry} {f : LegendEntry → β}
    (distinct : (l.map f).Nodup) {i j : Nat} (iBound : i < l.length) (jBound : j < l.length)
    (same : f l[i] = f l[j]) : i = j := by
  have iMapped : i < (l.map f).length := by simpa using iBound
  have jMapped : j < (l.map f).length := by simpa using jBound
  have sameImage : (l.map f)[i] = (l.map f)[j] := by simpa using same
  exact distinct.getElem_inj_iff.mp sameImage

theorem indexOf_entry_mode {i : Nat} (bound : i < g.entries.length) :
    g.indexOf (g.entry i).mode = some i := by
  rw [entry_eq_getElem bound, indexOf, List.findIdx?_eq_some_iff_getElem]
  refine ⟨bound, by simp, fun j earlier same => ?_⟩
  have jBound : j < g.entries.length := by omega
  exact absurd (eq_of_nodup_map g.consistent.modes jBound bound (by simpa using same)) (by omega)

theorem indexOf_eq_none {m : AddrMode} (absent : ∀ e ∈ g.entries, e.mode ≠ m) :
    g.indexOf m = none := by
  simpa [indexOf] using absent

/-- A description resolves to an entry exactly when its key is the entry's lowercased name or
the key of a phrasing of the entry: the two maps never compete. -/
theorem resolve_eq_ok_iff (d : String) (i : Nat) :
    g.resolve d = .ok i ↔
      (i < g.entries.length ∧ lower (g.entry i).name = key d) ∨ (key d, i) ∈ g.phrasings := by
  have byEntry : (i < g.entries.length ∧ lower (g.entry i).name = key d) ↔
      ∃ bound : i < g.entries.length, lower g.entries[i].name = key d :=
    ⟨fun ⟨bound, named⟩ => ⟨bound, by rwa [entry_eq_getElem bound] at named⟩,
      fun ⟨bound, named⟩ => ⟨bound, by rwa [entry_eq_getElem bound]⟩⟩
  rw [byEntry]
  simp only [resolve]
  cases byName : g.entries.findIdx? (fun e => lower e.name == key d) with
  | some j =>
      obtain ⟨bound, named, -⟩ := List.findIdx?_eq_some_iff_getElem.mp byName
      have named : lower g.entries[j].name = key d := by simpa using named
      simp only [Except.ok.injEq]
      constructor
      · rintro rfl
        exact .inl ⟨bound, named⟩
      · rintro (⟨bound', named'⟩ | phrased)
        · exact (eq_of_nodup_map g.consistent.names bound' bound (named'.trans named.symm)).symm
        · exact absurd named (g.consistent.unshadowed _ phrased _ (List.getElem_mem bound))
  | none =>
      have unnamed : ∀ e ∈ g.entries, lower e.name ≠ key d := by simpa using byName
      have noName : ¬∃ bound : i < g.entries.length, lower g.entries[i].name = key d :=
        fun ⟨bound, named⟩ => unnamed _ (List.getElem_mem bound) named
      simp only [noName, false_or, ← lookup_eq_some_iff_mem g.consistent.keys]
      cases g.phrasings.lookup (key d) <;> simp

/-- The lookups of a legend that `build` accepted. Each entry is found by its mode; each
phrasing resolves to an entry with its symbol; a mode that no entry has, `manual` among them,
is not found. No phrasing key is a lowercased name, so `resolve` finds a description through
either map alike. An entry's name resolves to the entry exactly when lowercasing the trimmed
name gives the lowercased name, or a phrasing with the trimmed key points at the entry; a name
without surrounding white space always does. -/
theorem build_lookup_laws (entries : List LegendEntry) (phrasings : List (String × String))
    (g : Legend) (built : build entries phrasings = .ok g) :
    (∀ i < entries.length, g.indexOf (g.entry i).mode = some i) ∧
    (∀ i < entries.length, g.resolve (g.entry i).name = .ok i ↔
      lower (g.entry i).name = key (g.entry i).name ∨ (key (g.entry i).name, i) ∈ g.phrasings) ∧
    (∀ i < entries.length, trim (g.entry i).name = (g.entry i).name →
      g.resolve (g.entry i).name = .ok i) ∧
    (∀ q ∈ phrasings, ∃ j < entries.length, g.resolve q.1 = .ok j ∧ (g.entry j).symbol = q.2) ∧
    (∀ m, (∀ e ∈ entries, e.mode ≠ m) → g.indexOf m = none) ∧ g.indexOf .manual = none ∧
    (∀ e ∈ entries, ∀ q ∈ g.phrasings, lower e.name ≠ q.1) ∧
    (∀ d i, g.resolve d = .ok i ↔
      (i < entries.length ∧ lower (g.entry i).name = key d) ∨ (key d, i) ∈ g.phrasings) := by
  obtain ⟨-, -, -, -, known, -, -, held, keyed⟩ := (build_eq_ok_iff entries phrasings g).mp built
  subst held
  refine ⟨fun i bound => indexOf_entry_mode bound, fun i bound => ?_, fun i bound trimmed => ?_,
    fun q member => ?_, fun m absent => indexOf_eq_none absent,
    indexOf_eq_none g.consistent.notManual,
    fun e entry q phrased => g.consistent.unshadowed q phrased e entry, resolve_eq_ok_iff⟩
  · simp only [resolve_eq_ok_iff, bound, true_and]
  · rw [resolve_eq_ok_iff]
    exact .inl ⟨bound, by rw [key, trimmed]⟩
  · obtain ⟨bound, symbol⟩ := target_lt (known q member)
    have phrased : (key q.1, target g.entries q.2) ∈ g.phrasings := by
      rw [keyed]
      exact List.mem_map_of_mem member
    refine ⟨target g.entries q.2, bound, (resolve_eq_ok_iff _ _).mpr (.inr phrased), ?_⟩
    rwa [entry_eq_getElem bound]

def single (e : LegendEntry) (notManual : e.mode ≠ .manual) : Legend where
  entries := [e]
  phrasings := []
  consistent := ⟨by simpa using notManual, List.nodup_singleton _, List.nodup_singleton _,
    List.nodup_singleton _, List.nodup_nil, by simp, by simp⟩

/-- The legend of one entry for the immediate mode of the accumulator's width. -/
def immediateLegend : Legend := single ⟨"#A", "Immediate", .immediateMemory⟩ (by decide)

/-- The legend of one entry whose name has a leading space. -/
def paddedLegend : Legend := single ⟨"d", " Direct", .directPage⟩ (by decide)

/-- The padded legend is accepted, and the laws above hold of it. -/
theorem build_lookup_laws_padded_name :
    build [⟨"d", " Direct", .directPage⟩] [] = .ok paddedLegend ∧
    (∀ i < [(⟨"d", " Direct", .directPage⟩ : LegendEntry)].length,
      indexOf paddedLegend (entry paddedLegend i).mode = some i) ∧
    (∀ i < [(⟨"d", " Direct", .directPage⟩ : LegendEntry)].length,
      resolve paddedLegend (entry paddedLegend i).name = .ok i ↔
        lower (entry paddedLegend i).name = key (entry paddedLegend i).name ∨
          (key (entry paddedLegend i).name, i) ∈ paddedLegend.phrasings) ∧
    (∀ i < [(⟨"d", " Direct", .directPage⟩ : LegendEntry)].length,
      trim (entry paddedLegend i).name = (entry paddedLegend i).name →
        resolve paddedLegend (entry paddedLegend i).name = .ok i) ∧
    (∀ q ∈ ([] : List (String × String)),
      ∃ j < [(⟨"d", " Direct", .directPage⟩ : LegendEntry)].length,
        resolve paddedLegend q.1 = .ok j ∧ (entry paddedLegend j).symbol = q.2) ∧
    (∀ m, (∀ e ∈ [(⟨"d", " Direct", .directPage⟩ : LegendEntry)], e.mode ≠ m) →
      indexOf paddedLegend m = none) ∧
    indexOf paddedLegend .manual = none ∧
    (∀ e ∈ [(⟨"d", " Direct", .directPage⟩ : LegendEntry)],
      ∀ q ∈ paddedLegend.phrasings, lower e.name ≠ q.1) ∧
    (∀ d i, resolve paddedLegend d = .ok i ↔
      (i < [(⟨"d", " Direct", .directPage⟩ : LegendEntry)].length ∧
          lower (entry paddedLegend i).name = key d) ∨
        (key d, i) ∈ paddedLegend.phrasings) :=
  ⟨rfl, build_lookup_laws _ _ _ rfl⟩

/-- The position `indexOf` finds is an entry's, and that entry has the mode looked for. -/
theorem indexOf_eq_some {m : AddrMode} {i : Nat} (found : g.indexOf m = some i) :
    i < g.entries.length ∧ (g.entry i).mode = m := by
  obtain ⟨bound, same, -⟩ := List.findIdx?_eq_some_iff_getElem.mp found
  exact ⟨bound, by rw [entry_eq_getElem bound]; simpa using same⟩

theorem resolve_lt {d : String} {i : Nat} (resolved : g.resolve d = .ok i) :
    i < g.entries.length := by
  rcases (resolve_eq_ok_iff d i).mp resolved with ⟨bound, -⟩ | phrased
  · exact bound
  · exact g.consistent.targets _ phrased

end Legend

end W65816
