import W65816.Fault
import W65816.Text.Space
import W65816.Text.Lower

set_option autoImplicit false

/-!
# The addressing-mode legend

A legend names the addressing modes a listing may use. Each entry has a short symbol (`d,x`),
a name (`Direct indexed,X`) and the mode it stands for; phrasings map the other wordings
that listings use (`dp indexed,x`) to an entry's symbol.

`Legend.build` accepts entries and phrasings only when they are consistent:

- no entry is `manual`; symbols, names up to case, and modes are pairwise distinct;
- every phrasing targets a symbol of an entry, is not itself a name, and differs from the
  other phrasings once trimmed and lowercased.

It reports the first violation, entries before phrasings, in list order, and for each entry in
the order above. A legend carries what `build` checked (`Legend.Consistent`), so no legend
breaks the checks and later proofs read the facts off it. `Legend.resolve` looks a description
up by its trimmed, lowercased form, names before phrasings; `Legend.indexOf` finds the entry of
a mode.
-/

namespace W65816

open W65816.Text

/-- One addressing mode as a legend names it. -/
structure LegendEntry where
  symbol : String
  name : String
  mode : AddrMode
  deriving DecidableEq, Repr, Inhabited

/-- What `build` checks of a legend, stated of its entries and its keyed phrasings. -/
structure Legend.Consistent (entries : List LegendEntry) (phrasings : List (String × Nat)) : Prop where
  notManual : ∀ e ∈ entries, e.mode ≠ .manual
  symbols : (entries.map (·.symbol)).Nodup
  names : (entries.map (lower ·.name)).Nodup
  modes : (entries.map (·.mode)).Nodup
  keys : (phrasings.map (·.1)).Nodup
  unshadowed : ∀ q ∈ phrasings, ∀ e ∈ entries, lower e.name ≠ q.1
  targets : ∀ q ∈ phrasings, q.2 < entries.length

/-- A consistent legend: its entries, and each phrasing's key with the position of the entry
it means. -/
@[ext]
structure Legend where
  entries : List LegendEntry
  phrasings : List (String × Nat)
  consistent : Legend.Consistent entries phrasings

namespace Legend

/-- The form under which descriptions and phrasings are compared. -/
def key (s : String) : String := lower (trim s)

/-- The first inconsistency among `es`, given the symbols, lowercased names and modes of the
entries before them. -/
def entryFault (symbols names : List String) (modes : List AddrMode) :
    List LegendEntry → Option Fault
  | [] => none
  | e :: es =>
    if e.mode = .manual then some (.manualInLegend e.symbol)
    else if e.symbol ∈ symbols then some (.duplicateSymbol e.symbol)
    else if lower e.name ∈ names then some (.duplicateName e.name)
    else if e.mode ∈ modes then some (.duplicateMode e.mode)
    else entryFault (e.symbol :: symbols) (lower e.name :: names) (e.mode :: modes) es

theorem entryFault_eq_none_iff (symbols names : List String) (modes : List AddrMode)
    (es : List LegendEntry) :
    entryFault symbols names modes es = none ↔
      (∀ e ∈ es, e.mode ≠ .manual) ∧
      (∀ e ∈ es, e.symbol ∉ symbols) ∧ (es.map (·.symbol)).Nodup ∧
      (∀ e ∈ es, lower e.name ∉ names) ∧ (es.map (lower ·.name)).Nodup ∧
      (∀ e ∈ es, e.mode ∉ modes) ∧ (es.map (·.mode)).Nodup := by
  induction es generalizing symbols names modes with
  | nil => simp [entryFault]
  | cons e es inductionHypothesis =>
      simp only [entryFault]
      by_cases manual : e.mode = .manual
      · simp [manual]
      rw [if_neg manual]
      by_cases symbolSeen : e.symbol ∈ symbols
      · rw [if_pos symbolSeen]
        simp only [reduceCtorEq, false_iff]
        rintro ⟨-, fresh, -⟩
        exact fresh e List.mem_cons_self symbolSeen
      rw [if_neg symbolSeen]
      by_cases nameSeen : lower e.name ∈ names
      · rw [if_pos nameSeen]
        simp only [reduceCtorEq, false_iff]
        rintro ⟨-, -, -, fresh, -⟩
        exact fresh e List.mem_cons_self nameSeen
      rw [if_neg nameSeen]
      by_cases modeSeen : e.mode ∈ modes
      · rw [if_pos modeSeen]
        simp only [reduceCtorEq, false_iff]
        rintro ⟨-, -, -, -, -, fresh, -⟩
        exact fresh e List.mem_cons_self modeSeen
      -- `e` passed; the rest is checked against it as well as against what came before
      rw [if_neg modeSeen, inductionHypothesis]
      simp only [List.mem_cons, List.map_cons, List.nodup_cons, List.mem_map]
      grind

/-- Key each phrasing to the entry of its symbol, after the phrasings already keyed in `done`;
the first inconsistency stops. -/
def keyPhrasings (entries : List LegendEntry) :
    List (String × Nat) → List (String × String) → Except Fault (List (String × Nat))
  | done, [] => .ok done.reverse
  | done, (phrase, symbol) :: rest =>
    match entries.findIdx? (·.symbol == symbol) with
    | none => .error (.unknownTarget phrase symbol)
    | some i =>
      if entries.any (fun e => lower e.name == key phrase) then .error (.shadowedName phrase)
      else if done.any (·.1 == key phrase) then .error (.duplicatePhrase phrase)
      else keyPhrasings entries ((key phrase, i) :: done) rest

/-- The position of the first entry with a symbol, where a phrasing of that symbol points. -/
def target (entries : List LegendEntry) (symbol : String) : Nat :=
  (entries.findIdx? (·.symbol == symbol)).getD 0


theorem keyPhrasings_eq_ok_iff (entries : List LegendEntry) (done : List (String × Nat))
    (ps : List (String × String)) (keyed : List (String × Nat)) :
    keyPhrasings entries done ps = .ok keyed ↔
      (∀ q ∈ ps, ∃ e ∈ entries, e.symbol = q.2) ∧
      (∀ q ∈ ps, ∀ e ∈ entries, lower e.name ≠ key q.1) ∧
      (∀ q ∈ ps, key q.1 ∉ done.map (·.1)) ∧ (ps.map (key ·.1)).Nodup ∧
      keyed = done.reverse ++ ps.map fun q => (key q.1, target entries q.2) := by
  induction ps generalizing done with
  | nil => simp [keyPhrasings, eq_comm]
  | cons q ps inductionHypothesis =>
      obtain ⟨phrase, symbol⟩ := q
      simp only [keyPhrasings]
      cases found : entries.findIdx? (·.symbol == symbol) with
      | none =>
          have unknown : ∀ e ∈ entries, e.symbol ≠ symbol := by simpa using found
          simp only [reduceCtorEq, false_iff, not_and]
          intro known
          obtain ⟨e, member, same⟩ := known (phrase, symbol) List.mem_cons_self
          exact absurd same (unknown e member)
      | some i =>
          have located : target entries symbol = i := by simp [target, found]
          have known : ∃ e ∈ entries, e.symbol = symbol := by
            obtain ⟨bound, same, -⟩ := List.findIdx?_eq_some_iff_getElem.mp found
            exact ⟨entries[i], List.getElem_mem bound, by simpa using same⟩
          by_cases shadowed : entries.any (fun e => lower e.name == key phrase)
          · have ⟨e, member, same⟩ : ∃ e ∈ entries, lower e.name = key phrase := by
              simpa using shadowed
            simp only [shadowed, if_true, reduceCtorEq, false_iff, not_and]
            intro _ unshadowed
            exact absurd same (unshadowed (phrase, symbol) List.mem_cons_self e member)
          · by_cases repeated : done.any (·.1 == key phrase)
            · have seen : key phrase ∈ done.map (·.1) := by simpa using repeated
              simp only [shadowed, repeated, if_true, Bool.false_eq_true, if_false, reduceCtorEq,
                false_iff, not_and]
              intro _ _ fresh
              exact absurd seen (fresh (phrase, symbol) List.mem_cons_self)
            · have unshadowed : ∀ e ∈ entries, lower e.name ≠ key phrase := by simpa using shadowed
              have fresh : key phrase ∉ done.map (·.1) := by simpa using repeated
              simp only [shadowed, repeated, Bool.false_eq_true, if_false, inductionHypothesis,
                List.map_cons, List.nodup_cons, List.reverse_cons, List.append_assoc,
                List.singleton_append, located, List.mem_cons, not_or]
              grind


theorem target_lt {entries : List LegendEntry} {symbol : String}
    (known : ∃ e ∈ entries, e.symbol = symbol) :
    ∃ bound : target entries symbol < entries.length, entries[target entries symbol].symbol = symbol := by
  obtain ⟨j, found⟩ : ∃ j, entries.findIdx? (·.symbol == symbol) = some j :=
    Option.isSome_iff_exists.mp (by simpa using known)
  obtain ⟨bound, same, -⟩ := List.findIdx?_eq_some_iff_getElem.mp found
  have located : target entries symbol = j := by simp [target, found]
  subst located
  exact ⟨bound, by simpa using same⟩


/-- Entries and phrasings that pass the checks make a consistent legend. -/
theorem consistent_of_checks {entries : List LegendEntry} {phrasings : List (String × String)}
    {keyed : List (String × Nat)} (checked : entryFault [] [] [] entries = none)
    (passed : keyPhrasings entries [] phrasings = .ok keyed) : Consistent entries keyed := by
  obtain ⟨notManual, -, symbols, -, names, -, modes⟩ :=
    (entryFault_eq_none_iff [] [] [] entries).mp checked
  obtain ⟨known, unshadowed, -, distinct, rfl⟩ :=
    (keyPhrasings_eq_ok_iff entries [] phrasings keyed).mp passed
  refine ⟨notManual, symbols, names, modes, by simpa [Function.comp_def] using distinct, ?_, ?_⟩
  · simp only [List.reverse_nil, List.nil_append, List.mem_map]
    rintro _ ⟨q, member, rfl⟩ e entry
    exact unshadowed q member e entry
  · simp only [List.reverse_nil, List.nil_append, List.mem_map]
    rintro _ ⟨q, member, rfl⟩
    exact (target_lt (known q member)).1

/-- The legend of `entries` and `phrasings` (phrase, symbol), if they are consistent. -/
def build (entries : List LegendEntry) (phrasings : List (String × String)) :
    Except Fault Legend :=
  match checked : entryFault [] [] [] entries with
  | some f => .error f
  | none =>
    match passed : keyPhrasings entries [] phrasings with
    | .error f => .error f
    | .ok keyed => .ok ⟨entries, keyed, consistent_of_checks checked passed⟩

/-- The position of the entry a description means: names first, then phrasings. -/
def resolve (g : Legend) (description : String) : Except Fault Nat :=
  let k := key description
  match g.entries.findIdx? (fun e => lower e.name == k) with
  | some i => .ok i
  | none =>
    match g.phrasings.lookup k with
    | some i => .ok i
    | none => .error (.unresolved (trim description))

/-- The position of the entry of a mode. -/
def indexOf (g : Legend) (m : AddrMode) : Option Nat := g.entries.findIdx? (·.mode == m)

/-- The entry at a position (a default one past the end). -/
def entry (g : Legend) (i : Nat) : LegendEntry := g.entries.getD i default

@[simp]
theorem entry_eq_getElem {g : Legend} {i : Nat} (bound : i < g.entries.length) :
    g.entry i = g.entries[i] := by
  simp [entry, bound]

end Legend

end W65816
