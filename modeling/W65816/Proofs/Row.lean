import Mathlib.Tactic.SplitIfs
import W65816.Listing

set_option autoImplicit false

/-!
# The syntax of a listing row

The fields of a row are read by two grammars, stated here on their own: a syntax field
`OpensWithLetters` a run of ASCII letters after its white space, and an opcode field
`SpellsByte` a byte as white space, an optional `0x`, `0X` or `$`, two hexadecimal digits of
either case, and white space. `mnemonicOf` and `opcodeOf` accept exactly these grammars
(`mnemonicOf_eq_some_iff`, `opcodeOf_eq_some_iff`).

So `Row.parse` reports, in this order, a row of fewer than five fields, a syntax field with no
letter after its white space, and an opcode field that spells no byte, each as a syntax fault
that carries the row and names its line (`row_syntax_checks`). Any other row has the fields
the grammars read, trimmed alias and description, and fails, if it fails, only at its mode.
-/

namespace W65816

open W65816.Text

/-! ## Character classes -/

theorem Char.le_iff_toNat_le (a c : Char) : a ≤ c ↔ a.toNat ≤ c.toNat := by
  simp only [Char.le_def, UInt32.le_iff_toNat_le, Char.toNat_val]

theorem isWhite_eq_false_of_printable {c : Char} (above : 33 ≤ c.toNat) (below : c.toNat ≤ 126) :
    isWhite c = false := by
  unfold isWhite
  simp only [Bool.or_eq_false_iff, Bool.and_eq_false_iff, beq_eq_false_iff_ne,
    decide_eq_false_iff_not]
  omega

/-- The characters `hexValue` reads are the digits `0`–`9`, `A`–`F` and `a`–`f`, and their
values are below sixteen. -/
theorem hexValue_eq_some {c : Char} {v : Nat} (read : hexValue c = some v) :
    v < 16 ∧ (48 ≤ c.toNat ∧ c.toNat ≤ 57 ∨ 65 ≤ c.toNat ∧ c.toNat ≤ 70 ∨
      97 ≤ c.toNat ∧ c.toNat ≤ 102) := by
  unfold hexValue at read
  simp only [Bool.and_eq_true, decide_eq_true_eq, Char.le_iff_toNat_le, Char.reduceToNat] at read
  split_ifs at read with decimal upper lower <;> simp only [Option.some.injEq] at read
  all_goals omega

/-- A hexadecimal digit is no white space, and none of the characters of a marker after a
leading `0`. -/
theorem hexValue_digit {c : Char} {v : Nat} (read : hexValue c = some v) :
    isWhite c = false ∧ c ≠ '$' ∧ c ≠ 'x' ∧ c ≠ 'X' := by
  obtain ⟨-, range⟩ := hexValue_eq_some read
  have codes : c.toNat ≠ 36 ∧ c.toNat ≠ 120 ∧ c.toNat ≠ 88 := by omega
  refine ⟨isWhite_eq_false_of_printable (by omega) (by omega), ?_, ?_, ?_⟩ <;>
    rintro rfl <;> simp at codes

theorem isAsciiLetter_not_white {c : Char} (letter : isAsciiLetter c = true) :
    isWhite c = false := by
  unfold isAsciiLetter at letter
  simp only [Bool.or_eq_true, Bool.and_eq_true, decide_eq_true_eq, Char.le_iff_toNat_le,
    Char.reduceToNat] at letter
  exact isWhite_eq_false_of_printable (by omega) (by omega)

/-- White space before a text that does not open with white space is all `dropWhite`
removes. -/
theorem dropWhite_white_append {lead rest : List Char} (white : ∀ c ∈ lead, isWhite c)
    (opening : ∀ c ∈ rest.head?, isWhite c = false) : dropWhite (lead ++ rest) = rest := by
  rw [dropWhite, List.dropWhile_append_of_pos white]
  cases rest with
  | nil => rfl
  | cons c cs => exact List.dropWhile_cons_of_neg (by simpa using opening)

theorem takeWhite_append_dropWhite (cs : List Char) :
    cs = cs.takeWhile isWhite ++ dropWhite cs := (List.takeWhile_append_dropWhile).symm

theorem mem_takeWhile_white {cs : List Char} : ∀ c ∈ cs.takeWhile isWhite, isWhite c :=
  List.all_eq_true.mp List.all_takeWhile

/-! ## The syntax field -/

/-- A syntax field opens with `letters`: white space, then `letters`, all ASCII letters, and
no letter after them. -/
def OpensWithLetters (field letters : List Char) : Prop :=
  ∃ lead rest, field = lead ++ letters ++ rest ∧ (∀ c ∈ lead, isWhite c) ∧ letters ≠ [] ∧
    (∀ c ∈ letters, isAsciiLetter c) ∧ ∀ c ∈ rest.head?, isAsciiLetter c = false

/-- The first character of a syntax field after its white space is an ASCII letter. -/
def OpensWithLetter (field : List Char) : Prop :=
  ∃ lead c rest, field = lead ++ c :: rest ∧ (∀ x ∈ lead, isWhite x) ∧ isAsciiLetter c

theorem opensWithLetter_iff (field : List Char) :
    OpensWithLetter field ↔ ∃ c rest, dropWhite field = c :: rest ∧ isAsciiLetter c := by
  constructor
  · rintro ⟨lead, c, rest, rfl, white, letter⟩
    refine ⟨c, rest, dropWhite_white_append white ?_, letter⟩
    simpa using isAsciiLetter_not_white letter
  · rintro ⟨c, rest, dropped, letter⟩
    refine ⟨field.takeWhile isWhite, c, rest, ?_, mem_takeWhile_white, letter⟩
    rw [← dropped]
    exact takeWhite_append_dropWhite field

theorem mnemonicOf_eq_none_iff (field : String) :
    mnemonicOf field = none ↔ ¬OpensWithLetter field.toList := by
  rw [opensWithLetter_iff, mnemonicOf]
  cases dropped : dropWhite field.toList with
  | nil => simp
  | cons c rest =>
      by_cases letter : isAsciiLetter c <;> simp [letter]

theorem mnemonicOf_eq_some_iff (field : String) (m : String) :
    mnemonicOf field = some m ↔
      ∃ letters, OpensWithLetters field.toList letters ∧ m = String.ofList (letters.map Char.toUpper) := by
  constructor
  · intro read
    unfold mnemonicOf at read
    cases run : (dropWhite field.toList).takeWhile isAsciiLetter with
    | nil => simp [run] at read
    | cons c cs =>
        simp only [run, Option.some.injEq] at read
        refine ⟨c :: cs, ⟨field.toList.takeWhile isWhite,
          (dropWhite field.toList).dropWhile isAsciiLetter, ?_, mem_takeWhile_white, by simp, ?_, ?_⟩,
          read.symm⟩
        · rw [← run, List.append_assoc, List.takeWhile_append_dropWhile]
          exact takeWhite_append_dropWhite field.toList
        · rw [← run]
          exact List.all_eq_true.mp List.all_takeWhile
        · intro x first
          have stops := List.head?_dropWhile_not isAsciiLetter (dropWhite field.toList)
          rw [first] at stops
          simpa using stops
  · rintro ⟨letters, ⟨lead, rest, split, white, nonempty, allLetters, stop⟩, rfl⟩
    have opening : ∀ c ∈ (letters ++ rest).head?, isWhite c = false := by
      obtain ⟨c, cs, rfl⟩ := List.exists_cons_of_ne_nil nonempty
      simpa using isAsciiLetter_not_white (allLetters c List.mem_cons_self)
    have run : (letters ++ rest).takeWhile isAsciiLetter = letters := by
      rw [List.takeWhile_append_of_pos allLetters]
      cases rest with
      | nil => simp
      | cons c cs => simp [by simpa using stop]
    rw [mnemonicOf, split, List.append_assoc, dropWhite_white_append white opening, run]
    cases letters with
    | nil => exact absurd rfl nonempty
    | cons c cs => rfl

/-! ## The opcode field -/

/-- What may stand before the two digits of an opcode. -/
def hexMarkers : List (List Char) := [[], ['0', 'x'], ['0', 'X'], ['$']]

/-- An opcode field spells the byte `b`: white space, one of `hexMarkers`, two hexadecimal
digits of either case that denote `b`, white space. -/
def SpellsByte (field : List Char) (b : Opcode) : Prop :=
  ∃ lead marker high low trail, field = lead ++ marker ++ high :: low :: trail ∧
    (∀ c ∈ lead, isWhite c) ∧ marker ∈ hexMarkers ∧ (∀ c ∈ trail, isWhite c) ∧
    ∃ x y, hexValue high = some x ∧ hexValue low = some y ∧ b.val = 16 * x + y

theorem dropHexPrefix_marked (cs : List Char) :
    ∃ marker ∈ hexMarkers, cs = marker ++ dropHexPrefix cs := by
  unfold dropHexPrefix
  split <;> simp [hexMarkers]

theorem dropHexPrefix_of_marker {marker : List Char} (known : marker ∈ hexMarkers) {high low : Char}
    {x y : Nat} (highDigit : hexValue high = some x) (lowDigit : hexValue low = some y)
    (trail : List Char) : dropHexPrefix (marker ++ high :: low :: trail) = high :: low :: trail := by
  obtain ⟨-, highDollar, -, -⟩ := hexValue_digit highDigit
  obtain ⟨-, -, lowSmallX, lowLargeX⟩ := hexValue_digit lowDigit
  simp only [hexMarkers, List.mem_cons, List.not_mem_nil, or_false] at known
  rcases known with rfl | rfl | rfl | rfl
  all_goals unfold dropHexPrefix
  all_goals split <;> simp_all

theorem Opcode.ofByte_digits {x y : Nat} (highBound : x < 16) (lowBound : y < 16) :
    (Opcode.ofByte (16 * x + y)).val = 16 * x + y := by
  simp only [Opcode.ofByte]
  omega

theorem opcodeOf_eq_some_iff (field : String) (b : Opcode) :
    opcodeOf field = some b ↔ SpellsByte field.toList b := by
  constructor
  · intro read
    obtain ⟨marker, known, marked⟩ := dropHexPrefix_marked (dropWhite field.toList)
    unfold opcodeOf at read
    split at read
    · next high low trail digits =>
        split_ifs at read with blank
        cases highDigit : hexValue high with
        | none => simp [highDigit] at read
        | some x =>
            cases lowDigit : hexValue low with
            | none => simp [highDigit, lowDigit] at read
            | some y =>
                simp only [highDigit, lowDigit, Option.some.injEq] at read
                subst read
                refine ⟨field.toList.takeWhile isWhite, marker, high, low, trail, ?_,
                  mem_takeWhile_white, known, by simpa using blank, x, y, highDigit, lowDigit,
                  Opcode.ofByte_digits (hexValue_eq_some highDigit).1 (hexValue_eq_some lowDigit).1⟩
                rw [List.append_assoc, ← digits, ← marked]
                exact takeWhite_append_dropWhite field.toList
    · simp at read
  · rintro ⟨lead, marker, high, low, trail, split, white, known, blank, x, y, highDigit, lowDigit,
      value⟩
    have opening : ∀ c ∈ (marker ++ high :: low :: trail).head?, isWhite c = false := by
      simp only [hexMarkers, List.mem_cons, List.not_mem_nil, or_false] at known
      have zero : isWhite '0' = false := by decide
      have dollar : isWhite '$' = false := by decide
      rcases known with rfl | rfl | rfl | rfl <;> simp [(hexValue_digit highDigit).1, zero, dollar]
    have byte : Opcode.ofByte (16 * x + y) = b := by
      apply Fin.ext
      rw [Opcode.ofByte_digits (hexValue_eq_some highDigit).1 (hexValue_eq_some lowDigit).1, value]
    rw [opcodeOf, split, List.append_assoc, dropWhite_white_append white opening,
      dropHexPrefix_of_marker known highDigit lowDigit trail]
    simp [List.all_eq_true.mpr blank, highDigit, lowDigit, byte]

/-! ## Rows -/

/-- The faults of a row's mode are never syntax faults. -/
theorem modeOfRow_kind {g : Legend} {n : Nat} {s m : String} {b : Opcode} {d : String} {f : Fault}
    (failed : modeOfRow g n s m b d = .error f) : f.kind ≠ .malformedRow := by
  unfold modeOfRow at failed
  split at failed
  · split at failed
    · cases failed
      simp [Fault.kind]
    · split at failed
      · cases failed
        simp [Fault.kind]
      · cases failed
  · split at failed
    · cases failed
    · cases failed
      simp [Fault.kind]

section Parse

variable (g : Legend) (n : Nat) (s : String)

/-- Field `i` of a row, empty past the last one. -/
def rowField (i : Nat) : String := (fieldsOf s).getD i ""

theorem Row.parse_of_few_fields (few : (fieldsOf s).length < 5) :
    Row.parse g n s = .error (.tooFewFields n s (fieldsOf s).length) := by
  simp [Row.parse, show (fieldsOf s).length ≤ 4 by omega]

theorem Row.parse_of_no_mnemonic (enough : 5 ≤ (fieldsOf s).length)
    (noMnemonic : mnemonicOf (rowField s 0) = none) : Row.parse g n s = .error (.noMnemonic n s) := by
  unfold rowField at noMnemonic
  simp only [Row.parse, show ¬(fieldsOf s).length ≤ 4 by omega, ↓reduceIte, noMnemonic]

theorem Row.parse_of_bad_opcode (enough : 5 ≤ (fieldsOf s).length) {m : String}
    (mnemonic : mnemonicOf (rowField s 0) = some m) (noOpcode : opcodeOf (rowField s 3) = none) :
    Row.parse g n s = .error (.badOpcode n s (trim (rowField s 3))) := by
  unfold rowField at mnemonic noOpcode ⊢
  simp only [Row.parse, show ¬(fieldsOf s).length ≤ 4 by omega, ↓reduceIte, mnemonic, noOpcode]

/-- A row whose syntax reads is its fields, once its mode is known. -/
theorem Row.parse_of_syntax (enough : 5 ≤ (fieldsOf s).length) {m : String} {b : Opcode}
    (mnemonic : mnemonicOf (rowField s 0) = some m) (opcode : opcodeOf (rowField s 3) = some b) :
    Row.parse g n s = (modeOfRow g n s m b (trim (rowField s 4))).map fun mode =>
      { line := n, opcodeText := trim (rowField s 3), opcode := b, mnemonic := m,
        altName := trim (rowField s 1), description := trim (rowField s 4), mode } := by
  unfold rowField at mnemonic opcode ⊢
  simp only [Row.parse, show ¬(fieldsOf s).length ≤ 4 by omega, ↓reduceIte, mnemonic, opcode]
  cases modeOfRow g n s m b (trim ((fieldsOf s).getD 4 "")) <;> rfl

/-- Past its syntax checks a row fails only at its mode, never with a syntax fault. -/
theorem Row.parse_kind_of_syntax (enough : 5 ≤ (fieldsOf s).length) {m : String} {b : Opcode}
    (mnemonic : mnemonicOf (rowField s 0) = some m) (opcode : opcodeOf (rowField s 3) = some b)
    {f : Fault} (failed : Row.parse g n s = .error f) : f.kind ≠ .malformedRow := by
  rw [Row.parse_of_syntax g n s enough mnemonic opcode] at failed
  cases moded : modeOfRow g n s m b (trim (rowField s 4)) with
  | error f' =>
      rw [moded] at failed
      cases failed
      exact modeOfRow_kind moded
  | ok mode =>
      rw [moded] at failed
      cases failed

end Parse

/-- The checks of a row's syntax, in order: at least five tab-separated fields, a letter after
the white space of the syntax field, a byte spelled by the opcode field. A row that fails one
fails with a syntax fault that carries the row and names its line. A row that passes them has
the mnemonic the letters make in upper case, the byte, and its alias, description and opcode
fields trimmed, and fails, if it fails, only at its mode; the fields after the fifth play no
part. Every byte written with two digits of either case, with or without `0x`, `0X` or `$` and
white space around, reads back as itself. -/
theorem row_syntax_checks (g : Legend) (n : Nat) (s : String) :
    ((fieldsOf s).length < 5 → Row.parse g n s = .error (.tooFewFields n s (fieldsOf s).length)) ∧
    (5 ≤ (fieldsOf s).length → ¬OpensWithLetter (rowField s 0).toList →
      Row.parse g n s = .error (.noMnemonic n s)) ∧
    (5 ≤ (fieldsOf s).length → OpensWithLetter (rowField s 0).toList →
      (∀ b, ¬SpellsByte (rowField s 3).toList b) →
      Row.parse g n s = .error (.badOpcode n s (trim (rowField s 3)))) ∧
    (∀ f, Row.parse g n s = .error f → f.kind = .malformedRow →
      f.context = some s ∧ ∃ detail, f.message = Fault.syntaxHeading n ++ detail) ∧
    (∀ letters b, 5 ≤ (fieldsOf s).length → OpensWithLetters (rowField s 0).toList letters →
      SpellsByte (rowField s 3).toList b →
      Row.parse g n s =
        (modeOfRow g n s (String.ofList (letters.map Char.toUpper)) b (trim (rowField s 4))).map
          (fun mode =>
            { line := n, opcodeText := trim (rowField s 3), opcode := b,
              mnemonic := String.ofList (letters.map Char.toUpper), altName := trim (rowField s 1),
              description := trim (rowField s 4), mode }) ∧
      ∀ f, Row.parse g n s = .error f → f.kind ≠ .malformedRow) ∧
    (∀ (b : Opcode) (lead marker trail : List Char) (high low : Char), (∀ c ∈ lead, isWhite c) →
      marker ∈ hexMarkers → hexValue high = some (b.val / 16) → hexValue low = some (b.val % 16) →
      (∀ c ∈ trail, isWhite c) →
      opcodeOf (String.ofList (lead ++ marker ++ high :: low :: trail)) = some b) := by
  refine ⟨Row.parse_of_few_fields g n s, fun enough noLetter => ?_,
    fun enough letter noByte => ?_, fun f failed syntaxFault => ?_,
    fun letters b enough letters' byte => ?_, fun b lead marker trail high low white known
      highDigit lowDigit blank => ?_⟩
  · exact Row.parse_of_no_mnemonic g n s enough ((mnemonicOf_eq_none_iff _).mpr noLetter)
  · obtain ⟨m, mnemonic⟩ : ∃ m, mnemonicOf (rowField s 0) = some m := by
      cases read : mnemonicOf (rowField s 0) with
      | none => exact absurd letter ((mnemonicOf_eq_none_iff _).mp read)
      | some m => exact ⟨m, rfl⟩
    have noOpcode : opcodeOf (rowField s 3) = none := by
      cases read : opcodeOf (rowField s 3) with
      | none => rfl
      | some b => exact absurd ((opcodeOf_eq_some_iff _ b).mp read) (noByte b)
    exact Row.parse_of_bad_opcode g n s enough mnemonic noOpcode
  · -- only the three syntax checks give syntax faults; the mode's faults are of other kinds
    by_cases few : (fieldsOf s).length < 5
    · rw [Row.parse_of_few_fields g n s few] at failed
      cases failed
      exact ⟨rfl, _, String.append_assoc ..⟩
    cases mnemonic : mnemonicOf (rowField s 0) with
    | none =>
        rw [Row.parse_of_no_mnemonic g n s (by omega) mnemonic] at failed
        cases failed
        exact ⟨rfl, _, rfl⟩
    | some m =>
        cases opcode : opcodeOf (rowField s 3) with
        | none =>
            rw [Row.parse_of_bad_opcode g n s (by omega) mnemonic opcode] at failed
            cases failed
            exact ⟨rfl, _, String.append_assoc ..⟩
        | some b =>
            exact absurd syntaxFault (Row.parse_kind_of_syntax g n s (by omega) mnemonic opcode failed)
  · have mnemonic := (mnemonicOf_eq_some_iff _ _).mpr ⟨letters, letters', rfl⟩
    have opcode := (opcodeOf_eq_some_iff _ b).mpr byte
    exact ⟨Row.parse_of_syntax g n s enough mnemonic opcode,
      fun f failed => Row.parse_kind_of_syntax g n s enough mnemonic opcode failed⟩
  · refine (opcodeOf_eq_some_iff _ b).mpr ⟨lead, marker, high, low, trail, by simp, white, known,
      blank, b.val / 16, b.val % 16, highDigit, lowDigit, ?_⟩
    omega

/-! ## The rows of a listing -/

/-- The mode of a row that reads: the immediate mode its mnemonic calls for, found by mode, or
its description resolved. -/
theorem modeOfRow_eq_ok {g : Legend} {n : Nat} {s m : String} {b : Opcode} {d : String} {i : Nat}
    (moded : modeOfRow g n s m b d = .ok i) :
    (isImmediateWord d = true ∧ ∃ x, immediateMode m = some x ∧ g.indexOf x = some i) ∨
      (isImmediateWord d = false ∧ g.resolve d = .ok i) := by
  unfold modeOfRow at moded
  split at moded
  · next immediate =>
      split at moded
      · cases moded
      · next x selected =>
          split at moded
          · cases moded
          · next j found =>
              cases moded
              exact .inl ⟨immediate, x, selected, found⟩
  · next notImmediate =>
      split at moded
      · next j resolved =>
          cases moded
          exact .inr ⟨by simpa using notImmediate, resolved⟩
      · cases moded

/-- A row that reads carries the mode its mnemonic and description give. -/
theorem Row.parse_eq_ok {g : Legend} {n : Nat} {s : String} {r : Row} (read : Row.parse g n s = .ok r) :
    r.line = n ∧ modeOfRow g n s r.mnemonic r.opcode r.description = .ok r.mode := by
  unfold Row.parse at read
  dsimp only at read
  split at read
  · cases read
  · split at read
    · cases read
    · split at read
      · cases read
      · split at read
        · cases read
        · next mode moded =>
            cases read
            exact ⟨rfl, moded⟩

theorem Listing.scanFrom_rows_read (g : Legend) (lines : List String) (n : Nat) :
    ∀ r ∈ (Listing.scanFrom g n lines).1, ∃ m s, Row.parse g m s = .ok r := by
  induction lines generalizing n with
  | nil => simp [Listing.scanFrom]
  | cons l ls inductionHypothesis =>
      intro r member
      unfold Listing.scanFrom at member
      dsimp only at member
      split_ifs at member
      · exact inductionHypothesis (n + 1) r member
      · split at member
        · simp at member
        · next r' read =>
            rcases List.mem_cons.mp member with rfl | later
            · exact ⟨n, _, read⟩
            · exact inductionHypothesis (n + 1) r later

theorem Listing.parse_rows_read {g : Legend} {lines : List String} {rows : List Row}
    (parsed : Listing.parse g lines = .ok rows) : ∀ r ∈ rows, ∃ m s, Row.parse g m s = .ok r := by
  unfold Listing.parse at parsed
  split at parsed
  · next scanned =>
      cases parsed
      have read := Listing.scanFrom_rows_read g lines 1
      rwa [← Listing.scan, scanned] at read
  · cases parsed

end W65816
