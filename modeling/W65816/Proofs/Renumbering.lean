import W65816.Proofs.Row

set_option autoImplicit false

/-!
# Line numbers of a listing

A row's line number shows only in the row's `line` field and in the words of its faults. Read
at another line, a row that reads is the same row renumbered (`Row.parse_renumber`), a row that
fails still fails, and every fault of a row carries the row and opens its message with the
row's line.

So reading a listing commutes with cutting it in two (`listing_parse_append`): the lines after
the cut read as they read alone, renumbered by the number of lines before the cut, skipped
lines included; a fault before the cut is the fault of the whole; and the fault of a listing is
that of its first line that is neither skipped nor read.
-/

namespace W65816

open W65816.Text

variable {g : Legend}

/-! ## Rows read at another line -/

/-- What reading a row can give: one of the three syntax faults, or, past the syntax checks,
the row its fields make once its mode is chosen. -/
theorem Row.parse_cases (g : Legend) (n : Nat) (s : String) :
    Row.parse g n s = .error (.tooFewFields n s (fieldsOf s).length) ∨
    Row.parse g n s = .error (.noMnemonic n s) ∨
    Row.parse g n s = .error (.badOpcode n s (trim (rowField s 3))) ∨
    ∃ m b, 5 ≤ (fieldsOf s).length ∧ mnemonicOf (rowField s 0) = some m ∧
      opcodeOf (rowField s 3) = some b ∧
      Row.parse g n s = (modeOfRow g n s m b (trim (rowField s 4))).map fun mode =>
        { line := n, opcodeText := trim (rowField s 3), opcode := b, mnemonic := m,
          altName := trim (rowField s 1), description := trim (rowField s 4), mode } := by
  by_cases few : (fieldsOf s).length < 5
  · exact .inl (Row.parse_of_few_fields g n s few)
  cases mnemonic : mnemonicOf (rowField s 0) with
  | none => exact .inr (.inl (Row.parse_of_no_mnemonic g n s (by omega) mnemonic))
  | some m =>
      cases opcode : opcodeOf (rowField s 3) with
      | none => exact .inr (.inr (.inl (Row.parse_of_bad_opcode g n s (by omega) mnemonic opcode)))
      | some b =>
          exact .inr (.inr (.inr ⟨m, b, by omega, rfl, rfl,
            Row.parse_of_syntax g n s (by omega) mnemonic opcode⟩))

theorem modeOfRow_renumber {n : Nat} {s m : String} {b : Opcode} {d : String} {i : Nat}
    (moded : modeOfRow g n s m b d = .ok i) (n' : Nat) : modeOfRow g n' s m b d = .ok i := by
  rcases modeOfRow_eq_ok moded with ⟨immediate, x, selected, found⟩ | ⟨plain, resolved⟩
  · simp [modeOfRow, immediate, selected, found]
  · simp [modeOfRow, plain, resolved]

/-- A row that reads at one line reads at every other, as the same row with that line. -/
theorem Row.parse_renumber {n : Nat} {s : String} {r : Row} (read : Row.parse g n s = .ok r)
    (n' : Nat) : Row.parse g n' s = .ok { r with line := n' } := by
  rcases Row.parse_cases g n s with few | noMnemonic | badOpcode | ⟨m, b, enough, mnemonic, opcode, parsed⟩
  · rw [few] at read
    cases read
  · rw [noMnemonic] at read
    cases read
  · rw [badOpcode] at read
    cases read
  · rw [parsed] at read
    rw [Row.parse_of_syntax g n' s enough mnemonic opcode]
    cases moded : modeOfRow g n s m b (trim (rowField s 4)) with
    | error f =>
        rw [moded] at read
        cases read
    | ok i =>
        rw [moded] at read
        cases read
        rw [modeOfRow_renumber moded n']
        rfl

theorem Row.parse_error_renumber {n : Nat} {s : String} {f : Fault}
    (failed : Row.parse g n s = .error f) (n' : Nat) : ∃ f', Row.parse g n' s = .error f' := by
  cases read : Row.parse g n' s with
  | error f' => exact ⟨f', rfl⟩
  | ok r =>
      have back := Row.parse_renumber read n
      rw [failed] at back
      cases back

/-- The faults of a row's mode: an immediate row whose mnemonic calls for no immediate mode, an
immediate row whose mode the legend lacks, and a description that does not resolve. -/
theorem modeOfRow_eq_error {n : Nat} {s m : String} {b : Opcode} {d : String} {f : Fault}
    (failed : modeOfRow g n s m b d = .error f) :
    (isImmediateWord d = true ∧ immediateMode m = none ∧ f = .unknownImmediate n s m b) ∨
      (isImmediateWord d = true ∧ ∃ x, immediateMode m = some x ∧ g.indexOf x = none ∧
        f = .immediateMissing n s x) ∨
      (isImmediateWord d = false ∧ ∃ e, g.resolve d = .error e ∧ f = .unresolvedRow n s b d) := by
  unfold modeOfRow at failed
  split at failed
  · next immediate =>
      split at failed
      · next unknown =>
          cases failed
          exact .inl ⟨immediate, unknown, rfl⟩
      · next x selected =>
          split at failed
          · next missing =>
              cases failed
              exact .inr (.inl ⟨immediate, x, selected, missing, rfl⟩)
          · cases failed
  · next plain =>
      split at failed
      · cases failed
      · next e unresolved =>
          cases failed
          exact .inr (.inr ⟨by simpa using plain, e, unresolved, rfl⟩)

/-- The faults of a row's mode carry the row and open with its line. -/
theorem modeOfRow_error {n : Nat} {s m : String} {b : Opcode} {d : String} {f : Fault}
    (failed : modeOfRow g n s m b d = .error f) :
    f.context = some s ∧ ∃ detail, f.message = "line " ++ toString n ++ detail := by
  rcases modeOfRow_eq_error failed with ⟨-, -, rfl⟩ | ⟨-, x, -, -, rfl⟩ | ⟨-, e, -, rfl⟩
  · refine ⟨rfl, ": unknown immediate usage for " ++ m ++ " (opcode " ++ hexByte b.val ++ ")", ?_⟩
    show "line " ++ toString n ++ ": unknown immediate usage for " ++ m ++ " (opcode " ++
      hexByte b.val ++ ")" = _
    simp only [String.append_assoc]
  · refine ⟨rfl, ": catalog has no " ++ x.tag ++ " mode", ?_⟩
    show "line " ++ toString n ++ ": catalog has no " ++ x.tag ++ " mode" = _
    simp only [String.append_assoc]
  · refine ⟨rfl, ": opcode " ++ hexByte b.val ++ ": unresolved addressing mode " ++
      ("\"" ++ d ++ "\""), ?_⟩
    show "line " ++ toString n ++ ": opcode " ++ hexByte b.val ++ ": unresolved addressing mode " ++
      ("\"" ++ d ++ "\"") = _
    simp only [String.append_assoc]

/-- Every fault of a row carries the row, and its message opens with the syntax heading of the
row's line or with the words `line` and the line. -/
theorem Row.parse_error_context {n : Nat} {s : String} {f : Fault}
    (failed : Row.parse g n s = .error f) :
    f.context = some s ∧ ∃ detail, f.message = Fault.syntaxHeading n ++ detail ∨
      f.message = "line " ++ toString n ++ detail := by
  rcases Row.parse_cases g n s with few | noMnemonic | badOpcode | ⟨m, b, -, -, -, parsed⟩
  · rw [few] at failed
    cases failed
    exact ⟨rfl, _, .inl (String.append_assoc ..)⟩
  · rw [noMnemonic] at failed
    cases failed
    exact ⟨rfl, _, .inl rfl⟩
  · rw [badOpcode] at failed
    cases failed
    exact ⟨rfl, _, .inl (String.append_assoc ..)⟩
  · rw [parsed] at failed
    cases moded : modeOfRow g n s m b (trim (rowField s 4)) with
    | error f' =>
        rw [moded] at failed
        cases failed
        obtain ⟨context, detail, opening⟩ := modeOfRow_error moded
        exact ⟨context, detail, .inr opening⟩
    | ok i =>
        rw [moded] at failed
        cases failed

/-! ## Scanning lines -/

namespace Listing

variable {n : Nat} {l : String} {ls : List String}

theorem scanFrom_nil : scanFrom g n [] = ([], none) := rfl

theorem scanFrom_cons_skipped (skipped : isSkipped (stripLineEnd l) = true) :
    scanFrom g n (l :: ls) = scanFrom g (n + 1) ls := by
  simp [scanFrom, skipped]

theorem scanFrom_cons_error (kept : isSkipped (stripLineEnd l) = false) {f : Fault}
    (failed : Row.parse g n (stripLineEnd l) = .error f) : scanFrom g n (l :: ls) = ([], some f) := by
  simp [scanFrom, kept, failed]

theorem scanFrom_cons_ok (kept : isSkipped (stripLineEnd l) = false) {r : Row}
    (read : Row.parse g n (stripLineEnd l) = .ok r) :
    scanFrom g n (l :: ls) = (r :: (scanFrom g (n + 1) ls).1, (scanFrom g (n + 1) ls).2) := by
  simp [scanFrom, kept, read]

/-- Lines that are all skipped give no row and no fault. -/
theorem scanFrom_of_skipped (skipped : ∀ l ∈ ls, isSkipped (stripLineEnd l) = true) :
    scanFrom g n ls = ([], none) := by
  induction ls generalizing n with
  | nil => rfl
  | cons l ls inductionHypothesis =>
      rw [scanFrom_cons_skipped (skipped l List.mem_cons_self)]
      exact inductionHypothesis fun l' member => skipped l' (List.mem_cons_of_mem l member)

/-- Scanning from a later line gives the same rows, each that many lines later, and a fault
exactly when scanning from the earlier line does. -/
theorem scanFrom_renumber (k : Nat) (ls : List String) (n : Nat) :
    (scanFrom g (n + k) ls).1 = (scanFrom g n ls).1.map (fun r => { r with line := r.line + k }) ∧
      (scanFrom g (n + k) ls).2.isSome = (scanFrom g n ls).2.isSome := by
  induction ls generalizing n with
  | nil => simp [scanFrom_nil]
  | cons l ls inductionHypothesis =>
      have later : n + k + 1 = n + 1 + k := by omega
      cases kept : isSkipped (stripLineEnd l) with
      | true =>
          rw [scanFrom_cons_skipped kept, scanFrom_cons_skipped kept, later]
          exact inductionHypothesis (n + 1)
      | false =>
          cases read : Row.parse g n (stripLineEnd l) with
          | error f =>
              obtain ⟨f', failed⟩ := Row.parse_error_renumber read (n + k)
              simp [scanFrom_cons_error kept read, scanFrom_cons_error kept failed]
          | ok r =>
              have moved := Row.parse_renumber read (n + k)
              have numbered : r.line = n := (Row.parse_eq_ok read).1
              obtain ⟨rows, faults⟩ := inductionHypothesis (n + 1)
              rw [scanFrom_cons_ok kept read, scanFrom_cons_ok kept moved, later]
              simp [rows, faults, numbered]

/-- A fault among the first lines is the fault of the whole. -/
theorem scanFrom_append_of_fault {xs : List String} (ys : List String) {f : Fault}
    (faulty : (scanFrom g n xs).2 = some f) : scanFrom g n (xs ++ ys) = scanFrom g n xs := by
  induction xs generalizing n with
  | nil => simp [scanFrom_nil] at faulty
  | cons l xs inductionHypothesis =>
      rw [List.cons_append]
      cases kept : isSkipped (stripLineEnd l) with
      | true =>
          rw [scanFrom_cons_skipped kept] at faulty ⊢
          rw [scanFrom_cons_skipped kept]
          exact inductionHypothesis faulty
      | false =>
          cases read : Row.parse g n (stripLineEnd l) with
          | error f' => rw [scanFrom_cons_error kept read, scanFrom_cons_error kept read]
          | ok r =>
              rw [scanFrom_cons_ok kept read] at faulty
              rw [scanFrom_cons_ok kept read, scanFrom_cons_ok kept read,
                inductionHypothesis faulty]

/-- After first lines without a fault, the rest is scanned from the line after them. -/
theorem scanFrom_append_of_clean {xs : List String} (ys : List String)
    (clean : (scanFrom g n xs).2 = none) :
    scanFrom g n (xs ++ ys) =
      ((scanFrom g n xs).1 ++ (scanFrom g (n + xs.length) ys).1,
        (scanFrom g (n + xs.length) ys).2) := by
  induction xs generalizing n with
  | nil => simp [scanFrom_nil]
  | cons l xs inductionHypothesis =>
      have later : n + (xs.length + 1) = n + 1 + xs.length := by omega
      rw [List.cons_append, List.length_cons, later]
      cases kept : isSkipped (stripLineEnd l) with
      | true =>
          rw [scanFrom_cons_skipped kept] at clean ⊢
          rw [scanFrom_cons_skipped kept]
          exact inductionHypothesis clean
      | false =>
          cases read : Row.parse g n (stripLineEnd l) with
          | error f => simp [scanFrom_cons_error kept read] at clean
          | ok r =>
              rw [scanFrom_cons_ok kept read] at clean
              rw [scanFrom_cons_ok kept read, scanFrom_cons_ok kept read,
                inductionHypothesis clean, List.cons_append]

/-- A fault of a scan is the fault of the first line that is neither skipped nor read. -/
theorem scanFrom_fault {f : Fault} (ls : List String) (n : Nat)
    (faulty : (scanFrom g n ls).2 = some f) :
    ∃ (j : Nat) (bound : j < ls.length),
      (∀ i (earlier : i < j), isSkipped (stripLineEnd ls[i]) = true ∨
        ∃ r, Row.parse g (n + i) (stripLineEnd ls[i]) = .ok r) ∧
      isSkipped (stripLineEnd ls[j]) = false ∧ Row.parse g (n + j) (stripLineEnd ls[j]) = .error f := by
  induction ls generalizing n with
  | nil => simp [scanFrom_nil] at faulty
  | cons l ls inductionHypothesis =>
      have onward : (scanFrom g (n + 1) ls).2 = some f →
          (isSkipped (stripLineEnd l) = true ∨ ∃ r, Row.parse g n (stripLineEnd l) = .ok r) →
          ∃ (j : Nat) (bound : j < (l :: ls).length),
            (∀ i (earlier : i < j), isSkipped (stripLineEnd (l :: ls)[i]) = true ∨
              ∃ r, Row.parse g (n + i) (stripLineEnd (l :: ls)[i]) = .ok r) ∧
            isSkipped (stripLineEnd (l :: ls)[j]) = false ∧
            Row.parse g (n + j) (stripLineEnd (l :: ls)[j]) = .error f := by
        intro rest first
        obtain ⟨j, bound, passed, kept, failed⟩ := inductionHypothesis (n + 1) rest
        refine ⟨j + 1, by simpa using bound, fun i earlier => ?_, by simpa using kept, ?_⟩
        · cases i with
          | zero => simpa using first
          | succ i =>
              have shifted : n + (i + 1) = n + 1 + i := by omega
              simpa [shifted] using passed i (by omega)
        · have shifted : n + (j + 1) = n + 1 + j := by omega
          simpa [shifted] using failed
      cases kept : isSkipped (stripLineEnd l) with
      | true =>
          rw [scanFrom_cons_skipped kept] at faulty
          exact onward faulty (.inl kept)
      | false =>
          cases read : Row.parse g n (stripLineEnd l) with
          | error f' =>
              rw [scanFrom_cons_error kept read] at faulty
              cases faulty
              exact ⟨0, by simp, fun i earlier => absurd earlier (Nat.not_lt_zero i), by simpa using kept,
                by simpa using read⟩
          | ok r =>
              rw [scanFrom_cons_ok kept read] at faulty
              exact onward faulty (.inr ⟨r, read⟩)

theorem parse_eq_ok_iff {rows : List Row} : parse g ls = .ok rows ↔ scan g ls = (rows, none) := by
  unfold parse
  split <;> simp_all

theorem parse_eq_error_iff {f : Fault} : parse g ls = .error f ↔ (scan g ls).2 = some f := by
  unfold parse
  split <;> simp_all

/-- The rows of two pieces read one after the other: those of the second come renumbered by
the lines of the first. -/
theorem parse_append_of_ok {xs ys : List String} {rowsX rowsY : List Row}
    (readX : parse g xs = .ok rowsX) (readY : parse g ys = .ok rowsY) :
    parse g (xs ++ ys) = .ok (rowsX ++ rowsY.map fun r => { r with line := r.line + xs.length }) := by
  rw [parse_eq_ok_iff, scan] at readX readY ⊢
  have later := scanFrom_renumber (g := g) xs.length ys 1
  rw [readY] at later
  obtain ⟨rows, faults⟩ := later
  rw [scanFrom_append_of_clean ys (by rw [readX]), readX, rows]
  simpa using faults

end Listing

/-- Reading a listing cut in two. The whole reads exactly when both pieces read alone, and its
rows are those of the first piece followed by those of the second, renumbered by the number of
lines of the first, skipped lines included; a fault of the first piece is the fault of the
whole. A fault comes from the first line that is neither skipped nor read: it is that line's
fault at its position from 1, carries the line without its line ending, and opens its message
with the syntax heading of that position or with the words `line` and the position. Blank and
comment lines put in front only renumber the rows. -/
theorem listing_parse_append (g : Legend) (xs ys : List String) :
    ((∃ rows, Listing.parse g (xs ++ ys) = .ok rows) ↔
      (∃ rows, Listing.parse g xs = .ok rows) ∧ ∃ rows, Listing.parse g ys = .ok rows) ∧
    (∀ rowsX rowsY, Listing.parse g xs = .ok rowsX → Listing.parse g ys = .ok rowsY →
      Listing.parse g (xs ++ ys) =
        .ok (rowsX ++ rowsY.map fun r => { r with line := r.line + xs.length })) ∧
    (∀ f, Listing.parse g xs = .error f → Listing.parse g (xs ++ ys) = .error f) ∧
    (∀ f, Listing.parse g xs = .error f →
      ∃ (j : Nat) (bound : j < xs.length),
        (∀ i (earlier : i < j), isSkipped (stripLineEnd xs[i]) = true ∨
          ∃ r, Row.parse g (i + 1) (stripLineEnd xs[i]) = .ok r) ∧
        isSkipped (stripLineEnd xs[j]) = false ∧
        Row.parse g (j + 1) (stripLineEnd xs[j]) = .error f ∧
        f.context = some (stripLineEnd xs[j]) ∧
        ∃ detail, f.message = Fault.syntaxHeading (j + 1) ++ detail ∨
          f.message = "line " ++ toString (j + 1) ++ detail) ∧
    (∀ blank : List String, (∀ l ∈ blank, isSkipped (stripLineEnd l) = true) →
      ∀ rows, Listing.parse g xs = .ok rows →
        Listing.parse g (blank ++ xs) =
          .ok (rows.map fun r => { r with line := r.line + blank.length })) := by
  refine ⟨⟨fun ⟨rows, whole⟩ => ?_, fun ⟨⟨rowsX, readX⟩, ⟨rowsY, readY⟩⟩ =>
      ⟨_, Listing.parse_append_of_ok readX readY⟩⟩,
    fun rowsX rowsY readX readY => Listing.parse_append_of_ok readX readY,
    fun f failed => ?_, fun f failed => ?_, fun blank skipped rows read => ?_⟩
  · -- the whole reads, so neither piece can hold the fault of the whole
    rw [Listing.parse_eq_ok_iff, Listing.scan] at whole
    cases faultX : (Listing.scanFrom g 1 xs).2 with
    | some f =>
        rw [Listing.scanFrom_append_of_fault ys faultX] at whole
        rw [whole] at faultX
        cases faultX
    | none =>
        rw [Listing.scanFrom_append_of_clean ys faultX, Prod.mk.injEq] at whole
        have renumbered := (Listing.scanFrom_renumber (g := g) xs.length ys 1).2
        rw [whole.2] at renumbered
        refine ⟨⟨_, Listing.parse_eq_ok_iff.mpr (Prod.ext rfl faultX)⟩, ⟨_,
          Listing.parse_eq_ok_iff.mpr (Prod.ext rfl ?_)⟩⟩
        simpa [Listing.scan] using renumbered.symm
  · rw [Listing.parse_eq_error_iff, Listing.scan] at failed ⊢
    rw [Listing.scanFrom_append_of_fault ys failed, failed]
  · rw [Listing.parse_eq_error_iff, Listing.scan] at failed
    obtain ⟨j, bound, passed, kept, faulty⟩ := Listing.scanFrom_fault xs 1 failed
    have first : ∀ i, 1 + i = i + 1 := fun i => Nat.add_comm 1 i
    rw [first] at faulty
    obtain ⟨context, opening⟩ := Row.parse_error_context faulty
    exact ⟨j, bound, fun i earlier => by simpa [first] using passed i earlier, kept, faulty,
      context, opening⟩
  · have blankRead : Listing.parse g blank = .ok [] := by
      rw [Listing.parse_eq_ok_iff, Listing.scan, Listing.scanFrom_of_skipped skipped]
    simpa using Listing.parse_append_of_ok blankRead read

end W65816
