import W65816.Listing
import W65816.Legend.Standard
import W65816.Amendment.Standard
import W65816.Build
import W65816.Proofs.Assemble
import W65816.Proofs.Legend

set_option autoImplicit false

/-!
# Reading a listing

Listing text is split at line feeds and each line at tabs (`splitOnChar`); a piece without the
separator stays whole, so text made of separator-free pieces splits back into them, and lines
written one after another with line feeds are read back as they were (`linesOf_join`). A file
written as UTF-8 decodes to the text that was written.

A listing that gives every opcode to `LDA` with an immediate operand, one line each, scans to
one row per opcode and so builds under the standard legend and amendments
(`immediateListing_builds`): a listing file the command line accepts.
-/

namespace W65816

open W65816.Text

/-- A file written as UTF-8 decodes to the text that was written. -/
theorem fromUTF8?_toUTF8 (s : String) : String.fromUTF8? s.toUTF8 = some s := by
  unfold String.fromUTF8?
  rw [String.toUTF8_eq_toByteArray, dif_pos s.isValidUTF8]
  rfl

/-! ## Splitting at a separator -/

theorem splitOnChar_append_cons {sep : Char} {cs : List Char} (absent : sep ∉ cs)
    (rest : List Char) : splitOnChar sep (cs ++ sep :: rest) = cs :: splitOnChar sep rest := by
  induction cs with
  | nil => simp [splitOnChar]
  | cons c cs inductionHypothesis =>
    have other : (c == sep) = false := by
      simpa using fun same : c = sep => absent (same ▸ List.mem_cons_self)
    rw [List.cons_append, splitOnChar, other,
      inductionHypothesis (fun member => absent (List.mem_cons_of_mem c member))]
    rfl

theorem splitOnChar_lines (lines : List String) (noBreak : ∀ l ∈ lines, '\n' ∉ l.toList) :
    splitOnChar '\n' (lines.flatMap fun l => l.toList ++ ['\n']) =
      lines.map String.toList ++ [[]] := by
  induction lines with
  | nil => rfl
  | cons l ls inductionHypothesis =>
    rw [List.flatMap_cons, List.append_assoc, List.singleton_append,
      splitOnChar_append_cons (noBreak l List.mem_cons_self),
      inductionHypothesis fun l' member => noBreak l' (List.mem_cons_of_mem l member)]
    rfl

theorem linesOfPieces_lines (lines : List String)
    (noReturn : ∀ l ∈ lines, l.toList.getLast? ≠ some '\r') :
    linesOfPieces (lines.map String.toList ++ [[]]) = lines := by
  induction lines with
  | nil => rfl
  | cons l ls inductionHypothesis =>
    have kept : dropCr l.toList = l.toList := by
      unfold dropCr
      split
      · next ending => exact absurd ending (noReturn l List.mem_cons_self)
      · rfl
    have rest := inductionHypothesis fun l' member => noReturn l' (List.mem_cons_of_mem l member)
    cases ls with
    | nil => simp [linesOfPieces, kept]
    | cons l' ls' =>
      simp only [List.map_cons, List.cons_append, linesOfPieces, kept, String.ofList_toList]
        at rest ⊢
      rw [rest]

/-- Lines written one after another, each ended by a line feed, read back as they were
written, when none holds a line feed or ends in a carriage return. -/
theorem linesOf_join (lines : List String) (noBreak : ∀ l ∈ lines, '\n' ∉ l.toList)
    (noReturn : ∀ l ∈ lines, l.toList.getLast? ≠ some '\r') :
    linesOf (String.join (lines.map (· ++ "\n"))) = lines := by
  have text : (String.join (lines.map (· ++ "\n"))).toList =
      lines.flatMap fun l => l.toList ++ ['\n'] := by
    simp [String.toList_join, List.flatMap_map, String.toList_append]
  rw [linesOf, text, splitOnChar_lines lines noBreak, linesOfPieces_lines lines noReturn]

/-- The build in the order a run checks it: the listing's rows, then the amendments, then the
coverage of the opcodes. -/
theorem buildTable_ok (g : Legend) (lines : List String) (es : List Amendment) :
    buildTable (.ok g) lines es =
      match (Listing.scan g lines).2 with
      | some f => .error f
      | none =>
        match AmendmentTable.build es with
        | .error f => .error f
        | .ok am => Table.assemble g (Listing.scan g lines).1 am := by
  simp only [buildTable, Listing.parse, bind, Except.bind]
  rcases Listing.scan g lines with ⟨rows, _ | f⟩
  · cases AmendmentTable.build es <;> rfl
  · rfl

/-- A build that succeeds had a legend, read the listing's rows under it, accepted the
amendments, and assembled the table from the two. -/
theorem buildTable_eq_ok {legend : Except Fault Legend} {lines : List String} {es : List Amendment}
    {t : Table} (built : buildTable legend lines es = .ok t) :
    ∃ g rows am, legend = .ok g ∧ Listing.parse g lines = .ok rows ∧
      AmendmentTable.build es = .ok am ∧ Table.assemble g rows am = .ok t := by
  cases legend with
  | error f => cases built
  | ok g =>
    cases parsed : Listing.parse g lines with
    | error f => simp [buildTable, parsed, bind, Except.bind] at built
    | ok rows =>
      cases amended : AmendmentTable.build es with
      | error f => simp [buildTable, parsed, amended, bind, Except.bind] at built
      | ok am =>
        refine ⟨g, rows, am, rfl, parsed, rfl, ?_⟩
        simpa [buildTable, parsed, amended, bind, Except.bind] using built

/-! ## A listing of immediate `LDA` lines -/

/-- A hexadecimal digit reads back as its value, is not white space, and is none of the
characters that split a listing or prefix an opcode. -/
theorem hexDigit_readable : ∀ n < 16, hexValue (hexDigit n) = some n ∧
    isWhite (hexDigit n) = false ∧ hexDigit n ≠ '\t' ∧ hexDigit n ≠ '\n' ∧ hexDigit n ≠ '\r' ∧
    hexDigit n ≠ 'x' ∧ hexDigit n ≠ 'X' ∧ hexDigit n ≠ '$' := by
  decide

/-- A listing line giving opcode `k` to `LDA` with an immediate operand. -/
def immediateLine (k : Opcode) : String := "LDA\t\t\t" ++ hex2 k.val ++ "\timmediate"

theorem immediateLine_toList (k : Opcode) :
    (immediateLine k).toList = ['L', 'D', 'A', '\t', '\t', '\t', hexDigit (k.val / 16 % 16),
      hexDigit (k.val % 16), '\t', 'i', 'm', 'm', 'e', 'd', 'i', 'a', 't', 'e'] := by
  simp [immediateLine, hex2, String.toList_append]

theorem dropHexPrefix_of_digits (high low : Char) (notZero : high ≠ '0' ∨ low ≠ 'x' ∧ low ≠ 'X')
    (notDollar : high ≠ '$') : dropHexPrefix [high, low] = [high, low] := by
  unfold dropHexPrefix
  split <;> simp_all

theorem parse_immediateLine {g : Legend} {i : Nat}
    (immediate : g.indexOf .immediateMemory = some i) (n : Nat) (k : Opcode) :
    ∃ r, Row.parse g n (immediateLine k) = .ok r ∧ r.opcode = k := by
  obtain ⟨highValue, highWhite, highTab, -, -, -, -, highDollar⟩ :=
    hexDigit_readable (k.val / 16 % 16) (by omega)
  obtain ⟨lowValue, -, lowTab, -, -, lowSmallX, lowLargeX, -⟩ :=
    hexDigit_readable (k.val % 16) (by omega)
  have fields : fieldsOf (immediateLine k) = ["LDA", "", "",
      String.ofList [hexDigit (k.val / 16 % 16), hexDigit (k.val % 16)], "immediate"] := by
    rw [fieldsOf, immediateLine_toList]
    simp [splitOnChar, highTab, lowTab]
  have opcode : opcodeOf (String.ofList [hexDigit (k.val / 16 % 16), hexDigit (k.val % 16)]) =
      some k := by
    have digits := dropHexPrefix_of_digits (hexDigit (k.val / 16 % 16)) (hexDigit (k.val % 16))
      (.inr ⟨lowSmallX, lowLargeX⟩) highDollar
    simp only [opcodeOf, String.toList_ofList, dropWhite, List.dropWhile, highWhite, digits,
      List.all_nil, highValue, lowValue, ↓reduceIte]
    refine congrArg some (Fin.ext ?_)
    simp only [Opcode.ofByte]
    omega
  have word : isImmediateWord "immediate" = true := by decide
  have mode : modeOfRow g n (immediateLine k) "LDA" k "immediate" = .ok i := by
    simp [modeOfRow, word, immediateMode, immediate]
  have mnemonic : mnemonicOf "LDA" = some "LDA" := by decide
  have described : trim "immediate" = "immediate" := by decide
  refine ⟨⟨n, trim (String.ofList [hexDigit (k.val / 16 % 16), hexDigit (k.val % 16)]), k,
    "LDA", trim "", "immediate", i⟩, ?_, rfl⟩
  simp only [Row.parse, fields, List.length_cons, List.length_nil, List.getD_cons_zero,
    List.getD_cons_succ, mnemonic, opcode, described, mode]
  rfl

theorem stripLineEnd_immediateLine (k : Opcode) :
    stripLineEnd (immediateLine k) = immediateLine k := by
  apply String.toList_inj.mp
  simp [stripLineEnd, immediateLine_toList]

theorem isSkipped_immediateLine (k : Opcode) : isSkipped (immediateLine k) = false := by
  have letter : isWhite 'L' = false := by decide
  simp [isSkipped, isBlank, dropWhite, immediateLine_toList, letter]

/-- A listing of immediate `LDA` lines scans to one row per line, carrying the line's opcode. -/
theorem scanFrom_immediateLines {g : Legend} {i : Nat}
    (immediate : g.indexOf .immediateMemory = some i) (ks : List Opcode) (n : Nat) :
    ∃ rows, Listing.scanFrom g n (ks.map immediateLine) = (rows, none) ∧
      rows.map (·.opcode) = ks := by
  induction ks generalizing n with
  | nil => exact ⟨[], rfl, rfl⟩
  | cons k ks inductionHypothesis =>
    obtain ⟨r, parsed, carries⟩ := parse_immediateLine immediate n k
    obtain ⟨rows, scanned, opcodes⟩ := inductionHypothesis (n + 1)
    refine ⟨r :: rows, ?_, by simp [carries, opcodes]⟩
    simp only [List.map_cons, Listing.scanFrom, stripLineEnd_immediateLine,
      isSkipped_immediateLine, Bool.false_eq_true, ↓reduceIte, parsed, scanned]

/-- The listing that gives every opcode to `LDA` with an immediate operand, one line each. -/
def immediateListing : String :=
  String.join (((List.finRange 256).map immediateLine).map (· ++ "\n"))

theorem linesOf_immediateListing :
    linesOf immediateListing = (List.finRange 256).map immediateLine := by
  unfold immediateListing
  refine linesOf_join _ (fun l member => ?_) (fun l member => ?_)
  · obtain ⟨k, -, rfl⟩ := List.mem_map.mp member
    obtain ⟨-, -, -, highBreak, -⟩ := hexDigit_readable (k.val / 16 % 16) (by omega)
    obtain ⟨-, -, -, lowBreak, -⟩ := hexDigit_readable (k.val % 16) (by omega)
    simp [immediateLine_toList, highBreak.symm, lowBreak.symm]
  · obtain ⟨k, -, rfl⟩ := List.mem_map.mp member
    simp [immediateLine_toList]

/-- Under a legend with an immediate mode of the accumulator's width, the immediate listing
reads to rows that carry every opcode once. -/
theorem scan_immediateListing {g : Legend} {i : Nat} (immediate : g.indexOf .immediateMemory = some i) :
    ∃ rows, Listing.scan g (linesOf immediateListing) = (rows, none) ∧ CoversOnce rows := by
  obtain ⟨rows, scanned, opcodes⟩ := scanFrom_immediateLines immediate (List.finRange 256) 1
  refine ⟨rows, ?_, CoversOnce.of_opcodes_eq_finRange opcodes⟩
  rw [linesOf_immediateListing, Listing.scan, scanned]

/-- The standard legend is built, and its first entry is the immediate mode of the
accumulator's width. -/
theorem standard_legend_builds :
    ∃ g, Legend.standard = .ok g ∧ g.indexOf .immediateMemory = some 0 := by
  have accepted : Legend.standard.isOk = true := by decide +kernel
  obtain ⟨g, built⟩ : ∃ g, Legend.standard = .ok g := by
    revert accepted
    cases Legend.standard with
    | error f => exact fun rejected => absurd rejected Bool.false_ne_true
    | ok g => exact fun _ => ⟨g, rfl⟩
  refine ⟨g, built, ?_⟩
  rw [Legend.indexOf, Legend.entries_of_build built]
  rfl

/-- Under the standard legend the immediate listing parses to rows that carry every opcode
once. -/
theorem parse_immediateListing :
    ∃ g rows, Legend.standard = .ok g ∧ Listing.parse g (linesOf immediateListing) = .ok rows ∧
      CoversOnce rows := by
  obtain ⟨g, built, immediate⟩ := standard_legend_builds
  obtain ⟨rows, scanned, covers⟩ := scan_immediateListing immediate
  exact ⟨g, rows, built, by rw [Listing.parse, scanned], covers⟩

theorem standard_amendments_distinct : (Amendment.standard.map (·.opcode)).Nodup := by
  have noRepeat : (firstRepeat Amendment.opcode [] Amendment.standard).isNone = true := by
    decide +kernel
  exact (firstRepeat_nil_eq_none_iff Amendment.opcode Amendment.standard).mp
    (Option.isNone_iff_eq_none.mp noRepeat)

def AmendmentTable.standard : AmendmentTable := ⟨Amendment.standard, standard_amendments_distinct⟩

theorem standard_amendments_build :
    AmendmentTable.build Amendment.standard = .ok AmendmentTable.standard :=
  AmendmentTable.build_entries AmendmentTable.standard

/-- The listing of immediate `LDA` lines builds under the standard legend and amendments. -/
theorem immediateListing_builds {g : Legend} (built : Legend.standard = .ok g) :
    ∃ t, buildTable (.ok g) (linesOf immediateListing) Amendment.standard = .ok t := by
  obtain ⟨g', built', immediate⟩ := standard_legend_builds
  obtain rfl : g' = g := by
    rw [built] at built'
    exact (Except.ok.inj built').symm
  obtain ⟨rows, scanned, covers⟩ := scan_immediateListing immediate
  obtain ⟨t, assembled⟩ := (Table.assemble_isOk_iff g' rows AmendmentTable.standard).mpr covers
  refine ⟨t, ?_⟩
  -- rewriting step by step keeps the listing and the standard data unevaluated
  rw [buildTable_ok, scanned, standard_amendments_build]
  exact assembled

/-- The immediate listing under the standard legend and amendments: it is assembled, and the
laws of assembly hold of it. -/
theorem immediate_listing_describes_each_opcode :
    ∃ g rows, Legend.standard = .ok g ∧ Listing.parse g (linesOf immediateListing) = .ok rows ∧
      AmendmentTable.build Amendment.standard = .ok AmendmentTable.standard ∧
      (∃ t, Table.assemble g rows AmendmentTable.standard = .ok t) ∧
      (∀ f, Table.assemble g rows AmendmentTable.standard = .error f ↔
        Coverage.slots rows = .error f) ∧
      ((∃ t, Table.assemble g rows AmendmentTable.standard = .ok t) ↔ CoversOnce rows) ∧
      ∀ t, Table.assemble g rows AmendmentTable.standard = .ok t →
        t.entries.length = 256 ∧ (∀ k : Opcode, (t.get k).opcode = k) ∧
        (∀ r ∈ rows, (t.get r.opcode).Describes g r (AmendmentTable.standard.lookup r.opcode)) ∧
        (∀ e ∈ t.entries, e.width ≠ .unsized ∧ e.load = readsOperand e.op e.operand) ∧
        (∀ rows', rows'.Perm rows → Table.assemble g rows' AmendmentTable.standard = .ok t) ∧
        t.amendedCount = AmendmentTable.standard.size := by
  obtain ⟨g, rows, built, parsed, covers⟩ := parse_immediateListing
  exact ⟨g, rows, built, parsed, standard_amendments_build,
    (Table.assemble_isOk_iff g rows _).mpr covers,
    Table.assemble_describes_each_opcode g rows AmendmentTable.standard⟩

end W65816
