import W65816.Proofs.Run
import W65816.Proofs.Renumbering
import W65816.Proofs.AmendmentTable
import W65816.Proofs.Utf8

set_option autoImplicit false

/-!
# Runs on a listing file

`-t FILE` reads the listing from a file a line at a time. A file holding the UTF-8 bytes of a
text reads as the lines of that text, so such a run builds exactly the table that the lines of
the text build, and the standard listing written to a file builds the table of a run given no
listing; a file that is not UTF-8 fails to read (`listing_file_reads_as_text`).

When such a run succeeds without `-v`, standard error holds one warning per amended opcode
whose amendment names another operation than the listing's row for it, in opcode order, each
naming the line the row was read from (`quiet_run_warns_of_mismatches`). Writes to a path that
the file system passes on to standard error are the exception: with `-o /dev/stderr` the
generated source follows the warnings there (`source_reaches_stderr_through_device`).
-/

namespace W65816

open W65816.Text W65816.Command

/-! ## The rows of a listing and their lines -/

namespace Listing

theorem scanFrom_rows_at (g : Legend) (lines : List String) (n : Nat) :
    ∀ r ∈ (scanFrom g n lines).1, ∃ i s, lines[i]? = some s ∧
      Row.parse g (n + i) (stripLineEnd s) = .ok r := by
  induction lines generalizing n with
  | nil => simp [scanFrom_nil]
  | cons l ls inductionHypothesis =>
    intro r member
    cases kept : isSkipped (stripLineEnd l) with
    | true =>
      rw [scanFrom_cons_skipped kept] at member
      obtain ⟨i, s, found, read⟩ := inductionHypothesis (n + 1) r member
      exact ⟨i + 1, s, found, by rwa [← Nat.add_assoc, Nat.add_right_comm]⟩
    | false =>
      cases read : Row.parse g n (stripLineEnd l) with
      | error f =>
        rw [scanFrom_cons_error kept read] at member
        cases member
      | ok first =>
        rw [scanFrom_cons_ok kept read] at member
        rcases List.mem_cons.mp member with rfl | later
        · exact ⟨0, l, rfl, read⟩
        · obtain ⟨i, s, found, read'⟩ := inductionHypothesis (n + 1) r later
          exact ⟨i + 1, s, found, by rwa [← Nat.add_assoc, Nat.add_right_comm]⟩

/-- Every row of a listing was read from the line its number names. -/
theorem parse_rows_at {g : Legend} {lines : List String} {rows : List Row}
    (parsed : parse g lines = .ok rows) :
    ∀ r ∈ rows, ∃ s, lines[r.line - 1]? = some s ∧ Row.parse g r.line (stripLineEnd s) = .ok r := by
  intro r member
  have scanned : (scan g lines).1 = rows := by rw [parse_eq_ok_iff.mp parsed]
  obtain ⟨i, s, found, read⟩ := scanFrom_rows_at g lines 1 r (scanned ▸ member)
  have numbered : r.line = 1 + i := (Row.parse_eq_ok read).1
  refine ⟨s, ?_, ?_⟩
  · rw [numbered, Nat.add_sub_cancel_left]
    exact found
  · rw [numbered]
    exact read

end Listing

/-! ## The mismatches of a covering listing -/

namespace Table

/-- Opcode `k` with its amendment and the listing's row for it, when the two name different
operations. -/
def mismatchAt (rows : List Row) (am : AmendmentTable) (k : Opcode) :
    Option (Opcode × Amendment × Row) :=
  match am.lookup k with
  | some a =>
    let r := rows.getD (Coverage.position rows k) default
    if a.op != r.mnemonic then some (k, a, r) else none
  | none => none

/-- The amended opcodes whose amendment names another operation than the listing's row, in
opcode order, each with its amendment and row. -/
def mismatchedRows (rows : List Row) (am : AmendmentTable) : List (Opcode × Amendment × Row) :=
  (List.finRange 256).filterMap (mismatchAt rows am)

variable {rows : List Row} {am : AmendmentTable}

theorem mismatches_eq (covers : CoversOnce rows) :
    mismatches rows am = (mismatchedRows rows am).map fun (k, a, r) =>
      "override for " ++ hexByte k.val ++ " says " ++ a.op ++ " but line " ++ toString r.line ++
        " lists " ++ r.mnemonic := by
  unfold mismatches
  rw [Coverage.slots_of_coversOnce covers]
  dsimp only
  rw [rowsByOpcode_slots, List.filterMap_map, mismatchedRows, List.map_filterMap]
  congr 1
  funext k
  dsimp only [Function.comp]
  unfold mismatchAt
  cases am.lookup k with
  | none => rfl
  | some a =>
    dsimp only
    split <;> rfl

theorem key_of_mem_mismatchAt {k : Opcode} {x : Opcode × Amendment × Row}
    (found : x ∈ mismatchAt rows am k) : x.1 = k := by
  unfold mismatchAt at found
  split at found
  · dsimp only at found
    split at found
    · cases found
      rfl
    · cases found
  · cases found

/-- The mismatches come in increasing opcode order. -/
theorem mismatchedRows_sorted : ((mismatchedRows rows am).map (·.1)).Pairwise (· < ·) := by
  rw [List.pairwise_map, mismatchedRows, List.pairwise_filterMap]
  refine (List.pairwise_lt_finRange 256).imp fun below x first y second => ?_
  rw [key_of_mem_mismatchAt first, key_of_mem_mismatchAt second]
  exact below

/-- An opcode is noted with its amendment and the listing's row for it exactly when the two
name different operations. -/
theorem mem_mismatchedRows_iff (covers : CoversOnce rows) {k : Opcode} {a : Amendment} {r : Row} :
    (k, a, r) ∈ mismatchedRows rows am ↔
      a ∈ am.entries ∧ a.opcode = k ∧ r ∈ rows ∧ r.opcode = k ∧ a.op ≠ r.mnemonic := by
  have row : rows.getD (Coverage.position rows k) default = r ↔ r ∈ rows ∧ r.opcode = k := by
    constructor
    · rintro rfl
      refine ⟨?_, covers.opcode_getD_position k⟩
      rw [List.getD_eq_getElem _ _ (covers.position_lt k)]
      exact List.getElem_mem _
    · rintro ⟨member, carries⟩
      exact covers.getD_position member k carries
  simp only [mismatchedRows, List.mem_filterMap, List.mem_finRange, true_and]
  constructor
  · rintro ⟨j, found⟩
    unfold mismatchAt at found
    cases lookup : am.lookup j with
    | none =>
      rw [lookup] at found
      cases found
    | some b =>
      rw [lookup] at found
      dsimp only at found
      split at found
      · next differs =>
        simp only [Option.some.injEq, Prod.mk.injEq] at found
        obtain ⟨rfl, rfl, rfl⟩ := found
        obtain ⟨member, keyed⟩ := AmendmentTable.lookup_eq_some_iff.mp lookup
        obtain ⟨rowMember, carries⟩ := row.mp rfl
        exact ⟨member, keyed, rowMember, carries, by simpa using differs⟩
      · cases found
  · rintro ⟨member, keyed, rowMember, carries, differs⟩
    refine ⟨k, ?_⟩
    unfold mismatchAt
    rw [AmendmentTable.lookup_eq_some_iff.mpr ⟨member, keyed⟩]
    dsimp only
    rw [row.mpr ⟨rowMember, carries⟩, if_pos (by simpa using differs)]

/-- The warnings about a listing that covers the opcodes under the standard amendments: notes on
the mismatched opcodes, in increasing order, each with its amendment and the listing's row. -/
theorem warnings_of_assemble {g : Legend} {t : Table}
    (assembled : assemble g rows AmendmentTable.standard = .ok t) :
    ((mismatchedRows rows AmendmentTable.standard).map (·.1)).Pairwise (· < ·) ∧
    (∀ k a r, (k, a, r) ∈ mismatchedRows rows AmendmentTable.standard ↔
      a ∈ Amendment.standard ∧ a.opcode = k ∧ r ∈ rows ∧ r.opcode = k ∧ a.op ≠ r.mnemonic) ∧
    String.join ((mismatches rows AmendmentTable.standard).map (Session.warning · ++ "\n")) =
      String.join ((mismatchedRows rows AmendmentTable.standard).map fun (k, a, r) =>
        Session.warning ("override for " ++ hexByte k.val ++ " says " ++ a.op ++ " but line " ++
          toString r.line ++ " lists " ++ r.mnemonic) ++ "\n") := by
  obtain ⟨covers, -⟩ := eq_ofCovering_of_assemble_eq_ok assembled
  refine ⟨mismatchedRows_sorted, fun k a r => mem_mismatchedRows_iff covers, ?_⟩
  rw [mismatches_eq covers, List.map_map]
  rfl

end Table

theorem AmendmentTable.eq_standard_of_build {am : AmendmentTable}
    (amended : AmendmentTable.build Amendment.standard = .ok am) : am = AmendmentTable.standard := by
  rw [standard_amendments_build] at amended
  exact (Except.ok.inj amended).symm

/-! ## What a run prints on standard error -/

namespace Session

variable {inv : Invocation} {l : Log}

theorem Log.trace_of_quiet (quiet : inv.verbose = false) (s : String) : l.trace inv s = l := by
  simp [Log.trace, quiet]

theorem Log.traceRows_of_quiet (quiet : inv.verbose = false) (g : Legend) (rows : List Row) :
    rows.foldl (fun l r => l.trace inv (traceLine g r)) l = l := by
  induction rows generalizing l with
  | nil => rfl
  | cons r rows inductionHypothesis =>
    rw [List.foldl_cons, Log.trace_of_quiet quiet, inductionHypothesis]

theorem Log.warnAll_err (ws : List String) :
    (ws.foldl (fun l w => l.warn (warning w)) l).err =
      l.err ++ String.join (ws.map (warning · ++ "\n")) := by
  induction ws generalizing l with
  | nil => simp
  | cons w ws inductionHypothesis =>
    rw [List.foldl_cons, inductionHypothesis]
    simp [String.append_assoc]

theorem Log.listLines_err (t : Table) : (listLines inv l t).err = l.err := by
  unfold listLines
  split
  · generalize t.entries = entries
    induction entries generalizing l with
    | nil => rfl
    | cons e es inductionHypothesis => exact inductionHypothesis
  · rfl

/-- Without `-v`, a build that assembles its table adds to standard error one warning per
mismatch, and nothing else. -/
theorem build_of_assembled (quiet : inv.verbose = false) {g : Legend} {lines : List String}
    {rows : List Row} {t : Table} (parsed : Listing.parse g lines = .ok rows)
    (assembled : Table.assemble g rows AmendmentTable.standard = .ok t) :
    ∃ l', build inv l g lines = deliver inv l' t ∧
      l'.err = l.err ++
        String.join ((Table.mismatches rows AmendmentTable.standard).map (warning · ++ "\n")) := by
  have scanned := Listing.parse_eq_ok_iff.mp parsed
  delta build
  rw [standard_amendments_build]
  dsimp only
  rw [scanned]
  dsimp only
  rw [assembled]
  refine ⟨_, rfl, ?_⟩
  rw [Log.trace_of_quiet quiet, Log.traceRows_of_quiet quiet]
  split <;> simp only [Log.say_err, Log.warnAll_err]

section Perform

variable {σ : Type} (fs : FileSystem σ) {t : Table}

/-- A write that is not passed on to standard error leaves it as it was. -/
theorem Log.echo_err {s s' : σ} {path text : String} {w : Written}
    (kept : ¬ fs.PassesToStderr path) (made : fs.create s path text.toUTF8 = (s', .ok w)) :
    (l.echo text w).err = l.err := by
  cases w with
  | kept => rfl
  | toStdout => rfl
  | toStderr => exact absurd ⟨s, s', _, made⟩ kept

theorem perform_writeOutputs_err (s : σ) (path : String)
    (kept : ∀ q ∈ [path, Path.withExtension path "h", Path.withExtension path "cpp"],
      ¬ fs.PassesToStderr q)
    (succeeded : (fs.perform s (writeOutputs inv l t path)).1.status = 0) :
    (fs.perform s (writeOutputs inv l t path)).1.err = l.err := by
  revert succeeded
  rcases perform_writeOutputs_cases fs inv l t path s
    with ⟨-, s₁, e, -, wrote⟩ | ⟨-, s₁, w, made, wrote⟩ | ⟨-, -, wrote⟩ |
      ⟨-, header, s₁, e, -, -, wrote⟩ | ⟨-, header, s₁, w, s₂, e, -, -, -, wrote⟩ |
      ⟨-, header, s₁, w, s₂, w', -, madeHeader, madeSource, wrote⟩
  all_goals rw [wrote]
  all_goals try simp [failed]
  · rw [Log.echo_err fs (kept path (by simp)) made]
  · rw [Log.echo_err fs (kept _ (by simp)) madeSource, Log.echo_err fs (kept _ (by simp)) madeHeader]

/-- A delivery that succeeds, with no write passed on to standard error, prints nothing there. -/
theorem perform_deliver_err (s : σ)
    (kept : ∀ p, inv.output = some p →
      ∀ q ∈ [p, Path.withExtension p "h", Path.withExtension p "cpp"], ¬ fs.PassesToStderr q)
    (succeeded : (fs.perform s (deliver inv l t)).1.status = 0) :
    (fs.perform s (deliver inv l t)).1.err = l.err := by
  rcases perform_deliver_cases fs inv l t s with
    ⟨k, -, ran⟩ | ⟨-, -, ran⟩ | ⟨-, ran⟩ | ⟨path, -, output, ran⟩
  · rw [ran]
  · rw [ran, Log.listLines_err]
  · rw [ran]
  · rw [ran] at succeeded ⊢
    rw [perform_writeOutputs_err fs s path (kept path output) succeeded, Log.listLines_err]

/-- A listing file that compiles was read as the UTF-8 bytes of a text whose rows cover the
opcodes under the standard amendments. -/
theorem compiledWith_listing_file {g : Legend} {path : String} {s : σ}
    (named : inv.table = some path) (built : compiledWith fs (.ok g) inv s = .ok t) :
    ∃ text rows, fs.read s path = .ok text.toUTF8 ∧ Listing.parse g (linesOf text) = .ok rows ∧
      Table.assemble g rows AmendmentTable.standard = .ok t := by
  simp only [compiledWith, listing, named] at built
  cases read : fs.read s path with
  | error e => simp [read] at built
  | ok bytes =>
    cases decoded : String.fromUTF8? bytes with
    | none => simp [read, readLines_eq, decoded] at built
    | some text =>
      simp only [read, readLines_eq, decoded] at built
      obtain ⟨g', rows, am, same, parsed, amended, assembled⟩ := buildTable_eq_ok built
      cases same
      obtain rfl := AmendmentTable.eq_standard_of_build amended
      exact ⟨text, rows, by rw [toUTF8_of_fromUTF8? decoded], parsed, assembled⟩

/-- Without `-v`, a run on a listing file that builds its table has printed on standard error
one warning per mismatch when it comes to deliver the table. -/
theorem perform_execute_listing_file (quiet : inv.verbose = false) {path : String} {s : σ}
    {g : Legend} {text : String} {rows : List Row} (named : inv.table = some path)
    (standard : Legend.standard = .ok g) (read : fs.read s path = .ok text.toUTF8)
    (parsed : Listing.parse g (linesOf text) = .ok rows)
    (assembled : Table.assemble g rows AmendmentTable.standard = .ok t) :
    ∃ l, fs.perform s (execute inv) = fs.perform s (deliver inv l t) ∧
      l.err = String.join ((Table.mismatches rows AmendmentTable.standard).map (warning · ++ "\n")) := by
  rw [execute, standard]
  simp only [executeWith, named, perform_read, read, readLines_toUTF8]
  obtain ⟨l', built, warned⟩ := build_of_assembled
    (l := if inv.toStdout then {} else ({} : Log).say (info ("Reading reference listing " ++ path)))
    quiet parsed assembled
  refine ⟨l', by rw [built], ?_⟩
  rw [warned]
  split <;> rfl

end Perform

end Session

/-- A listing file is read as its text: a file holding the UTF-8 bytes of a text reads as the
lines of that text, and a file that is not UTF-8 fails with `invalidUtf8`. So on every file
system a run named a listing file builds, under whatever legend, the table that the lines of
the file's text build, fails to read a file that is not UTF-8, and builds from a file holding
the standard listing the table of a run given no listing. -/
theorem listing_file_reads_as_text {σ : Type} (fs : FileSystem σ) :
    (∀ text, readLines text.toUTF8 = .ok (linesOf text)) ∧
    (∀ bytes, String.fromUTF8? bytes = none → readLines bytes = .error .invalidUtf8) ∧
    (∀ (legend : Except Fault Legend) (inv : Invocation) (path : String) (s : σ) (text : String),
      inv.table = some path → fs.read s path = .ok text.toUTF8 →
      Session.compiledWith fs legend inv s = buildTable legend (linesOf text) Amendment.standard) ∧
    (∀ (g : Legend) (inv : Invocation) (path : String) (s : σ) (bytes : ByteArray),
      inv.table = some path → fs.read s path = .ok bytes → String.fromUTF8? bytes = none →
      Session.compiledWith fs (.ok g) inv s = .error (.io .invalidUtf8)) ∧
    (∀ (legend : Except Fault Legend) (inv : Invocation) (path : String) (s : σ),
      inv.table = some path → fs.read s path = .ok Listing.standardText.toUTF8 →
      Session.compiledWith fs legend inv s =
        Session.compiledWith fs legend { inv with table := none } s) := by
  have ofText : ∀ (legend : Except Fault Legend) (inv : Invocation) (path : String) (s : σ)
      (text : String), inv.table = some path → fs.read s path = .ok text.toUTF8 →
      Session.compiledWith fs legend inv s = buildTable legend (linesOf text) Amendment.standard := by
    intro legend inv path s text named read
    cases legend with
    | error f => rfl
    | ok g => simp only [Session.compiledWith, Session.listing, named, read, readLines_toUTF8]
  refine ⟨readLines_toUTF8, fun bytes undecoded => ?_, ofText, ?_, ?_⟩
  · rw [readLines_eq, undecoded]
  · intro g inv path s bytes named read undecoded
    simp only [Session.compiledWith, Session.listing, named, read, readLines_eq, undecoded]
  · intro legend inv path s named read
    rw [ofText legend inv path s _ named read]
    cases legend <;> rfl

/-- The standard listing written to a file builds the table of a run given no listing. -/
theorem standard_listing_file_builds_standard_table :
    Disk.system.read (listingDisk Listing.standardText) "l" = .ok Listing.standardText.toUTF8 ∧
    Session.compiled Disk.system { table := some "l" } (listingDisk Listing.standardText) =
      Session.compiled Disk.system {} (listingDisk Listing.standardText) :=
  ⟨rfl, (listing_file_reads_as_text Disk.system).2.2.2.2 Legend.standard { table := some "l" } "l"
    _ rfl rfl⟩

/-- A run on a listing file that succeeds without `-v`, and writes nothing to a path that the
file system passes on to standard error, prints on standard error exactly one warning per
amended opcode whose amendment names another operation than the listing's row for it, in
increasing opcode order, each naming the line the row was read from. -/
theorem quiet_run_warns_of_mismatches {σ : Type} (fs : FileSystem σ)
    (parse : List String → Except Stop Invocation) (args : List String) (inv : Invocation)
    (path : String) (s : σ) (parsed : parse args = .ok inv) (named : inv.table = some path)
    (quiet : inv.verbose = false)
    (kept : ∀ p, inv.output = some p →
      ∀ q ∈ [p, Path.withExtension p "h", Path.withExtension p "cpp"], ¬ fs.PassesToStderr q)
    (succeeded : (fs.perform s (sessionWith parse args)).1.status = 0) :
    ∃ (g : Legend) (text : String) (rows : List Row) (notes : List (Opcode × Amendment × Row)),
      Legend.standard = .ok g ∧ fs.read s path = .ok text.toUTF8 ∧
      Listing.parse g (linesOf text) = .ok rows ∧
      (∀ r ∈ rows, ∃ line, (linesOf text)[r.line - 1]? = some line ∧
        Row.parse g r.line (stripLineEnd line) = .ok r) ∧
      (notes.map (·.1)).Pairwise (· < ·) ∧
      (∀ k a r, (k, a, r) ∈ notes ↔
        a ∈ Amendment.standard ∧ a.opcode = k ∧ r ∈ rows ∧ r.opcode = k ∧ a.op ≠ r.mnemonic) ∧
      (fs.perform s (sessionWith parse args)).1.err = String.join (notes.map fun (k, a, r) =>
        Session.warning ("override for " ++ hexByte k.val ++ " says " ++ a.op ++ " but line " ++
          toString r.line ++ " lists " ++ r.mnemonic) ++ "\n") := by
  obtain ⟨g, standard, -⟩ := standard_legend_builds
  rw [perform_sessionWith_of_ok fs parsed] at succeeded ⊢
  cases compiled : Session.compiled fs inv s with
  | error f =>
    obtain ⟨l, ran, -⟩ := Session.perform_execute_of_error fs s standard compiled
    rw [ran] at succeeded
    cases succeeded
  | ok t =>
    rw [Session.compiled, standard] at compiled
    obtain ⟨text, rows, read, parsedRows, assembled⟩ :=
      Session.compiledWith_listing_file fs named compiled
    obtain ⟨l, ran, warned⟩ :=
      Session.perform_execute_listing_file fs quiet named standard read parsedRows assembled
    obtain ⟨sorted, members, joined⟩ := Table.warnings_of_assemble assembled
    rw [ran] at succeeded ⊢
    refine ⟨g, text, rows, _, standard, read, parsedRows, Listing.parse_rows_at parsedRows, sorted,
      members, ?_⟩
    rw [Session.perform_deliver_err fs s kept succeeded, warned, joined]

/-- The run of `-t l` on the listing of immediate `LDA` lines succeeds, and its standard error
is as described above. -/
theorem immediate_listing_run_warns :
    (Disk.system.perform (listingDisk immediateListing) (sessionWith parseArgs ["-t", "l"])).1.status = 0 ∧
    ∃ (g : Legend) (text : String) (rows : List Row) (notes : List (Opcode × Amendment × Row)),
      Legend.standard = .ok g ∧ Disk.system.read (listingDisk immediateListing) "l" = .ok text.toUTF8 ∧
      Listing.parse g (linesOf text) = .ok rows ∧
      (∀ r ∈ rows, ∃ line, (linesOf text)[r.line - 1]? = some line ∧
        Row.parse g r.line (stripLineEnd line) = .ok r) ∧
      (notes.map (·.1)).Pairwise (· < ·) ∧
      (∀ k a r, (k, a, r) ∈ notes ↔
        a ∈ Amendment.standard ∧ a.opcode = k ∧ r ∈ rows ∧ r.opcode = k ∧ a.op ≠ r.mnemonic) ∧
      (Disk.system.perform (listingDisk immediateListing) (sessionWith parseArgs ["-t", "l"])).1.err =
        String.join (notes.map fun (k, a, r) =>
          Session.warning ("override for " ++ hexByte k.val ++ " says " ++ a.op ++ " but line " ++
            toString r.line ++ " lists " ++ r.mnemonic) ++ "\n") := by
  have parsed : parseArgs ["-t", "l"] = .ok { table := some "l" } := rfl
  have succeeded :
      (Disk.system.perform (listingDisk immediateListing) (sessionWith parseArgs ["-t", "l"])).1.status = 0 := by
    obtain ⟨g, built, -⟩ := standard_legend_builds
    obtain ⟨t, tabled⟩ := immediateListing_builds built
    have compiled : Session.compiled Disk.system { table := some "l" } (listingDisk immediateListing) =
        .ok t := by
      rw [compiled_listingDisk _ _ built rfl, tabled]
    obtain ⟨l, ran, -⟩ := Session.perform_execute_of_ok Disk.system _ built compiled
    rw [perform_sessionWith_of_ok Disk.system parsed, ran,
      Session.perform_deliver_toStdout Disk.system _ rfl]
  exact ⟨succeeded, quiet_run_warns_of_mismatches Disk.system parseArgs ["-t", "l"]
    { table := some "l" } "l" _ parsed rfl rfl (fun _ none => by cases none) succeeded⟩

/-- With `-o /dev/stderr` the flags send the source to a file, yet the file system passes it on
to standard error: on the listing of immediate `LDA` lines the run succeeds, and its standard
error holds the warnings followed by the generated Rust source, which is not empty. -/
theorem source_reaches_stderr_through_device :
    parseArgs ["-t", "l", "-o", "/dev/stderr"] =
        .ok { table := some "l", output := some "/dev/stderr" } ∧
      ∃ (g : Legend) (rows : List Row) (t : Table) (notes : List (Opcode × Amendment × Row)),
        Legend.standard = .ok g ∧ Listing.parse g (linesOf immediateListing) = .ok rows ∧
        Session.compiled Disk.system { table := some "l", output := some "/dev/stderr" }
          (listingDisk immediateListing) = .ok t ∧
        (notes.map (·.1)).Pairwise (· < ·) ∧
        (∀ k a r, (k, a, r) ∈ notes ↔
          a ∈ Amendment.standard ∧ a.opcode = k ∧ r ∈ rows ∧ r.opcode = k ∧ a.op ≠ r.mnemonic) ∧
        ((listingDisk immediateListing).perform (session ["-t", "l", "-o", "/dev/stderr"])).1.status = 0 ∧
        ((listingDisk immediateListing).perform (session ["-t", "l", "-o", "/dev/stderr"])).1.err =
          String.join (notes.map fun (k, a, r) =>
            Session.warning ("override for " ++ hexByte k.val ++ " says " ++ a.op ++ " but line " ++
              toString r.line ++ " lists " ++ r.mnemonic) ++ "\n") ++ Render.rust t ∧
        Render.rust t ≠ "" := by
  obtain ⟨g, standard, -⟩ := standard_legend_builds
  obtain ⟨t, tabled⟩ := immediateListing_builds standard
  obtain ⟨g', rows, am, same, parsedRows, amended, assembled⟩ := buildTable_eq_ok tabled
  cases same
  obtain rfl := AmendmentTable.eq_standard_of_build amended
  have parsed : parseArgs ["-t", "l", "-o", "/dev/stderr"] =
      .ok { table := some "l", output := some "/dev/stderr" } := rfl
  have compiled : Session.compiled Disk.system { table := some "l", output := some "/dev/stderr" }
      (listingDisk immediateListing) = .ok t := by
    rw [compiled_listingDisk _ _ standard rfl, tabled]
  have quiet : ({ table := some "l", output := some "/dev/stderr" } : Invocation).verbose = false :=
    rfl
  have emits : ({ table := some "l", output := some "/dev/stderr" } : Invocation).emits = true := rfl
  have passed : Disk.system.create (listingDisk immediateListing) "/dev/stderr"
      (Session.render { table := some "l", output := some "/dev/stderr" } t).toUTF8 =
        (listingDisk immediateListing, .ok .toStderr) := Disk.create_devStderr _ _
  obtain ⟨l, ran, warned⟩ := Session.perform_execute_listing_file Disk.system quiet
    (s := listingDisk immediateListing) rfl standard rfl parsedRows assembled
  obtain ⟨sorted, members, joined⟩ := Table.warnings_of_assemble assembled
  have delivered := Session.perform_deliver_written Disk.system (l := l) _ emits rfl rfl
    (by decide) passed
  refine ⟨parsed, g, rows, t, _, standard, parsedRows, compiled, sorted, members, ?_, ?_,
    Render.rust_ne_empty t⟩
  · rw [Disk.perform, session, perform_sessionWith_of_ok Disk.system parsed, ran, delivered]
    rfl
  · rw [Disk.perform, session, perform_sessionWith_of_ok Disk.system parsed, ran, delivered,
      Session.perform_succeed, Session.Log.say_err, Session.Log.echo_toStderr, warned, joined]
    rfl

end W65816
