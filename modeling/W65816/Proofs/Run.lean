import W65816.Session
import W65816.Proofs.Listing
import W65816.Proofs.Utf8

set_option autoImplicit false

/-!
# What a run prints, and what it leaves on the file system

A run is followed through its phases, against any file system: the listing is read and the
table built (`Session.compiled` names the outcome), then the table is delivered. Before
delivery the run has logged only that it reads the file `-t` names and, under `-v`, the traces
of the listing's rows and their count (`LogLine`): on standard output, unless the source goes
there, and then the `-v` lines on standard error. Delivery prints the source alone when it goes
to standard output. Otherwise standard output gets only those lines, the summary of the table,
the descriptor lines `--opcode` and `--list` ask for, the note of the files written, and the
text of an output file whose write the file system passes on to standard output
(`AsidePiece`), as `/dev/stdout` does.

A run that fails has changed the file system by the write it was refused, if any
(`WriteRefused`). Where refusals leave the system as it was, such a run has changed nothing,
with one exception (`HeaderLeft`): a C++ run that created the header and then could not create
the source file.
-/

namespace W65816

open W65816.Text W65816.Command

/-- A text made of pieces, each satisfying `P`. -/
inductive Pieces (P : String → Prop) : String → Prop
  | empty : Pieces P ""
  | push {text piece : String} : Pieces P text → P piece → Pieces P (text ++ piece)

/-- A whole line: `x` satisfying `P`, followed by a line break. -/
def Line (P : String → Prop) (piece : String) : Prop := ∃ x, P x ∧ piece = x ++ "\n"

namespace Pieces

variable {P Q : String → Prop}

theorem mono (weaker : ∀ x, P x → Q x) {text : String} (h : Pieces P text) : Pieces Q text := by
  induction h with
  | empty => exact .empty
  | push _ holds inductionHypothesis => exact .push inductionHypothesis (weaker _ holds)

theorem line {text x : String} (h : Pieces (Line P) text) (holds : P x) :
    Pieces (Line P) (text ++ x ++ "\n") := by
  rw [String.append_assoc]
  exact .push h ⟨x, holds, rfl⟩

end Pieces

namespace Session

/-- A line of `-v` about the rows `rows` read under the legend `g`: the trace of one of them, or
their count with that of the standard amendments. -/
inductive TraceLine (inv : Invocation) (g : Legend) (rows : List Row) : String → Prop
  | row {r : Row} : inv.verbose = true → r ∈ rows → TraceLine inv g rows (traceLine g r)
  | count : inv.verbose = true →
      TraceLine inv g rows (countLine rows.length Amendment.standard.length)

/-- A line a run logs before its table is built: that it reads the listing file `-t` names, or
a line of `-v`. -/
inductive LogLine (inv : Invocation) (g : Legend) (rows : List Row) : String → Prop
  | reading {path : String} : inv.table = some path →
      LogLine inv g rows (info ("Reading reference listing " ++ path))
  | trace {x : String} : TraceLine inv g rows x → LogLine inv g rows x

/-- A file a run writes the source of `t` to, with its text: the one file `-o` names, or for
C++ the header and the source file derived from it. -/
inductive OutputFile (inv : Invocation) (t : Table) : String → String → Prop
  | whole {path : String} : inv.output = some path → inv.format ≠ .cpp →
      OutputFile inv t path (render inv t)
  | header {path : String} : inv.output = some path → inv.format = .cpp →
      OutputFile inv t (Path.withExtension path "h") (Render.cppHeader t inv.cppNamespace)
  | source {path header : String} : inv.output = some path → inv.format = .cpp →
      Path.fileName (Path.withExtension path "h") = some header →
      OutputFile inv t (Path.withExtension path "cpp") (Render.cppSource t inv.cppNamespace header)

/-- A piece of standard output of a run that built `t` from the rows `rows` under the legend
`g`, when the source does not go to standard output: a line it logged, the summary of `t`, a
descriptor line of `t` that `--opcode` or `--list` asks for, the note of the files written, or
the text of an output file whose write the file system passed on to standard output. -/
inductive AsidePiece {σ : Type} (fs : FileSystem σ) (inv : Invocation) (g : Legend)
    (rows : List Row) (t : Table) : String → Prop
  | log {x : String} : LogLine inv g rows x → AsidePiece fs inv g rows t (x ++ "\n")
  | summary : AsidePiece fs inv g rows t (info (summary t) ++ "\n")
  | opcode {k : Opcode} : inv.opcode = some k → AsidePiece fs inv g rows t ((t.get k).line ++ "\n")
  | listed {e : Descriptor} : inv.list = true → e ∈ t.entries →
      AsidePiece fs inv g rows t (e.line ++ "\n")
  | wrote {path : String} : inv.output = some path → inv.format ≠ .cpp →
      AsidePiece fs inv g rows t (info ("Wrote " ++ path) ++ "\n")
  | wroteBoth {path : String} : inv.output = some path → inv.format = .cpp →
      AsidePiece fs inv g rows t
        (info ("Wrote " ++ Path.withExtension path "h" ++ " and " ++ Path.withExtension path "cpp") ++ "\n")
  | passedOn {path text : String} {s s' : σ} : OutputFile inv t path text →
      fs.create s path text.toUTF8 = (s', .ok .toStdout) → AsidePiece fs inv g rows t text

/-- What a run has printed before its table is built: its log lines on standard output, none
when the source goes there, and `-v` lines on standard error. -/
structure Log.Chatter (inv : Invocation) (g : Legend) (rows : List Row) (l : Log) : Prop where
  out : Pieces (Line (LogLine inv g rows)) l.out
  err : Pieces (Line (TraceLine inv g rows)) l.err
  quiet : inv.toStdout = true → l.out = ""

/-- What a run has printed on standard output once its table `t` is built: its log lines and
the summary, and nothing when the source goes to standard output. -/
structure Log.Quiet {σ : Type} (fs : FileSystem σ) (inv : Invocation) (g : Legend)
    (rows : List Row) (t : Table) (l : Log) : Prop where
  out : Pieces (AsidePiece fs inv g rows t) l.out
  quiet : inv.toStdout = true → l.out = ""

/-- What a failed run ends with: what it printed, then the fault's message and its kind on
standard error, and status 1. -/
def failed (l : Log) (f : Fault) : Transcript :=
  { out := l.out, err := l.err ++ f.display ++ "\n" ++ f.report ++ "\n", status := 1 }

section Phases

variable {σ : Type} (fs : FileSystem σ)

/-- The lines of the listing a run builds its table from: the lines of the file `-t` names, or
the standard listing; or why the file could not be read. -/
def listing (inv : Invocation) (s : σ) : Except Fault (List String) :=
  match inv.table with
  | none => .ok Listing.standardLines
  | some path =>
    match fs.read s path with
    | .error e => .error (.io e)
    | .ok bytes =>
      match readLines bytes with
      | .error e => .error (.io e)
      | .ok lines => .ok lines

/-- The table a run builds once the legend is built or has failed, or the first fault on the
way: the listing, then the amendments and the coverage of the opcodes. -/
def compiledWith (legend : Except Fault Legend) (inv : Invocation) (s : σ) : Except Fault Table :=
  match legend with
  | .error f => .error f
  | .ok g =>
    match listing fs inv s with
    | .error f => .error f
    | .ok lines => buildTable (.ok g) lines Amendment.standard

def compiled (inv : Invocation) (s : σ) : Except Fault Table := compiledWith fs Legend.standard inv s

/-- The rows a run reads from its listing under the legend `g`, up to the first faulty line;
none when the listing cannot be read. -/
def listingRows (g : Legend) (inv : Invocation) (s : σ) : List Row :=
  match listing fs inv s with
  | .ok lines => (Listing.scan g lines).1
  | .error _ => []

/-- A C++ run writing the source of `t` created the header on `s`, and then could not create
the source file next to it; `s'` is the state the refusal left. -/
def HeaderLeft (inv : Invocation) (t : Table) (s s' : σ) : Prop :=
  ∃ path header w s₁ e, inv.emits = true ∧ inv.format = .cpp ∧ inv.output = some path ∧
    Path.fileName (Path.withExtension path "h") = some header ∧
    fs.create s (Path.withExtension path "h") (Render.cppHeader t inv.cppNamespace).toUTF8 =
      (s₁, .ok w) ∧
    fs.create s₁ (Path.withExtension path "cpp")
      (Render.cppSource t inv.cppNamespace header).toUTF8 = (s', .error e)

/-- A run writing the source of `t` from `s` was refused a write, which left `s'`: the one file
of a run not in C++, the C++ header, or the C++ source file once the header was made. -/
def WriteRefused (inv : Invocation) (t : Table) (s s' : σ) : Prop :=
  (∃ path e, inv.emits = true ∧ inv.format ≠ .cpp ∧ inv.output = some path ∧
    fs.create s path (render inv t).toUTF8 = (s', .error e)) ∨
  (∃ path header e, inv.emits = true ∧ inv.format = .cpp ∧ inv.output = some path ∧
    Path.fileName (Path.withExtension path "h") = some header ∧
    fs.create s (Path.withExtension path "h") (Render.cppHeader t inv.cppNamespace).toUTF8 =
      (s', .error e)) ∨
  HeaderLeft fs inv t s s'

end Phases

/-! ## The log before delivery -/

variable {inv : Invocation} {g : Legend} {rows : List Row} {l : Log}

theorem Log.Chatter.empty : Log.Chatter inv g rows {} := ⟨.empty, .empty, fun _ => rfl⟩

theorem Log.Chatter.trace (chatter : Log.Chatter inv g rows l) {x : String}
    (traced : inv.verbose = true → TraceLine inv g rows x) : Log.Chatter inv g rows (l.trace inv x) := by
  unfold Log.trace
  cases verbose : inv.verbose with
  | false => simpa using chatter
  | true =>
    cases toStdout : inv.toStdout with
    | true =>
      exact ⟨chatter.out, chatter.err.line (traced verbose), fun _ => chatter.quiet toStdout⟩
    | false =>
      exact ⟨chatter.out.line (.trace (traced verbose)), chatter.err,
        fun h => by simp [toStdout] at h⟩

/-- The log of a run that reads a listing file, before it reads it. -/
theorem Log.Chatter.opened {path : String} (named : inv.table = some path) :
    Log.Chatter inv g rows
      (if inv.toStdout then {} else ({} : Log).say (info ("Reading reference listing " ++ path))) := by
  cases toStdout : inv.toStdout with
  | true => exact Log.Chatter.empty
  | false =>
    exact ⟨Pieces.empty.line (.reading named), .empty, fun h => by simp [toStdout] at h⟩

theorem Log.Chatter.traceRows (chatter : Log.Chatter inv g rows l) (rs : List Row)
    (within : ∀ r ∈ rs, r ∈ rows) :
    Log.Chatter inv g rows (rs.foldl (fun l r => l.trace inv (traceLine g r)) l) := by
  induction rs generalizing l with
  | nil => exact chatter
  | cons r rs inductionHypothesis =>
    exact inductionHypothesis (chatter.trace fun verbose => .row verbose (within r List.mem_cons_self))
      fun r' member => within r' (List.mem_cons_of_mem r member)

@[simp]
theorem Log.warnAll_out (ws : List String) (l : Log) :
    (ws.foldl (fun l w => l.warn (warning w)) l).out = l.out := by
  induction ws generalizing l with
  | nil => rfl
  | cons w ws inductionHypothesis => exact inductionHypothesis _

theorem Log.Chatter.logged {σ : Type} {fs : FileSystem σ} {t : Table}
    (chatter : Log.Chatter inv g rows l) : Pieces (AsidePiece fs inv g rows t) l.out :=
  chatter.out.mono fun _ ⟨_, line, joined⟩ => joined ▸ .log line

theorem build_of_error {lines : List String} {f : Fault}
    (broken : buildTable (.ok g) lines Amendment.standard = .error f)
    (chatter : Log.Chatter inv g (Listing.scan g lines).1 l) :
    ∃ l', build inv l g lines = fail l' f ∧ Log.Chatter inv g (Listing.scan g lines).1 l' := by
  have traced := chatter.traceRows (Listing.scan g lines).1 fun _ member => member
  rw [buildTable_ok, standard_amendments_build] at broken
  delta build
  rw [standard_amendments_build]
  rcases scanned : Listing.scan g lines with ⟨rows, _ | f'⟩
  · rw [scanned] at broken traced
    cases assembled : Table.assemble g rows AmendmentTable.standard with
    | error f' =>
      obtain rfl : f' = f := by simpa [assembled] using broken
      exact ⟨_, by dsimp only; rw [assembled]; rfl, traced.trace .count⟩
    | ok t => simp [assembled] at broken
  · rw [scanned] at broken traced
    obtain rfl : f' = f := by simpa using broken
    exact ⟨_, rfl, traced⟩

theorem build_of_ok {σ : Type} (fs : FileSystem σ) {lines : List String} {t : Table}
    (built : buildTable (.ok g) lines Amendment.standard = .ok t)
    (chatter : Log.Chatter inv g (Listing.scan g lines).1 l) :
    ∃ l', build inv l g lines = deliver inv l' t ∧ Log.Quiet fs inv g (Listing.scan g lines).1 t l' := by
  have traced := chatter.traceRows (Listing.scan g lines).1 fun _ member => member
  rw [buildTable_ok, standard_amendments_build] at built
  delta build
  rw [standard_amendments_build]
  rcases scanned : Listing.scan g lines with ⟨rows, _ | f⟩
  · rw [scanned] at built traced
    cases assembled : Table.assemble g rows AmendmentTable.standard with
    | error f => simp [assembled] at built
    | ok t' =>
      obtain rfl : t' = t := by simpa [assembled] using built
      have counted := traced.trace .count
      cases toStdout : inv.toStdout with
      | true =>
        refine ⟨_, by dsimp only; rw [assembled], ⟨?_, fun _ => ?_⟩⟩
        all_goals rw [if_pos rfl, Log.warnAll_out]
        · exact counted.logged
        · exact counted.quiet toStdout
      | false =>
        refine ⟨_, by dsimp only; rw [assembled], ⟨?_, fun h => by simp [toStdout] at h⟩⟩
        rw [if_neg Bool.false_ne_true, Log.say_out, Log.warnAll_out, String.append_assoc]
        exact .push counted.logged .summary
  · rw [scanned] at built
    simp at built

/-! ## Playing the phases -/

section Perform

variable {σ : Type} (fs : FileSystem σ)

@[simp]
theorem perform_fail (s : σ) (f : Fault) : fs.perform s (fail l f) = (failed l f, s) := rfl

@[simp]
theorem perform_succeed (s : σ) : fs.perform s (succeed l) = (⟨l.out, l.err, 0⟩, s) := rfl

@[simp]
theorem perform_read (s : σ) (path : String) (next : Except IoFault ByteArray → Script) :
    fs.perform s (.read path next) = fs.perform s (next (fs.read s path)) := rfl

theorem perform_create_eq {s s' : σ} {path text : String} {r : Except WriteFault Written}
    (created : fs.create s path text.toUTF8 = (s', r)) (next : Except WriteFault Written → Script) :
    fs.perform s (.create path text next) = fs.perform s' (next r) := by
  rw [FileSystem.perform, created]

/-- Before the table is built, a run under the legend `g` either fails to read its listing,
having printed only the note that it reads it and touched nothing, or holds the listing's lines
and goes on to build the table from them. -/
theorem perform_executeWith_cases (s : σ) (g : Legend) :
    (∃ f l, listing fs inv s = .error f ∧
      fs.perform s (executeWith (.ok g) inv) = (failed l f, s) ∧ Log.Chatter inv g [] l) ∨
    (∃ lines l, listing fs inv s = .ok lines ∧
      fs.perform s (executeWith (.ok g) inv) = fs.perform s (build inv l g lines) ∧
      Log.Chatter inv g (Listing.scan g lines).1 l) := by
  cases table : inv.table with
  | none =>
    exact .inr ⟨Listing.standardLines, {}, by simp only [listing, table],
      by simp only [executeWith, table], Log.Chatter.empty⟩
  | some path =>
    cases readResult : fs.read s path with
    | error e =>
      exact .inl ⟨.io e, _, by simp only [listing, table, readResult],
        by simp only [executeWith, table, perform_read, readResult, perform_fail],
        Log.Chatter.opened table⟩
    | ok bytes =>
      cases decoded : readLines bytes with
      | error e =>
        exact .inl ⟨.io e, _, by simp only [listing, table, readResult, decoded],
          by simp only [executeWith, table, perform_read, readResult, decoded, perform_fail],
          Log.Chatter.opened table⟩
      | ok lines =>
        exact .inr ⟨lines, _, by simp only [listing, table, readResult, decoded],
          by simp only [executeWith, table, perform_read, readResult, decoded],
          Log.Chatter.opened table⟩

theorem perform_execute_of_error (s : σ) (standard : Legend.standard = .ok g) {f : Fault}
    (broken : compiled fs inv s = .error f) :
    ∃ l, fs.perform s (execute inv) = (failed l f, s) ∧ Log.Chatter inv g (listingRows fs g inv s) l := by
  rw [compiled, standard] at broken
  simp only [compiledWith] at broken
  rw [execute, standard]
  rcases perform_executeWith_cases fs s g with
    ⟨f', l, unread, ran, chatter⟩ | ⟨lines, l, read, ran, chatter⟩
  · rw [unread] at broken
    obtain rfl : f' = f := Except.error.inj broken
    exact ⟨l, ran, by rw [listingRows, unread]; exact chatter⟩
  · rw [read] at broken
    obtain ⟨l', built, chatter'⟩ := build_of_error broken chatter
    exact ⟨l', by rw [ran, built, perform_fail], by rw [listingRows, read]; exact chatter'⟩

theorem perform_execute_of_ok (s : σ) (standard : Legend.standard = .ok g) {t : Table}
    (built : compiled fs inv s = .ok t) :
    ∃ l, fs.perform s (execute inv) = fs.perform s (deliver inv l t) ∧
      Log.Quiet fs inv g (listingRows fs g inv s) t l := by
  rw [compiled, standard] at built
  simp only [compiledWith] at built
  rw [execute, standard]
  rcases perform_executeWith_cases fs s g with
    ⟨f, l, unread, -, -⟩ | ⟨lines, l, read, ran, chatter⟩
  · rw [unread] at built
    cases built
  · rw [read] at built
    obtain ⟨l', delivered, quiet⟩ := build_of_ok fs built chatter
    exact ⟨l', by rw [ran, delivered], by rw [listingRows, read]; exact quiet⟩

/-! ## Delivery -/

variable {t : Table} {path : String}

/-- What writing the outputs to `path` can do: outside C++, have the one write refused or make
the file; in C++, stop at a path with no file name, have the header's write refused, make the
header and have the source's write refused, or make both. -/
theorem perform_writeOutputs_cases (inv : Invocation) (l : Log) (t : Table) (path : String) (s : σ) :
    (inv.format ≠ .cpp ∧ ∃ s₁ e, fs.create s path (render inv t).toUTF8 = (s₁, .error e) ∧
      fs.perform s (writeOutputs inv l t path) =
        (failed l (writeFault inv.format (render inv t) e), s₁)) ∨
    (inv.format ≠ .cpp ∧ ∃ s₁ w, fs.create s path (render inv t).toUTF8 = (s₁, .ok w) ∧
      fs.perform s (writeOutputs inv l t path) =
        fs.perform s₁ (succeed ((l.echo (render inv t) w).say (info ("Wrote " ++ path))))) ∨
    (inv.format = .cpp ∧ Path.fileName (Path.withExtension path "h") = none ∧
      fs.perform s (writeOutputs inv l t path) = (failed l (.badOutputPath path), s)) ∨
    (inv.format = .cpp ∧ ∃ header s₁ e, Path.fileName (Path.withExtension path "h") = some header ∧
      fs.create s (Path.withExtension path "h") (Render.cppHeader t inv.cppNamespace).toUTF8 =
        (s₁, .error e) ∧
      fs.perform s (writeOutputs inv l t path) =
        (failed l (writeFault .cpp (Render.cppHeader t inv.cppNamespace) e), s₁)) ∨
    (inv.format = .cpp ∧ ∃ header s₁ w s₂ e,
      Path.fileName (Path.withExtension path "h") = some header ∧
      fs.create s (Path.withExtension path "h") (Render.cppHeader t inv.cppNamespace).toUTF8 =
        (s₁, .ok w) ∧
      fs.create s₁ (Path.withExtension path "cpp")
        (Render.cppSource t inv.cppNamespace header).toUTF8 = (s₂, .error e) ∧
      fs.perform s (writeOutputs inv l t path) =
        (failed (l.echo (Render.cppHeader t inv.cppNamespace) w)
          (writeFault .cpp (Render.cppSource t inv.cppNamespace header) e), s₂)) ∨
    (inv.format = .cpp ∧ ∃ header s₁ w s₂ w',
      Path.fileName (Path.withExtension path "h") = some header ∧
      fs.create s (Path.withExtension path "h") (Render.cppHeader t inv.cppNamespace).toUTF8 =
        (s₁, .ok w) ∧
      fs.create s₁ (Path.withExtension path "cpp")
        (Render.cppSource t inv.cppNamespace header).toUTF8 = (s₂, .ok w') ∧
      fs.perform s (writeOutputs inv l t path) =
        fs.perform s₂ (succeed (((l.echo (Render.cppHeader t inv.cppNamespace) w).echo
          (Render.cppSource t inv.cppNamespace header) w').say
            (info ("Wrote " ++ Path.withExtension path "h" ++ " and " ++
              Path.withExtension path "cpp"))))) := by
  by_cases cpp : inv.format = .cpp
  · cases named : Path.fileName (Path.withExtension path "h") with
    | none => exact .inr (.inr (.inl ⟨cpp, rfl, by simp only [writeOutputs, cpp, named]; rfl⟩))
    | some header =>
      rcases madeHeader : fs.create s (Path.withExtension path "h")
        (Render.cppHeader t inv.cppNamespace).toUTF8 with ⟨s₁, e | w⟩
      · refine .inr (.inr (.inr (.inl ⟨cpp, header, s₁, e, rfl, rfl, ?_⟩)))
        simp only [writeOutputs, cpp, named]
        rw [perform_create_eq fs madeHeader]
        rfl
      · rcases madeSource : fs.create s₁ (Path.withExtension path "cpp")
          (Render.cppSource t inv.cppNamespace header).toUTF8 with ⟨s₂, e | w'⟩
        · refine .inr (.inr (.inr (.inr (.inl ⟨cpp, header, s₁, w, s₂, e, rfl, rfl, madeSource, ?_⟩))))
          simp only [writeOutputs, cpp, named]
          rw [perform_create_eq fs madeHeader]
          dsimp only
          rw [perform_create_eq fs madeSource]
          rfl
        · refine .inr (.inr (.inr (.inr (.inr ⟨cpp, header, s₁, w, s₂, w', rfl, rfl, madeSource, ?_⟩))))
          simp only [writeOutputs, cpp, named]
          rw [perform_create_eq fs madeHeader]
          dsimp only
          rw [perform_create_eq fs madeSource]
  · rcases made : fs.create s path (render inv t).toUTF8 with ⟨s₁, e | w⟩
    · refine .inl ⟨cpp, s₁, e, rfl, ?_⟩
      simp only [writeOutputs]
      rw [perform_create_eq fs made]
      rfl
    · refine .inr (.inl ⟨cpp, s₁, w, rfl, ?_⟩)
      simp only [writeOutputs]
      rw [perform_create_eq fs made]

/-- What delivering can do: print the descriptor `--opcode` asks for, stop after the descriptor
lines of `--list` when nothing is emitted, print the source to standard output, or write it to
the files derived from the `-o` path. -/
theorem perform_deliver_cases (inv : Invocation) (l : Log) (t : Table) (s : σ) :
    (∃ k, inv.opcode = some k ∧
      fs.perform s (deliver inv l t) = (⟨(l.say (t.get k).line).out, l.err, 0⟩, s)) ∨
    (inv.opcode = none ∧ inv.emits = false ∧
      fs.perform s (deliver inv l t) = (⟨(listLines inv l t).out, (listLines inv l t).err, 0⟩, s)) ∨
    (inv.toStdout = true ∧ fs.perform s (deliver inv l t) = (⟨l.out ++ render inv t, l.err, 0⟩, s)) ∨
    (∃ path, inv.emits = true ∧ inv.output = some path ∧
      fs.perform s (deliver inv l t) = fs.perform s (writeOutputs inv (listLines inv l t) t path)) := by
  cases chosen : inv.opcode with
  | some k => exact .inl ⟨k, rfl, by simp [deliver, chosen]⟩
  | none =>
    cases emits : inv.emits with
    | false => exact .inr (.inl ⟨rfl, rfl, by simp [deliver, chosen, emits]⟩)
    | true =>
      cases output : inv.output with
      | none =>
        have notListed : inv.list = false := by
          have unchecked : inv.check = false ∧ inv.list = false := by
            simpa [Invocation.emits, chosen, output] using emits
          exact unchecked.2
        have toStdout : inv.toStdout = true := by simp [Invocation.toStdout, emits, output]
        exact .inr (.inr (.inl ⟨toStdout, by simp [deliver, chosen, emits, output, listLines, notListed]⟩))
      | some path =>
        exact .inr (.inr (.inr ⟨path, rfl, rfl, by simp [deliver, chosen, emits, output]⟩))

theorem opcode_eq_none_of_emits (emits : inv.emits = true) : inv.opcode = none := by
  simp only [Invocation.emits, Bool.and_eq_true, Bool.not_eq_true', Option.isNone_iff_eq_none] at emits
  exact emits.1.2

theorem perform_deliver_output (s : σ) (emits : inv.emits = true) (output : inv.output = some path) :
    fs.perform s (deliver inv l t) = fs.perform s (writeOutputs inv (listLines inv l t) t path) := by
  simp [deliver, opcode_eq_none_of_emits emits, emits, output]

/-- When the source goes to standard output, delivering prints it and nothing else, and
touches no file. -/
theorem perform_deliver_toStdout (s : σ) (toStdout : inv.toStdout = true) :
    fs.perform s (deliver inv l t) = (⟨l.out ++ render inv t, l.err, 0⟩, s) := by
  rcases perform_deliver_cases fs inv l t s with
    ⟨k, chosen, -⟩ | ⟨-, silent, -⟩ | ⟨-, ran⟩ | ⟨path, -, output, -⟩
  · simp [Invocation.toStdout, Invocation.emits, chosen] at toStdout
  · simp [Invocation.toStdout, silent] at toStdout
  · exact ran
  · simp [Invocation.toStdout, output] at toStdout

/-! ## What a failed delivery leaves -/

theorem perform_deliver_failed (s : σ) :
    (fs.perform s (deliver inv l t)).1.status ≠ 0 →
      (fs.perform s (deliver inv l t)).2 = s ∨
        WriteRefused fs inv t s (fs.perform s (deliver inv l t)).2 := by
  rcases perform_deliver_cases fs inv l t s with
    ⟨k, -, ran⟩ | ⟨-, -, ran⟩ | ⟨-, ran⟩ | ⟨path, emits, output, ran⟩
  · simp [ran]
  · simp [ran]
  · simp [ran]
  · rw [ran]
    rcases perform_writeOutputs_cases fs inv (listLines inv l t) t path s
      with ⟨notCpp, s₁, e, refused, wrote⟩ | ⟨-, s₁, w, -, wrote⟩ | ⟨-, -, wrote⟩ |
        ⟨cpp, header, s₁, e, named, refused, wrote⟩ |
        ⟨cpp, header, s₁, w, s₂, e, named, madeHeader, refused, wrote⟩ |
        ⟨-, header, s₁, w, s₂, w', -, -, -, wrote⟩
    all_goals rw [wrote]
    · exact fun _ => .inr (.inl ⟨path, e, emits, notCpp, output, refused⟩)
    · simp
    · exact fun _ => .inl rfl
    · exact fun _ => .inr (.inr (.inl ⟨path, header, e, emits, cpp, output, named, refused⟩))
    · exact fun _ => .inr (.inr (.inr ⟨path, header, w, s₁, e, emits, cpp, output, named,
        madeHeader, refused⟩))
    · simp

theorem perform_deliver_headerLeft {s s' : σ} (left : HeaderLeft fs inv t s s') :
    (fs.perform s (deliver inv l t)).1.status = 1 ∧ (fs.perform s (deliver inv l t)).2 = s' := by
  obtain ⟨path, header, w, s₁, e, emits, cpp, output, named, madeHeader, madeSource⟩ := left
  rw [perform_deliver_output fs s emits output]
  simp only [writeOutputs, cpp, named]
  rw [perform_create_eq fs madeHeader]
  dsimp only
  rw [perform_create_eq fs madeSource]
  exact ⟨rfl, rfl⟩

/-- Where refusals leave the system as it was, a refused write changes nothing but for the
header a C++ run made before its source file was refused. -/
theorem WriteRefused.keeps (keeps : fs.KeepsOnRefusal) {s s' : σ}
    (refused : WriteRefused fs inv t s s') : s' = s ∨ HeaderLeft fs inv t s s' := by
  rcases refused with ⟨path, e, -, -, -, created⟩ | ⟨path, header, e, -, -, -, -, created⟩ | left
  · exact .inl (keeps _ _ _ _ _ created)
  · exact .inl (keeps _ _ _ _ _ created)
  · exact .inr left

/-! ## Standard output of a delivery that does not print the source -/

variable {g : Legend} {rows : List Row}

theorem Log.aside_say {P : String → Prop} {x : String} (h : Pieces P l.out)
    (holds : P (x ++ "\n")) : Pieces P (l.say x).out := by
  rw [Log.say_out, String.append_assoc]
  exact .push h holds

theorem Log.aside_echo (h : Pieces (AsidePiece fs inv g rows t) l.out) {path text : String}
    {s s' : σ} {w : Written} (file : OutputFile inv t path text)
    (made : fs.create s path text.toUTF8 = (s', .ok w)) :
    Pieces (AsidePiece fs inv g rows t) (l.echo text w).out := by
  cases w with
  | kept => exact h
  | toStdout => exact .push h (.passedOn file made)
  | toStderr => exact h

theorem Log.aside_listLines (h : Pieces (AsidePiece fs inv g rows t) l.out) :
    Pieces (AsidePiece fs inv g rows t) (listLines inv l t).out := by
  unfold listLines
  cases listed : inv.list with
  | false => exact h
  | true =>
    suffices each : ∀ es : List Descriptor, (∀ e ∈ es, e ∈ t.entries) → ∀ l : Log,
        Pieces (AsidePiece fs inv g rows t) l.out →
          Pieces (AsidePiece fs inv g rows t) (es.foldl (fun l e => l.say e.line) l).out from
      each t.entries (fun _ member => member) l h
    intro es
    induction es with
    | nil => exact fun _ _ h => h
    | cons e es inductionHypothesis =>
      intro within l h
      exact inductionHypothesis (fun e' member => within e' (List.mem_cons_of_mem e member)) _
        (Log.aside_say h (.listed listed (within e List.mem_cons_self)))

theorem perform_writeOutputs_aside (s : σ) (output : inv.output = some path)
    (aside : Pieces (AsidePiece fs inv g rows t) l.out) :
    Pieces (AsidePiece fs inv g rows t) (fs.perform s (writeOutputs inv l t path)).1.out := by
  rcases perform_writeOutputs_cases fs inv l t path s
    with ⟨-, s₁, e, -, wrote⟩ | ⟨notCpp, s₁, w, made, wrote⟩ | ⟨-, -, wrote⟩ |
      ⟨-, header, s₁, e, -, -, wrote⟩ | ⟨cpp, header, s₁, w, s₂, e, -, madeHeader, -, wrote⟩ |
      ⟨cpp, header, s₁, w, s₂, w', named, madeHeader, madeSource, wrote⟩
  all_goals rw [wrote]
  · exact aside
  · exact Log.aside_say (Log.aside_echo fs aside (.whole output notCpp) made) (.wrote output notCpp)
  · exact aside
  · exact aside
  · exact Log.aside_echo fs aside (.header output cpp) madeHeader
  · exact Log.aside_say (Log.aside_echo fs (Log.aside_echo fs aside (.header output cpp) madeHeader)
      (.source output cpp named) madeSource) (.wroteBoth output cpp)

/-- When the source does not go to standard output, delivering adds to standard output only
descriptor lines, the note of the files written, and the texts of output files that the file
system passed on to it. -/
theorem perform_deliver_aside (s : σ) (notStdout : inv.toStdout = false)
    (aside : Pieces (AsidePiece fs inv g rows t) l.out) :
    Pieces (AsidePiece fs inv g rows t) (fs.perform s (deliver inv l t)).1.out := by
  rcases perform_deliver_cases fs inv l t s with
    ⟨k, chosen, ran⟩ | ⟨-, -, ran⟩ | ⟨toStdout, -⟩ | ⟨path, -, output, ran⟩
  · rw [ran]
    exact Log.aside_say aside (.opcode chosen)
  · rw [ran]
    exact Log.aside_listLines fs aside
  · rw [notStdout] at toStdout
    cases toStdout
  · rw [ran]
    exact perform_writeOutputs_aside fs s output (Log.aside_listLines fs aside)

/-- A run not in C++ and without `--list` that writes its source to a path ends, once the write
is made, with what it printed before, the source where the file system put it, and the note of
the file written. -/
theorem perform_deliver_written (s : σ) {s' : σ} {w : Written} (emits : inv.emits = true)
    (notListed : inv.list = false) (output : inv.output = some path) (notCpp : inv.format ≠ .cpp)
    (made : fs.create s path (render inv t).toUTF8 = (s', .ok w)) :
    fs.perform s (deliver inv l t) =
      fs.perform s' (succeed (((l.echo (render inv t) w).say (info ("Wrote " ++ path))))) := by
  have unlisted : listLines inv l t = l := by simp [listLines, notListed]
  rw [perform_deliver_output fs s emits output, unlisted]
  rcases perform_writeOutputs_cases fs inv l t path s
    with ⟨-, s₁, e, refused, -⟩ | ⟨-, s₁, w', made', wrote⟩ | ⟨cpp, -⟩ | ⟨cpp, -⟩ | ⟨cpp, -⟩ | ⟨cpp, -⟩
  · rw [made] at refused
    cases refused
  · rw [made] at made'
    obtain ⟨rfl, rfl⟩ : s' = s₁ ∧ w = w' := by
      simpa only [Prod.mk.injEq, Except.ok.injEq] using made'
    exact wrote
  all_goals exact absurd cpp notCpp

end Perform

end Session

theorem Invocation.toStdout_eq_true_iff (inv : Invocation) :
    inv.toStdout = true ↔
      inv.check = false ∧ inv.opcode = none ∧ inv.list = false ∧ inv.output = none := by
  cases output : inv.output <;> simp [Invocation.toStdout, Invocation.emits, output, and_assoc]

section Sessions

variable {σ : Type} (fs : FileSystem σ) {parse : List String → Except Stop Invocation}
  {args : List String}

theorem perform_sessionWith_of_stop {stop : Stop} (stopped : parse args = .error stop) (s : σ) :
    (fs.perform s (sessionWith parse args)).2 = s := by
  unfold sessionWith
  rw [stopped]
  cases stop <;> rfl

theorem perform_sessionWith_of_ok {inv : Invocation} (parsed : parse args = .ok inv) (s : σ) :
    fs.perform s (sessionWith parse args) = fs.perform s (Session.execute inv) := by
  simp only [sessionWith, parsed]

end Sessions

/-- A failed run changes the file system only by the write it was refused: a run not in C++ by
the refused write of its one file, a C++ run by the refused write of its header, or by the
header it made and the refused write of its source file. Where refusals leave the system as it
was, a failed run leaves it unchanged but for that header, and every run that makes the header
and is refused the source file fails and leaves the header. When the table cannot be built,
the run prints on standard output only that it reads its listing file and the `-v` lines about
the listing's rows, on standard error those `-v` lines and then the fault's message, and ends
with status 1. -/
theorem failed_run_leaves_disk {σ : Type} (fs : FileSystem σ)
    (parse : List String → Except Stop Invocation) (args : List String) (s : σ) :
    ((fs.perform s (sessionWith parse args)).1.status ≠ 0 →
      (fs.perform s (sessionWith parse args)).2 = s ∨
        ∃ inv t, parse args = .ok inv ∧ Session.compiled fs inv s = .ok t ∧
          Session.WriteRefused fs inv t s (fs.perform s (sessionWith parse args)).2) ∧
    (fs.KeepsOnRefusal → (fs.perform s (sessionWith parse args)).1.status ≠ 0 →
      (fs.perform s (sessionWith parse args)).2 = s ∨
        ∃ inv t, parse args = .ok inv ∧ Session.compiled fs inv s = .ok t ∧
          Session.HeaderLeft fs inv t s (fs.perform s (sessionWith parse args)).2) ∧
    (∀ inv t s', parse args = .ok inv → Session.compiled fs inv s = .ok t →
      Session.HeaderLeft fs inv t s s' →
        (fs.perform s (sessionWith parse args)).1.status = 1 ∧
          (fs.perform s (sessionWith parse args)).2 = s') ∧
    (∀ inv f, parse args = .ok inv → Session.compiled fs inv s = .error f →
      (fs.perform s (sessionWith parse args)).1.status = 1 ∧
      (fs.perform s (sessionWith parse args)).2 = s ∧
      ∃ g, Legend.standard = .ok g ∧
        Pieces (Line (Session.LogLine inv g (Session.listingRows fs g inv s)))
          (fs.perform s (sessionWith parse args)).1.out ∧
        ∃ v, Pieces (Line (Session.TraceLine inv g (Session.listingRows fs g inv s))) v ∧
          (fs.perform s (sessionWith parse args)).1.err = v ++ f.display ++ "\n" ++ f.report ++ "\n") := by
  obtain ⟨g, standard, -⟩ := standard_legend_builds
  have changedOnlyByRefusal : (fs.perform s (sessionWith parse args)).1.status ≠ 0 →
      (fs.perform s (sessionWith parse args)).2 = s ∨
        ∃ inv t, parse args = .ok inv ∧ Session.compiled fs inv s = .ok t ∧
          Session.WriteRefused fs inv t s (fs.perform s (sessionWith parse args)).2 := by
    intro failedRun
    cases parsed : parse args with
    | error stop => exact .inl (perform_sessionWith_of_stop fs parsed s)
    | ok inv =>
      rw [perform_sessionWith_of_ok fs parsed] at failedRun ⊢
      cases built : Session.compiled fs inv s with
      | error f =>
        obtain ⟨l, ran, -⟩ := Session.perform_execute_of_error fs s standard built
        exact .inl (by rw [ran])
      | ok t =>
        obtain ⟨l, ran, -⟩ := Session.perform_execute_of_ok fs s standard built
        rw [ran] at failedRun ⊢
        exact (Session.perform_deliver_failed fs s failedRun).imp_right
          fun refused => ⟨inv, t, rfl, built, refused⟩
  refine ⟨changedOnlyByRefusal, fun keeps failedRun => ?_, ?_, ?_⟩
  · rcases changedOnlyByRefusal failedRun with unchanged | ⟨inv, t, parsed, built, refused⟩
    · exact .inl unchanged
    · exact (Session.WriteRefused.keeps fs keeps refused).imp id
        fun left => ⟨inv, t, parsed, built, left⟩
  · intro inv t s' parsed built left
    obtain ⟨l, ran, -⟩ := Session.perform_execute_of_ok fs s standard built
    rw [perform_sessionWith_of_ok fs parsed, ran]
    exact Session.perform_deliver_headerLeft fs left
  · intro inv f parsed broken
    obtain ⟨l, ran, chatter⟩ := Session.perform_execute_of_error fs s standard broken
    rw [perform_sessionWith_of_ok fs parsed, ran]
    exact ⟨rfl, rfl, g, standard, chatter.out, l.err, chatter.err, rfl⟩

/-- When none of `--check`, `--opcode`, `--list` and `-o` is given, standard output is exactly
the generated source of the built table (for C++ the header, an empty line and the source
including `optab.h`), or empty when the table cannot be built, and no file changes. Otherwise
standard output holds only what the run logged about its listing, the summary of the table, the
descriptor lines asked for, the note of the files written, and the text of an output file whose
write the file system passed on to standard output. -/
theorem stdout_holds_only_source {σ : Type} (fs : FileSystem σ)
    (parse : List String → Except Stop Invocation) (args : List String) (s : σ) (inv : Invocation)
    (parsed : parse args = .ok inv) :
    (inv.check = false → inv.opcode = none → inv.list = false → inv.output = none →
      (fs.perform s (sessionWith parse args)).2 = s ∧
      (∀ t, Session.compiled fs inv s = .ok t →
        (fs.perform s (sessionWith parse args)).1.out =
          match inv.format with
          | .rust => Render.rust t
          | .json => Render.json t
          | .cpp => Render.cppHeader t inv.cppNamespace ++ "\n" ++
              Render.cppSource t inv.cppNamespace "optab.h") ∧
      (∀ f, Session.compiled fs inv s = .error f → (fs.perform s (sessionWith parse args)).1.out = "")) ∧
    (inv.check = true ∨ inv.opcode.isSome ∨ inv.list = true ∨ inv.output.isSome →
      ∃ g, Legend.standard = .ok g ∧
        (∀ f, Session.compiled fs inv s = .error f →
          Pieces (Line (Session.LogLine inv g (Session.listingRows fs g inv s)))
            (fs.perform s (sessionWith parse args)).1.out) ∧
        (∀ t, Session.compiled fs inv s = .ok t →
          Pieces (Session.AsidePiece fs inv g (Session.listingRows fs g inv s) t)
            (fs.perform s (sessionWith parse args)).1.out)) := by
  obtain ⟨g, standard, -⟩ := standard_legend_builds
  rw [perform_sessionWith_of_ok fs parsed]
  refine ⟨fun unchecked noOpcode unlisted noOutput => ?toStdout, fun elsewhere => ?aside⟩
  case toStdout =>
    have toStdout : inv.toStdout = true :=
      (Invocation.toStdout_eq_true_iff inv).mpr ⟨unchecked, noOpcode, unlisted, noOutput⟩
    refine ⟨?unchanged, ?built, ?broken⟩
    case unchanged =>
      cases built : Session.compiled fs inv s with
      | error f =>
        obtain ⟨l, ran, -⟩ := Session.perform_execute_of_error fs s standard built
        rw [ran]
      | ok t =>
        obtain ⟨l, ran, -⟩ := Session.perform_execute_of_ok fs s standard built
        rw [ran, Session.perform_deliver_toStdout fs s toStdout]
    case built =>
      intro t built
      obtain ⟨l, ran, quiet⟩ := Session.perform_execute_of_ok fs s standard built
      rw [ran, Session.perform_deliver_toStdout fs s toStdout]
      show l.out ++ Session.render inv t = _
      rw [quiet.quiet toStdout, String.empty_append]
      rfl
    case broken =>
      intro f broken
      obtain ⟨l, ran, chatter⟩ := Session.perform_execute_of_error fs s standard broken
      rw [ran]
      exact chatter.quiet toStdout
  case aside =>
    have notStdout : inv.toStdout = false := by
      rw [← Bool.not_eq_true, Invocation.toStdout_eq_true_iff]
      rintro ⟨unchecked, noOpcode, unlisted, noOutput⟩
      simp [unchecked, noOpcode, unlisted, noOutput] at elsewhere
    refine ⟨g, standard, fun f broken => ?_, fun t built => ?_⟩
    · obtain ⟨l, ran, chatter⟩ := Session.perform_execute_of_error fs s standard broken
      rw [ran]
      exact chatter.out
    · obtain ⟨l, ran, quiet⟩ := Session.perform_execute_of_ok fs s standard built
      rw [ran]
      exact Session.perform_deliver_aside fs s notStdout quiet.out

theorem stdout_holds_only_source_bare :
    parseArgs [] = .ok {} ∧
    (({} : Invocation).check = false → ({} : Invocation).opcode = none →
      ({} : Invocation).list = false → ({} : Invocation).output = none →
      (Disk.system.perform ⟨[], []⟩ (sessionWith parseArgs [])).2 = ⟨[], []⟩ ∧
      (∀ t, Session.compiled Disk.system {} ⟨[], []⟩ = .ok t →
        (Disk.system.perform ⟨[], []⟩ (sessionWith parseArgs [])).1.out =
          match ({} : Invocation).format with
          | .rust => Render.rust t
          | .json => Render.json t
          | .cpp => Render.cppHeader t ({} : Invocation).cppNamespace ++ "\n" ++
              Render.cppSource t ({} : Invocation).cppNamespace "optab.h") ∧
      (∀ f, Session.compiled Disk.system {} ⟨[], []⟩ = .error f →
        (Disk.system.perform ⟨[], []⟩ (sessionWith parseArgs [])).1.out = "")) ∧
    (({} : Invocation).check = true ∨ ({} : Invocation).opcode.isSome ∨
        ({} : Invocation).list = true ∨ ({} : Invocation).output.isSome →
      ∃ g, Legend.standard = .ok g ∧
        (∀ f, Session.compiled Disk.system {} ⟨[], []⟩ = .error f →
          Pieces (Line (Session.LogLine {} g (Session.listingRows Disk.system g {} ⟨[], []⟩)))
            (Disk.system.perform ⟨[], []⟩ (sessionWith parseArgs [])).1.out) ∧
        (∀ t, Session.compiled Disk.system {} ⟨[], []⟩ = .ok t →
          Pieces (Session.AsidePiece Disk.system {} g (Session.listingRows Disk.system g {} ⟨[], []⟩) t)
            (Disk.system.perform ⟨[], []⟩ (sessionWith parseArgs [])).1.out)) :=
  ⟨rfl, stdout_holds_only_source Disk.system parseArgs [] ⟨[], []⟩ {} rfl⟩

/-- A working directory holding `text` in the file `l`. -/
def listingDisk (text : String) : Disk := ⟨[(["l"], text.toUTF8)], []⟩

/-- A run that reads its listing from `l` builds the table of the text in it. -/
theorem compiled_listingDisk (inv : Invocation) (text : String) {g : Legend}
    (built : Legend.standard = .ok g) (named : inv.table = some "l") :
    Session.compiled Disk.system inv (listingDisk text) =
      buildTable (.ok g) (linesOf text) Amendment.standard := by
  have read : Disk.system.read (listingDisk text) "l" = .ok text.toUTF8 := rfl
  rw [Session.compiled, built]
  simp only [Session.compiledWith, Session.listing, named, read, readLines_toUTF8]

/-- Generated Rust source opens with a comment, so it is never empty. -/
theorem Render.rust_ne_empty (t : Table) : Render.rust t ≠ "" := by
  intro empty
  unfold Render.rust at empty
  simp only [String.append_eq_empty_iff, and_assoc] at empty
  exact absurd empty.1 (by decide)

/-- With `-o /dev/stdout` the flags send the source to a file, yet the file system passes it on
to standard output: on a listing file that builds, the generated Rust source appears there. -/
theorem source_reaches_stdout_through_device :
    parseArgs ["-t", "l", "-o", "/dev/stdout"] =
        .ok { table := some "l", output := some "/dev/stdout" } ∧
      ∃ t, Session.compiled Disk.system { table := some "l", output := some "/dev/stdout" }
          (listingDisk immediateListing) = .ok t ∧ Render.rust t ≠ "" ∧
        ∃ pre post, ((listingDisk immediateListing).perform
          (session ["-t", "l", "-o", "/dev/stdout"])).1.out = pre ++ Render.rust t ++ post := by
  obtain ⟨g, built, -⟩ := standard_legend_builds
  obtain ⟨t, tabled⟩ := immediateListing_builds built
  have compiled : Session.compiled Disk.system { table := some "l", output := some "/dev/stdout" }
      (listingDisk immediateListing) = .ok t := by
    rw [compiled_listingDisk _ _ built rfl, tabled]
  have parsed : parseArgs ["-t", "l", "-o", "/dev/stdout"] =
      .ok { table := some "l", output := some "/dev/stdout" } := rfl
  refine ⟨parsed, t, compiled, Render.rust_ne_empty t, ?_⟩
  obtain ⟨l, ran, -⟩ :=
    Session.perform_execute_of_ok Disk.system (listingDisk immediateListing) built compiled
  have passed : Disk.system.create (listingDisk immediateListing) "/dev/stdout"
      (Session.render { table := some "l", output := some "/dev/stdout" } t).toUTF8 =
        (listingDisk immediateListing, .ok .toStdout) := Disk.create_devStdout _ _
  refine ⟨l.out, Session.info ("Wrote " ++ "/dev/stdout") ++ "\n", ?_⟩
  rw [Disk.perform, session, perform_sessionWith_of_ok Disk.system parsed, ran,
    Session.perform_deliver_written Disk.system _ rfl rfl rfl (by decide) passed,
    Session.perform_succeed, Session.Log.say_out, Session.Log.echo_toStdout, String.append_assoc]
  rfl

end W65816
