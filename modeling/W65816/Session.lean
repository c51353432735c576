import W65816.Build
import W65816.Legend.Standard
import W65816.Listing.Standard
import W65816.Amendment.Standard
import W65816.Render.Json
import W65816.Render.Rust
import W65816.Render.Cpp
import W65816.Command.Parse
import W65816.Command.Help
import W65816.Path
import W65816.Disk

set_option autoImplicit false

/-!
# A run of the command line

A run is a `Script`: what it has printed so far, and the files it reads and creates, each step
continuing with what the file system answered. `FileSystem.perform` plays a script against a
file system; the command-line program plays it against the real one. The run of a command line,
`sessionWith`, takes the grammar that turns arguments into an `Invocation` as a parameter;
`session` is the run under the grammar of `W65816.Command`.

A run reads the listing (if one is named), builds the table, and then prints one descriptor,
the whole table, or writes the generated source. Log lines start with a blue `INFO`; they and
the row traces stay off standard output when the generated source goes there. A fault ends the
run with status 1 after its message; a refused command line ends it with status 2.
-/

namespace W65816

open W65816.Text
open W65816.Command

structure Transcript where
  out : String
  err : String
  status : Nat
  deriving DecidableEq, Repr

/-- A run: finished, or waiting for a file to be read or created. -/
inductive Script where
  | done (t : Transcript)
  | read (path : String) (next : Except IoFault ByteArray → Script)
  | create (path : String) (text : String) (next : Except WriteFault Written → Script)

/-- The outcome of a script played from the state `s`, with the state after it. -/
def FileSystem.perform {σ : Type} (fs : FileSystem σ) (s : σ) : Script → Transcript × σ
  | .done t => (t, s)
  | .read path next => fs.perform s (next (fs.read s path))
  | .create path text next =>
    match fs.create s path text.toUTF8 with
    | (s', r) => fs.perform s' (next r)

def Disk.perform (d : Disk) (script : Script) : Transcript × Disk := Disk.system.perform d script

namespace Session

structure Log where
  out : String := ""
  err : String := ""
  deriving DecidableEq, Repr

def Log.say (l : Log) (s : String) : Log := { l with out := l.out ++ s ++ "\n" }

def Log.warn (l : Log) (s : String) : Log := { l with err := l.err ++ s ++ "\n" }

@[simp] theorem Log.say_out (l : Log) (s : String) : (l.say s).out = l.out ++ s ++ "\n" := rfl
@[simp] theorem Log.say_err (l : Log) (s : String) : (l.say s).err = l.err := rfl
@[simp] theorem Log.warn_out (l : Log) (s : String) : (l.warn s).out = l.out := rfl
@[simp] theorem Log.warn_err (l : Log) (s : String) : (l.warn s).err = l.err ++ s ++ "\n" := rfl

/-- The log once `text` went where a write put it. -/
def Log.echo (l : Log) (text : String) : Written → Log
  | .kept => l
  | .toStdout => { l with out := l.out ++ text }
  | .toStderr => { l with err := l.err ++ text }

@[simp] theorem Log.echo_kept (l : Log) (text : String) : l.echo text .kept = l := rfl
@[simp] theorem Log.echo_toStdout (l : Log) (text : String) :
    l.echo text .toStdout = { l with out := l.out ++ text } := rfl
@[simp] theorem Log.echo_toStderr (l : Log) (text : String) :
    l.echo text .toStderr = { l with err := l.err ++ text } := rfl

def info (s : String) : String := "\x1b[94mINFO\x1b[0m: " ++ s

def warning (s : String) : String := "\x1b[93mWARNING\x1b[0m: " ++ s

/-- A trace line, printed only with `-v`, on standard error when the source goes to standard
output. -/
def Log.trace (l : Log) (inv : Invocation) (s : String) : Log :=
  if !inv.verbose then l else if inv.toStdout then l.warn s else l.say s

def succeed (l : Log) : Script := .done { out := l.out, err := l.err, status := 0 }

def fail (l : Log) (f : Fault) : Script :=
  .done { out := l.out, err := l.err ++ f.display ++ "\n" ++ f.report ++ "\n", status := 1 }

def traceLine (g : Legend) (r : Row) : String :=
  let e := g.entry r.mode
  "line " ++ padLeft 3 (toString r.line) ++ ": " ++ padLeft 4 r.opcodeText ++ " " ++
    padRight 4 r.mnemonic ++ " " ++ padRight 8 r.altName ++ " " ++
    padRight 34 ("\"" ++ r.description ++ "\"") ++ " -> " ++ padRight 8 e.symbol ++ " " ++ e.name

def countLine (rows amendments : Nat) : String :=
  toString rows ++ " reference rows, " ++ toString amendments ++ " overrides"

def summary (t : Table) : String :=
  let v := t.vocabulary
  "Reconciled 256 opcodes (" ++ toString t.amendedCount ++ " overridden): " ++
    toString v.operations.length ++ " operations, " ++ toString v.operands.length ++
    " operand modes, " ++ toString v.sizes.length ++ " size classes"

/-- The generated source as one text: for C++ the header, an empty line, then the source. -/
def render (inv : Invocation) (t : Table) : String :=
  match inv.format with
  | .rust => Render.rust t
  | .json => Render.json t
  | .cpp => Render.cppHeader t inv.cppNamespace ++ "\n" ++ Render.cppSource t inv.cppNamespace "optab.h"

def bufferSize : Nat := 8192

/-- The fault of writing the source of format `f`, `text`, to a file. Generated source reaches
a file through a buffer of `bufferSize` bytes, and a refusal while the JSON writer still runs is
its own failure: it comes there when the records, all of the text but its last line break,
overflow the buffer. -/
def writeFault (f : Format) (text : String) : WriteFault → Fault
  | .cannotOpen e => .io e
  | .cannotWrite e => if f == .json && text.utf8ByteSize - 1 > bufferSize then .jsonWrite e else .io e

def writeOutputs (inv : Invocation) (l : Log) (t : Table) (path : String) : Script :=
  match inv.format with
  | .cpp =>
    let hPath := Path.withExtension path "h"
    let cppPath := Path.withExtension path "cpp"
    match Path.fileName hPath with
    | none => fail l (.badOutputPath path)
    | some header =>
      let headerText := Render.cppHeader t inv.cppNamespace
      .create hPath headerText fun r =>
        match r with
        | .error e => fail l (writeFault .cpp headerText e)
        | .ok w =>
          let l := l.echo headerText w
          let sourceText := Render.cppSource t inv.cppNamespace header
          .create cppPath sourceText fun r =>
            match r with
            | .error e => fail l (writeFault .cpp sourceText e)
            | .ok w => succeed ((l.echo sourceText w).say (info ("Wrote " ++ hPath ++ " and " ++ cppPath)))
  | _ =>
    let text := render inv t
    .create path text fun r =>
      match r with
      | .error e => fail l (writeFault inv.format text e)
      | .ok w => succeed ((l.echo text w).say (info ("Wrote " ++ path)))

def listLines (inv : Invocation) (l : Log) (t : Table) : Log :=
  if inv.list then t.entries.foldl (fun l e => l.say e.line) l else l

def deliver (inv : Invocation) (l : Log) (t : Table) : Script :=
  match inv.opcode with
  | some k => succeed (l.say (t.get k).line)
  | none =>
    let l := listLines inv l t
    if !inv.emits then succeed l
    else
      match inv.output with
      | none => succeed { l with out := l.out ++ render inv t }
      | some path => writeOutputs inv l t path

def build (inv : Invocation) (l : Log) (g : Legend) (lines : List String) : Script :=
  let scanned := Listing.scan g lines
  let l := scanned.1.foldl (fun l r => l.trace inv (traceLine g r)) l
  match scanned.2 with
  | some f => fail l f
  | none =>
    match AmendmentTable.build Amendment.standard with
    | .error f => fail l f
    | .ok am =>
      let rows := scanned.1
      let l := l.trace inv (countLine rows.length am.size)
      match Table.assemble g rows am with
      | .error f => fail l f
      | .ok t =>
        let l := (Table.mismatches rows am).foldl (fun l w => l.warn (warning w)) l
        let l := if inv.toStdout then l else l.say (info (summary t))
        deliver inv l t

def executeWith (legend : Except Fault Legend) (inv : Invocation) : Script :=
  match legend with
  | .error f => fail {} f
  | .ok g =>
    match inv.table with
    | none => build inv {} g Listing.standardLines
    | some path =>
      let l : Log := if inv.toStdout then {} else ({} : Log).say (info ("Reading reference listing " ++ path))
      .read path fun r =>
        match r with
        | .error e => fail l (.io e)
        | .ok bytes =>
          match readLines bytes with
          | .error e => fail l (.io e)
          | .ok lines => build inv l g lines

def execute (inv : Invocation) : Script := executeWith Legend.standard inv

end Session

/-- The run of a command line under a grammar: `parse` gives the invocation the arguments ask
for, or why the run stops before it starts. -/
def sessionWith (parse : List String → Except Stop Invocation) (args : List String) : Script :=
  match parse args with
  | .error (.help long) =>
    .done { out := if long then detailedHelp else summaryHelp, err := "", status := 0 }
  | .error .version => .done { out := versionText, err := "", status := 0 }
  | .error (.refused e) => .done { out := "", err := e.render, status := 2 }
  | .ok inv => Session.execute inv

def session (args : List String) : Script := sessionWith parseArgs args

end W65816
