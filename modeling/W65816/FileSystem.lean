import W65816.Fault

set_option autoImplicit false

/-!
# File systems

A run reads its listing and creates its output files, and what the system answers is not the
program's to decide. So a run is played against any `FileSystem`: a state, what reading a path
gives in it, and what creating the file at a path and writing bytes to it gives, together with
the state after. A create is refused either when the file cannot be opened, or after the file
was made, when the system takes no more bytes; so a refused create also gives a state after
it, which may hold the file made, empty or partly written, before the refusal.

A system that refuses only before it makes a file keeps its state on every refusal
(`FileSystem.KeepsOnRefusal`); one that can run out of space part way does not.
-/

namespace W65816

/-- Why a file was not written: it could not be opened, or it refused the bytes. -/
inductive WriteFault where
  | cannotOpen (cause : IoFault)
  | cannotWrite (cause : IoFault)
  deriving DecidableEq, Repr

/-- Where written bytes went: into the file (or nowhere, for a device that discards them), or
on to the run's standard output or standard error. -/
inductive Written where
  | kept
  | toStdout
  | toStderr
  deriving DecidableEq, Repr

structure FileSystem (σ : Type) where
  read : σ → String → Except IoFault ByteArray
  create : σ → String → ByteArray → σ × Except WriteFault Written

namespace FileSystem

variable {σ : Type} (fs : FileSystem σ)

/-- Every refused create leaves the state as it was. -/
def KeepsOnRefusal : Prop :=
  ∀ s path content s' e, fs.create s path content = (s', .error e) → s' = s

/-- In some state the system passes a write to `path` on to standard error. -/
def PassesToStderr (path : String) : Prop :=
  ∃ s s' content, fs.create s path content = (s', .ok .toStderr)

end FileSystem

end W65816
