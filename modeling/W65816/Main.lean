import W65816.Session

set_option autoImplicit false

/-!
# The command line

`optab` plays the run of its arguments against the real file system, prints what the run
printed, and exits with the run's status.
-/

namespace W65816.Main

/-- The cause of a refused file operation. -/
def ioFault (e : IO.Error) : IoFault :=
  match e with
  | .noFileOrDirectory _ code _ | .inappropriateType _ code _ | .permissionDenied _ code _
  | .alreadyExists _ code _ | .resourceExhausted _ code _ | .invalidArgument _ code _
  | .noSuchThing _ code _ | .otherError code _ | .hardwareFault code _
  | .illegalOperation code _ | .resourceBusy code _ =>
    match code.toNat with
    | 2 => .notFound
    | 20 => .notDirectory
    | 21 => .isDirectory
    | 28 => .noSpace
    | 36 => .nameTooLong
    | n => .other n
  | _ => .other 5

/-- Play a script against the real file system. -/
def play : Script → IO Transcript
  | .done t => pure t
  | .read path next => do
    match ← (IO.FS.readBinFile path).toBaseIO with
    | .ok bytes => play (next (.ok bytes))
    | .error e => play (next (.error (ioFault e)))
  | .create path text next => do
    match ← (IO.FS.Handle.mk path .write).toBaseIO with
    | .error e => play (next (.error (.cannotOpen (ioFault e))))
    | .ok h =>
      match ← (do h.putStr text; h.flush).toBaseIO with
      | .ok () => play (next (.ok .kept))
      | .error e => play (next (.error (.cannotWrite (ioFault e))))

end W65816.Main

def main (args : List String) : IO UInt32 := do
  let t ← W65816.Main.play (W65816.session args)
  let out ← IO.getStdout
  out.putStr t.out
  out.flush
  let err ← IO.getStderr
  err.putStr t.err
  err.flush
  pure t.status.toUInt32
