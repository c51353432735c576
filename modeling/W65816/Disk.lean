import W65816.FileSystem
import W65816.Path

set_option autoImplicit false

/-!
# The file system of the tests

`Disk` is the file system the program's tests run against: files and directories below a
working directory, each named by the list of names on its path, the root directory, and the
device directory `/dev` with the devices a command line names. No other entry of the root is
found; directories above the working directory exist but hold nothing known. There are no
permissions, links or quotas, so a regular file takes every write; only `/dev/full` refuses
bytes, and a refused create leaves the disk as it was (`Disk.system_keepsOnRefusal`). Theorems
about runs are stated for every `FileSystem`, not for this one.

A path is looked up name by name, from the root when it starts with a slash and from the
working directory otherwise. Empty names and `.` stay where they are and `..` goes up. Every
name but the last must be a directory: a missing one fails as "not found", a file or a device
as "not a directory", and a name longer than 255 bytes as "file name too long", as does a path
of 4096 bytes or more.

Reading a directory fails as "is a directory", and a trailing slash after a file as "not a
directory". Creating fails as "is a directory" over a directory and whenever the path ends in a
slash, whatever its last name is; the name itself is looked up only after that. Every device
reads as empty: standard input is empty, and the endless zero bytes of `/dev/zero` and
`/dev/full` are taken as empty. `/dev/null` and `/dev/zero` discard writes, and `/dev/stdout`
and `/dev/stderr` pass them on to the run's standard output and error.
-/

namespace W65816

inductive Device where
  | null
  | zero
  | full
  | stdin
  | stdout
  | stderr
  deriving DecidableEq, Repr

def Device.ofName? : String → Option Device
  | "null" => some .null
  | "zero" => some .zero
  | "full" => some .full
  | "stdin" => some .stdin
  | "stdout" => some .stdout
  | "stderr" => some .stderr
  | _ => none

structure Disk where
  files : List (List String × ByteArray)
  dirs : List (List String)

/-- Where a lookup stands: a directory below the working directory (which is `inside []`), one
outside it whose contents are unknown, the root, or `/dev`. -/
inductive Place where
  | inside (dir : List String)
  | outside
  | root
  | devices
  deriving DecidableEq, Repr

def Place.up : Place → Place
  | .inside [] => .outside
  | .inside p => .inside p.dropLast
  | .outside => .outside
  | .root | .devices => .root

/-- What a name in a directory is. A missing name carries where a file of that name would be
made, `none` outside the working directory. -/
inductive Entry where
  | dir (place : Place)
  | file (path : List String) (content : ByteArray)
  | device (dev : Device)
  | missing (path : Option (List String))

inductive Target where
  | dir
  | file (path : List String) (content : ByteArray) (slash : Bool)
  | device (dev : Device) (slash : Bool)
  | absent (path : Option (List String)) (name : String) (slash : Bool)

def tooLong (name : String) : Bool := name.utf8ByteSize > 255

def Device.write (dev : Device) (content : ByteArray) : Except WriteFault Written :=
  match dev with
  | .full => if content.isEmpty then .ok .kept else .error (.cannotWrite .noSpace)
  | .stdout => .ok .toStdout
  | .stderr => .ok .toStderr
  | .null | .zero | .stdin => .ok .kept

namespace Disk

def isDir (d : Disk) (p : List String) : Bool := p.isEmpty || d.dirs.contains p

def fileAt (d : Disk) (p : List String) : Option ByteArray := (d.files.find? (·.1 == p)).map (·.2)

def entry (d : Disk) (pl : Place) (c : String) : Entry :=
  match pl with
  | .inside p =>
    let q := p ++ [c]
    if d.isDir q then .dir (.inside q)
    else
      match d.fileAt q with
      | some content => .file q content
      | none => .missing (some q)
  | .outside => .missing none
  | .root => if c == "dev" then .dir .devices else .missing none
  | .devices =>
    match Device.ofName? c with
    | some dev => .device dev
    | none => .missing none

def onlySlashes (rest : List String) : Bool := rest.all (·.isEmpty)

def walk (d : Disk) : Place → List String → Except IoFault Target
  | _, [] => .ok .dir
  | pl, c :: rest =>
    if c.isEmpty || c == "." then walk d pl rest
    else if c == ".." then walk d pl.up rest
    else
      let last := onlySlashes rest
      let slash := !rest.isEmpty
      match d.entry pl c with
      | .dir q => walk d q rest
      | .file p content => if last then .ok (.file p content slash) else .error .notDirectory
      | .device dev => if last then .ok (.device dev slash) else .error .notDirectory
      | .missing p =>
        if last then .ok (.absent p c slash)
        else if tooLong c then .error .nameTooLong
        else .error .notFound

def locate (d : Disk) (path : String) : Except IoFault Target :=
  if path.isEmpty then .error .notFound
  else if path.utf8ByteSize ≥ 4096 then .error .nameTooLong
  else
    match Path.pieces path with
    | "" :: names => walk d .root names
    | names => walk d (.inside []) names

def read (d : Disk) (path : String) : Except IoFault ByteArray :=
  match locate d path with
  | .error e => .error e
  | .ok .dir => .error .isDirectory
  | .ok (.file _ content slash) => if slash then .error .notDirectory else .ok content
  | .ok (.device _ slash) => if slash then .error .notDirectory else .ok ByteArray.empty
  | .ok (.absent _ name _) => .error (if tooLong name then .nameTooLong else .notFound)

def put (d : Disk) (p : List String) (content : ByteArray) : Disk :=
  { d with files := d.files.filter (·.1 != p) ++ [(p, content)] }

def create (d : Disk) (path : String) (content : ByteArray) : Disk × Except WriteFault Written :=
  match locate d path with
  | .error e => (d, .error (.cannotOpen e))
  | .ok .dir => (d, .error (.cannotOpen .isDirectory))
  | .ok (.file p _ slash) =>
    if slash then (d, .error (.cannotOpen .isDirectory)) else (d.put p content, .ok .kept)
  | .ok (.device dev slash) =>
    if slash then (d, .error (.cannotOpen .isDirectory)) else (d, dev.write content)
  | .ok (.absent place name slash) =>
    if slash then (d, .error (.cannotOpen .isDirectory))
    else if tooLong name then (d, .error (.cannotOpen .nameTooLong))
    else
      match place with
      | some p => (d.put p content, .ok .kept)
      | none => (d, .ok .kept)

@[simp]
theorem create_devStdout (d : Disk) (content : ByteArray) :
    d.create "/dev/stdout" content = (d, .ok .toStdout) := rfl

@[simp]
theorem create_devStderr (d : Disk) (content : ByteArray) :
    d.create "/dev/stderr" content = (d, .ok .toStderr) := rfl

@[simp]
theorem create_devNull (d : Disk) (content : ByteArray) :
    d.create "/dev/null" content = (d, .ok .kept) := rfl

@[simp]
theorem create_devFull (d : Disk) (content : ByteArray) :
    d.create "/dev/full" content =
      (d, if content.isEmpty then .ok .kept else .error (.cannotWrite .noSpace)) := rfl

def system : FileSystem Disk := ⟨read, create⟩

/-- A create either leaves the disk as it was or keeps the bytes in a file. -/
theorem create_fst_or_kept (d : Disk) (path : String) (content : ByteArray) :
    (d.create path content).1 = d ∨ (d.create path content).2 = .ok .kept := by
  unfold create
  repeat' split
  all_goals first | exact .inl rfl | exact .inr rfl

theorem system_keepsOnRefusal : system.KeepsOnRefusal := by
  intro d path content d' e refused
  change d.create path content = (d', .error e) at refused
  rcases create_fst_or_kept d path content with same | kept
  · rw [refused] at same
    exact same
  · rw [refused] at kept
    cases kept

def namesOf (path : String) : List String := (Path.pieces path).filter Path.isName

def parents (p : List String) : List (List String) :=
  (List.range p.length).filterMap fun i => if i == 0 then none else some (p.take i)

/-- A disk holding the given files and directories, with the directories above them. -/
def ofEntries (files : List (String × ByteArray)) (dirs : List String) : Disk :=
  let filePaths := files.map fun (p, c) => (namesOf p, c)
  let dirPaths := dirs.map namesOf
  let above := (filePaths.map (·.1) ++ dirPaths).flatMap parents
  { files := filePaths, dirs := (above ++ dirPaths).eraseDups }

end Disk

end W65816
