import W65816.Command.Options
import W65816.Command.Number
import W65816.Command.Similarity

set_option autoImplicit false

/-!
# Reading the command line

Arguments are read left to right. `--name` and `--name=value` are long options, `-abc` is a
cluster of short options in which a value-taking option takes the rest of the cluster (after
one optional `=`) as its value, `--` makes every later argument a stray one. A value-taking
option given without an attached value takes the next argument, unless that argument looks
like an option.

An option's value is checked when the option is complete: at the next option, or at the end.
So a missing or bad value is reported there, and before any help or version request that comes
later. Each option may be given once. The first problem ends the reading, with a message and
the usage line the error calls for.

A usage line shows the options given so far. The line under a value attached to a flag shows
the settings (every option but `--help` and `--version`) together as one group instead, after
the other options, once a setting has been given; the line under an unknown option shows each
option given, with the suggested one.

`parseArgs` is the grammar the program uses; the theorems about runs take the grammar as a
parameter (`Session.sessionWith`) and hold for every one.
-/

namespace W65816.Command

/-- What a usage line shows: the options given, and whether a setting has been given, in
which case all settings are shown as one group after the other options. With nothing given it
shows `[OPTIONS]`. -/
structure Usage where
  given : List Opt := []
  grouped : Bool := false
  deriving DecidableEq, Repr

/-- Why a command line is refused: an argument that is no option (with a similar long option, and
the usage line's options, never grouped), a value attached to a flag, an option given twice, an
option without its value, a format that does not exist, or a byte that does not read. -/
inductive ArgError where
  | unknown (arg : String) (suggestion : Option Opt) (usage : Usage)
  | unexpectedValue (value : String) (opt : Opt) (usage : Usage)
  | repeated (opt : Opt)
  | valueRequired (opt : Opt)
  | invalidChoice (opt : Opt) (value : String)
  | invalidNumber (opt : Opt) (value : String) (cause : NumberFault)
  deriving DecidableEq, Repr

/-- How reading the command line ends early: help (asked for by the long name or the short one),
the version, or a refusal. -/
inductive Stop where
  | help (long : Bool)
  | version
  | refused (e : ArgError)
  deriving DecidableEq, Repr

inductive Spelling where
  | short
  | long
  deriving DecidableEq, Repr

structure Pending where
  opt : Opt
  spelling : Spelling
  values : List String
  deriving DecidableEq, Repr

/-- What has been read so far: the options given, in the order first given; the invocation; a
value-taking option still waiting for its value; whether `--` was read; and whether a setting
has been given, even one given twice and dropped from the options shown. -/
structure Reading where
  present : List Opt := []
  invocation : Invocation := {}
  pending : Option Pending := none
  escaped : Bool := false
  grouped : Bool := false
  deriving DecidableEq, Repr

def assign (inv : Invocation) (o : Opt) (value : String) : Except ArgError Invocation :=
  match o with
  | .table => if value.isEmpty then .error (.valueRequired o) else .ok { inv with table := some value }
  | .output => if value.isEmpty then .error (.valueRequired o) else .ok { inv with output := some value }
  | .format =>
    match Format.ofName? value with
    | some f => .ok { inv with format := f }
    | none => if value.isEmpty then .error (.valueRequired o) else .error (.invalidChoice o value)
  | .cppNamespace => .ok { inv with cppNamespace := value }
  | .opcode =>
    match parseByte value with
    | .ok n => .ok { inv with opcode := some (Opcode.ofByte n) }
    | .error cause => .error (.invalidNumber o value cause)
  | .list => .ok { inv with list := true }
  | .check => .ok { inv with check := true }
  | .verbose => .ok { inv with verbose := true }
  | .help | .version => .ok inv

def complete (r : Reading) (o : Opt) (sp : Spelling) (values : List String) : Except Stop Reading :=
  if o.takesValue && values.isEmpty then .error (.refused (.valueRequired o))
  else
    match o with
    | .help => .error (.help (sp == .long))
    | .version => .error .version
    | _ =>
      if o ∈ r.present then .error (.refused (.repeated o))
      else
        match assign r.invocation o (values.headD "") with
        | .ok inv =>
          .ok { r with present := r.present ++ [o], invocation := inv,
                       grouped := r.grouped || o.isSetting }
        | .error e => .error (.refused e)

def settle (r : Reading) : Except Stop Reading :=
  match r.pending with
  | none => .ok r
  | some p => complete { r with pending := none } p.opt p.spelling p.values

/-- The options shown as given after completing the waiting option when its problem, if any,
is not the one reported: a repeated option is dropped, any other is kept. -/
def settleQuietly (r : Reading) : Reading :=
  match r.pending with
  | none => r
  | some p =>
    let r := { r with pending := none }
    if p.values.isEmpty then r
    else if p.opt ∈ r.present then { r with present := r.present.erase p.opt }
    else { r with present := r.present ++ [p.opt], grouped := r.grouped || p.opt.isSetting }

def take (r : Reading) (o : Opt) (sp : Spelling) (values : List String) : Except Stop Reading := do
  let r ← settle r
  complete r o sp values

def await (r : Reading) (o : Opt) (sp : Spelling) : Except Stop Reading := do
  let r ← settle r
  pure { r with pending := some ⟨o, sp, []⟩ }

def suggestLong (name : String) : Option Opt :=
  (closest name (Opt.all.map Opt.long)).bind Opt.ofLong?

def readCluster (r : Reading) : List Char → Except Stop Reading
  | [] => .ok r
  | c :: cs =>
    match Opt.ofShort? c with
    | none => .error (.refused (.unknown (String.ofList ['-', c]) none {}))
    | some o =>
      if o.takesValue then
        match cs with
        | [] => await r o .short
        | '=' :: v => take r o .short [String.ofList v]
        | v => take r o .short [String.ofList v]
      else do
        let r ← take r o .short []
        readCluster r cs

def splitLong (body : List Char) : String × Option String :=
  match body.span (· != '=') with
  | (name, []) => (String.ofList name, none)
  | (name, _ :: value) => (String.ofList name, some (String.ofList value))

def readLong (r : Reading) (body : List Char) : Except Stop Reading :=
  let (name, value) := splitLong body
  match Opt.ofLong? name with
  | none =>
    let r := settleQuietly r
    let suggestion := suggestLong name
    let given := match suggestion with
      | some o => if o ∈ r.present then r.present else r.present ++ [o]
      | none => r.present
    .error (.refused (.unknown ("--" ++ name) suggestion { given }))
  | some o =>
    if o.takesValue then
      match value with
      | some v => take r o .long [v]
      | none => await r o .long
    else
      match value with
      | some v => .error (.refused (.unexpectedValue v o ⟨r.present ++ [o], r.grouped⟩))
      | none => take r o .long []

def readOther (r : Reading) (arg : String) : Except Stop Reading :=
  match r.pending with
  | some p =>
    if p.values.isEmpty && !r.escaped then .ok { r with pending := some { p with values := [arg] } }
    else .error (.refused (.unknown arg none {}))
  | none => .error (.refused (.unknown arg none {}))

def readArg (r : Reading) (arg : String) : Except Stop Reading :=
  if r.escaped then .error (.refused (.unknown arg none {}))
  else
    match arg.toList with
    | ['-', '-'] => .ok { r with escaped := true }
    | '-' :: '-' :: body => readLong r body
    | '-' :: c :: cs => readCluster r (c :: cs)
    | _ => readOther r arg

def readAll (r : Reading) : List String → Except Stop Reading
  | [] => settle r
  | a :: rest => do
    let r ← readArg r a
    readAll r rest

/-- The invocation a command line asks for, or how reading it stops. -/
def parseArgs (args : List String) : Except Stop Invocation :=
  (readAll {} args).map (·.invocation)

def settingsGroup : String := "<" ++ "|".intercalate (Opt.settings.map Opt.shown) ++ ">"

/-- The usage line: each option given once, the settings among them replaced by their group
once a setting was given, or `[OPTIONS]` when nothing was given. -/
def Usage.line (u : Usage) : String :=
  let single := (if u.grouped then u.given.filter (!·.isSetting) else u.given).eraseDups
  let parts := single.map Opt.shown ++ (if u.grouped then [settingsGroup] else [])
  "Usage: optab " ++ if parts.isEmpty then "[OPTIONS]" else " ".intercalate parts

def formatChoices : String :=
  "\n  [possible values: " ++ ", ".intercalate (Format.all.map Format.name) ++ "]"

def tryHelp : String := "\n\nFor more information, try '--help'.\n"

/-- The text printed for a refused command line. -/
def ArgError.render : ArgError → String
  | .unknown arg suggestion shown =>
    "error: unexpected argument '" ++ arg ++ "' found" ++
      (match suggestion with
        | some o => "\n\n  tip: a similar argument exists: '--" ++ o.long ++ "'"
        | none => "") ++
      "\n\n" ++ shown.line ++ tryHelp
  | .unexpectedValue v o shown =>
    "error: unexpected value '" ++ v ++ "' for '" ++ o.shown ++ "' found; no more were expected" ++
      "\n\n" ++ shown.line ++ tryHelp
  | .repeated o =>
    "error: the argument '" ++ o.shown ++ "' cannot be used multiple times" ++
      "\n\n" ++ Usage.line {} ++ tryHelp
  | .valueRequired o =>
    "error: a value is required for '" ++ o.shown ++ "' but none was supplied" ++
      (if o == .format then formatChoices else "") ++ tryHelp
  | .invalidChoice o v =>
    "error: invalid value '" ++ v ++ "' for '" ++ o.shown ++ "'" ++ formatChoices ++
      (match closest v (Format.all.map Format.name) with
        | some s => "\n\n  tip: a similar value exists: '" ++ s ++ "'"
        | none => "") ++ tryHelp
  | .invalidNumber o v cause =>
    "error: invalid value '" ++ v ++ "' for '" ++ o.shown ++ "': " ++ cause.message ++ tryHelp

end W65816.Command
