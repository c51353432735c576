import W65816.Mode

set_option autoImplicit false

/-!
# Command-line options

The options the command line understands, with the names they are written under, and the
invocation they add up to. An invocation writes generated source unless it only checks, looks
up one opcode, or lists the table without an output file; the source goes to standard output
when no output file is named, and then all log lines stay off standard output.
-/

namespace W65816.Command

/-- An option of the command line. Each has a long name, most a short one, and those that take
a value a placeholder for it; all but `--help` and `--version` are settings of the run. -/
inductive Opt where
  | table
  | format
  | output
  | cppNamespace
  | list
  | opcode
  | check
  | verbose
  | help
  | version
  deriving DecidableEq, Repr

namespace Opt

def all : List Opt := [table, format, output, cppNamespace, list, opcode, check, verbose, help, version]

def long : Opt → String
  | table => "table"
  | format => "format"
  | output => "output"
  | cppNamespace => "namespace"
  | list => "list"
  | opcode => "opcode"
  | check => "check"
  | verbose => "verbose"
  | help => "help"
  | version => "version"

def short : Opt → Option Char
  | table => some 't'
  | format => some 'f'
  | output => some 'o'
  | cppNamespace => none
  | list => some 'l'
  | opcode => none
  | check => some 'c'
  | verbose => some 'v'
  | help => some 'h'
  | version => some 'V'

def valueName : Opt → Option String
  | table => some "TABLE"
  | format => some "FORMAT"
  | output => some "OUTPUT"
  | cppNamespace => some "NAMESPACE"
  | opcode => some "OPCODE"
  | _ => none

def takesValue (o : Opt) : Bool := o.valueName.isSome

/-- The option as messages and usage lines show it: `--table <TABLE>`, `--list`. -/
def shown (o : Opt) : String :=
  "--" ++ o.long ++
    match o.valueName with
    | some v => " <" ++ v ++ ">"
    | none => ""

def isSetting : Opt → Bool
  | help | version => false
  | _ => true

def settings : List Opt := all.filter isSetting

def ofLong? (s : String) : Option Opt := all.find? (·.long == s)

def ofShort? (c : Char) : Option Opt := all.find? (·.short == some c)

end Opt

inductive Format where
  | rust
  | cpp
  | json
  deriving DecidableEq, Repr

namespace Format

def all : List Format := [rust, cpp, json]

def name : Format → String
  | rust => "rust"
  | cpp => "cpp"
  | json => "json"

def ofName? (s : String) : Option Format := all.find? (·.name == s)

end Format

/-- What a command line asks for: the `-t` listing file instead of the standard listing, the
format, the output file (for C++ the header and source paths derive from it), the namespace,
`--list`, `--opcode`, `--check` and `-v`. -/
structure Invocation where
  table : Option String := none
  format : Format := .rust
  output : Option String := none
  cppNamespace : String := "snes"
  list : Bool := false
  opcode : Option Opcode := none
  check : Bool := false
  verbose : Bool := false
  deriving DecidableEq, Repr

namespace Invocation

/-- Whether generated source is written at all, and whether it goes to standard output. -/
def emits (i : Invocation) : Bool := !i.check && i.opcode.isNone && !(i.list && i.output.isNone)

def toStdout (i : Invocation) : Bool := i.emits && i.output.isNone

end Invocation

end W65816.Command
