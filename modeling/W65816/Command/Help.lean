import W65816.Command.Options

set_option autoImplicit false

/-!
# Help and version texts

The summary that `-h` prints, the detailed help that `--help` prints, and the version line.
Each option is one line of the summary, its name column padded to one width; in the detailed
help each option's description stands on its own lines below the name, indented by ten
spaces, with a blank line between options.
-/

namespace W65816.Command

def about : String := "Build-time compiler for the 65816 (SNES) opcode descriptor table."

def versionText : String := "optab65816 0.1.0\n"

def Format.about : Format → String
  | .rust => "Rust module with enums, MNEMONIC_NAMES and OP_CODES"
  | .cpp => "C++ header/source pair"
  | .json => "JSON array of per-opcode records"

namespace Opt

def about : Opt → String
  | table => "Tab-separated reference listing to use instead of the built-in 65816 table"
  | format => "Output format"
  | output => "Output file (stdout if omitted; for cpp the .h/.cpp extensions are derived from it)"
  | cppNamespace => "Namespace for cpp output"
  | list => "Print the reconciled table in readable form"
  | opcode => "Print the entry for a single opcode (hex ok with '0x') and exit"
  | check => "Build and validate the table without writing any output"
  | verbose => "Enable verbose output"
  | help => "Print help"
  | version => "Print version"

/-- The name column of an option: `-t, --table <TABLE>`, or four spaces for no short name. -/
def spec (o : Opt) : String :=
  (match o.short with
    | some c => String.ofList ['-', c, ',', ' ']
    | none => "    ") ++ o.shown

/-- The value an option takes when it is not given, if it has one. -/
def defaultValue : Opt → Option String
  | format => some "rust"
  | cppNamespace => some "snes"
  | _ => none

/-- What follows an option's description in the summary. -/
def summaryNotes (o : Opt) : String :=
  (match o.defaultValue with
    | some d => " [default: " ++ d ++ "]"
    | none => "") ++
  (if o == format then
      " [possible values: " ++ ", ".intercalate (Format.all.map Format.name) ++ "]"
    else "") ++
  (if o == help then " (see more with '--help')" else "")

def deep : String := "".pushn ' ' 10

/-- What follows an option's description in the detailed help. -/
def detailNotes (o : Opt) : String :=
  (if o == format then
      "\n\n" ++ deep ++ "Possible values:" ++
        String.join (Format.all.map fun f =>
          "\n" ++ deep ++ "- " ++ f.name ++ ":" ++ "".pushn ' ' (5 - f.name.length) ++ f.about)
    else "") ++
  (match o.defaultValue with
    | some d => "\n" ++ deep ++ "\n" ++ deep ++ "[default: " ++ d ++ "]"
    | none => "") ++
  (if o == help then " (see a summary with '-h')" else "")

end Opt

def helpHeading : String := about ++ "\n\nUsage: optab [OPTIONS]\n\nOptions:\n"

/-- The help `-h` prints. -/
def summaryHelp : String :=
  let width := (Opt.all.map fun o => o.spec.length).foldl max 0
  helpHeading ++ String.join (Opt.all.map fun o =>
    "  " ++ o.spec.pushn ' ' (width - o.spec.length) ++ "  " ++ o.about ++ o.summaryNotes ++ "\n")

/-- The help `--help` prints. -/
def detailedHelp : String :=
  helpHeading ++ "\n\n".intercalate (Opt.all.map fun o =>
    "  " ++ o.spec ++ "\n" ++ Opt.deep ++ o.about ++ o.detailNotes) ++ "\n"

end W65816.Command
