import W65816.Render.Common

set_option autoImplicit false

/-!
# The generated Rust module

Three enumerations (operations, widths, operand modes) whose members are the table's
vocabulary numbered from 0, each with an array of its member names; the descriptor struct;
the mnemonics by opcode, sixteen to a line; and the 256 descriptors, each line closed by a
comment naming opcode, mnemonic and alias.
-/

namespace W65816.Render

open W65816.Text

def indent : String := "    "

/-- An enumeration and the array of its member names. -/
def rustEnum (name namesConst : String) (members : List String) : String :=
  "#[allow(non_camel_case_types, clippy::upper_case_acronyms)]\n" ++
  "#[derive(Clone, Copy, PartialEq, Eq, PartialOrd, Ord, Hash, Debug)]\n" ++
  "pub enum " ++ name ++ " \x7b\n" ++
  String.join ((numbered members).map fun (m, i) => indent ++ m ++ " = " ++ toString i ++ ",\n") ++
  "\x7d\n\n" ++
  "pub const " ++ namesConst ++ ": [&str; " ++ toString members.length ++ "] = [\n" ++
  String.join (members.map fun m => indent ++ "\"" ++ m ++ "\",\n") ++
  "];\n\n"

/-- One descriptor as a struct literal line. -/
def rustDescriptor (e : Descriptor) : String :=
  indent ++ "OpCode \x7b op: Operation::" ++ padRight 4 (e.op ++ ",") ++
    " size: InstructionSize::" ++ padRight 7 (e.width.tag ++ ",") ++
    " mode: Operand::" ++ padRight 36 (e.operand.tag ++ ",") ++
    " load_operand: " ++ padRight 5 (toString e.load) ++ " \x7d, // " ++ rowComment e ++ "\n"

/-- The table as a Rust module. -/
def rust (t : Table) : String :=
  let v := t.vocabulary
  "// " ++ heading ++ "\n\n" ++
  rustEnum "Operation" "OPERATION_NAMES" v.operations ++
  rustEnum "InstructionSize" "INSTRUCTION_SIZE_NAMES" v.sizes ++
  rustEnum "Operand" "OPERAND_NAMES" v.operands ++
  "#[derive(Clone, Copy, PartialEq, Eq, Debug)]\n" ++
  "pub struct OpCode \x7b\n" ++
  indent ++ "pub op: Operation,\n" ++
  indent ++ "pub size: InstructionSize,\n" ++
  indent ++ "pub mode: Operand,\n" ++
  indent ++ "pub load_operand: bool,\n" ++
  "\x7d\n\n" ++
  "/// Mnemonics as used in an assembler, indexed by opcode.\n" ++
  "pub const MNEMONIC_NAMES: [&str; 256] = [\n" ++
  String.join ((chunks 16 t.entries).map fun chunk =>
    indent ++ " ".intercalate (chunk.map fun e => "\"" ++ e.mnemonic ++ "\",") ++ "\n") ++
  "];\n\n" ++
  "pub const OP_CODES: [OpCode; 256] = [\n" ++
  String.join (t.entries.map rustDescriptor) ++
  "];\n"

end W65816.Render
