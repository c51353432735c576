import W65816.Render.Common

set_option autoImplicit false

/-!
# The generated C++ header and source

The header declares, inside the chosen namespace, three enumerations numbered from 0 with
arrays of their member names, the descriptor struct, and the two tables. The source includes
the header by the name it is given and defines the mnemonics, sixteen to a line, and the 256
descriptors. Lines are indented by tabs.
-/

namespace W65816.Render

open W65816.Text

/-- An enumeration and the array of its member names. -/
def cppEnum (name : String) (members : List String) : String :=
  "enum class " ++ name ++ " \x7b\n" ++
  String.join ((numbered members).map fun (m, i) => "\t" ++ m ++ " = " ++ toString i ++ ",\n") ++
  "\x7d;\n\n" ++
  "static const char* const " ++ name ++ "_names[" ++ toString members.length ++ "]=\x7b\n" ++
  String.join (members.map fun m => "\t\"" ++ m ++ "\",\n") ++
  "\x7d;\n\n"

/-- The header, in namespace `ns`. -/
def cppHeader (t : Table) (ns : String) : String :=
  let v := t.vocabulary
  "// " ++ heading ++ "\n" ++
  "#pragma once\n\n" ++
  "namespace " ++ ns ++ " \x7b\n\n" ++
  cppEnum "Operation" v.operations ++
  cppEnum "InstructionSize" v.sizes ++
  cppEnum "Operand" v.operands ++
  "struct OpCode \x7b\n" ++
  "\tOperation op;\n" ++
  "\tInstructionSize size;\n" ++
  "\tOperand mode;\n" ++
  "\tbool load_operand;\n" ++
  "\x7d;\n\n" ++
  "extern const char* const mnemonic_names[256]; // as used in an assembler\n" ++
  "extern const OpCode op_codes[256];\n\n" ++
  "\x7d\n"

/-- One descriptor as an aggregate initializer line. -/
def cppDescriptor (e : Descriptor) : String :=
  "\t\x7bOperation::" ++ padRight 4 (e.op ++ ",") ++
    " InstructionSize::" ++ padRight 7 (e.width.tag ++ ",") ++
    " Operand::" ++ padRight 36 (e.operand.tag ++ ",") ++
    " " ++ padRight 5 (toString e.load) ++ "\x7d, // " ++ rowComment e ++ "\n"

/-- The source, in namespace `ns`, including the header named `header`. -/
def cppSource (t : Table) (ns header : String) : String :=
  "// " ++ heading ++ "\n" ++
  "#include \"" ++ header ++ "\"\n\n" ++
  "namespace " ++ ns ++ " \x7b\n\n" ++
  "const char* const mnemonic_names[256] = \x7b\n" ++
  String.join ((chunks 16 t.entries).map fun chunk =>
    String.join (chunk.map fun e => "\t\"" ++ e.mnemonic ++ "\",") ++ "\n") ++
  "\x7d;\n\n" ++
  "const OpCode op_codes[256] = \x7b\n" ++
  String.join (t.entries.map cppDescriptor) ++
  "\x7d;\n\n" ++
  "\x7d\n"

end W65816.Render
