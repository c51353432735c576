import W65816.Mode
import W65816.Text.Layout

set_option autoImplicit false

/-!
# Faults

Every cause that stops a build, one constructor each, with the words printed for it in one
place (`Fault.message`). A fault also has a kind, the coarse class that the command line names
in its last line, and may carry the listing row it arose on (`Fault.context`).
-/

namespace W65816

open W65816.Text

/-- What the file system refused: the causes a run meets, named, and any other by its system
error number. -/
inductive IoFault where
  | notFound
  | isDirectory
  | notDirectory
  | nameTooLong
  | noSpace
  | invalidUtf8
  | other (code : Nat)
  deriving DecidableEq, Repr

def errorText : Nat → String
  | 1 => "Operation not permitted"
  | 2 => "No such file or directory"
  | 5 => "Input/output error"
  | 13 => "Permission denied"
  | 17 => "File exists"
  | 20 => "Not a directory"
  | 21 => "Is a directory"
  | 28 => "No space left on device"
  | 30 => "Read-only file system"
  | 36 => "File name too long"
  | 40 => "Too many levels of symbolic links"
  | n => "Unknown error " ++ toString n

def IoFault.message : IoFault → String
  | .notFound => "No such file or directory (os error 2)"
  | .isDirectory => "Is a directory (os error 21)"
  | .notDirectory => "Not a directory (os error 20)"
  | .nameTooLong => "File name too long (os error 36)"
  | .noSpace => "No space left on device (os error 28)"
  | .invalidUtf8 => "stream did not contain valid UTF-8"
  | .other code => errorText code ++ " (os error " ++ toString code ++ ")"

inductive FaultKind where
  | unresolvedAddressingMode
  | unknownImmediateMnemonic
  | duplicateOverride
  | incompleteOpcodeCoverage
  | catalog
  | malformedRow
  | io
  | general
  deriving DecidableEq, Repr

def FaultKind.name : FaultKind → String
  | .unresolvedAddressingMode => "UnresolvedAddressingMode"
  | .unknownImmediateMnemonic => "UnknownImmediateMnemonic"
  | .duplicateOverride => "DuplicateOverride"
  | .incompleteOpcodeCoverage => "IncompleteOpcodeCoverage"
  | .catalog => "Catalog"
  | .malformedRow => "Syntax"
  | .io => "IO"
  | .general => "General"

/-- A cause that stops a build. Descriptions and opcode fields are kept trimmed; of two
amendments or listing rows for one opcode the earlier comes first; `jsonWrite` is a refusal
that came while the JSON writer was still writing records. -/
inductive Fault where
  | manualInLegend (symbol : String)
  | duplicateSymbol (symbol : String)
  | duplicateName (name : String)
  | duplicateMode (mode : AddrMode)
  | unknownTarget (phrase symbol : String)
  | shadowedName (phrase : String)
  | duplicatePhrase (phrase : String)
  | unresolved (description : String)
  | tooFewFields (line : Nat) (row : String) (found : Nat)
  | noMnemonic (line : Nat) (row : String)
  | badOpcode (line : Nat) (row : String) (field : String)
  | unknownImmediate (line : Nat) (row : String) (mnemonic : String) (opcode : Opcode)
  | immediateMissing (line : Nat) (row : String) (mode : AddrMode)
  | unresolvedRow (line : Nat) (row : String) (opcode : Opcode) (description : String)
  | duplicateAmendment (opcode : Opcode) (firstOp : String) (firstMode : AddrMode)
      (op : String) (mode : AddrMode)
  | listedTwice (opcode : Opcode) (firstLine : Nat) (firstMnemonic : String)
      (line : Nat) (mnemonic : String)
  | missing (opcodes : List Opcode)
  | io (cause : IoFault)
  | jsonWrite (cause : IoFault)
  | badOutputPath (path : String)
  deriving DecidableEq, Repr

namespace Fault

def kind : Fault → FaultKind
  | manualInLegend .. | duplicateSymbol .. | duplicateName .. | duplicateMode ..
  | unknownTarget .. | shadowedName .. | duplicatePhrase .. | immediateMissing .. => .catalog
  | unresolved .. | unresolvedRow .. => .unresolvedAddressingMode
  | tooFewFields .. | noMnemonic .. | badOpcode .. => .malformedRow
  | unknownImmediate .. => .unknownImmediateMnemonic
  | duplicateAmendment .. => .duplicateOverride
  | listedTwice .. | missing .. => .incompleteOpcodeCoverage
  | io .. => .io
  | jsonWrite .. | badOutputPath .. => .general

def context : Fault → Option String
  | tooFewFields _ row _ | noMnemonic _ row | badOpcode _ row _ | unknownImmediate _ row _ _
  | immediateMissing _ row _ | unresolvedRow _ row _ _ => some row
  | _ => none

private def quoted (s : String) : String := "\"" ++ s ++ "\""

def syntaxHeading (line : Nat) : String :=
  "\x1b[91mSyntax Error\x1b[0m, line " ++ toString line ++ ": "

/-- The words printed for a fault. -/
def message : Fault → String
  | manualInLegend s => "catalog entry " ++ quoted s ++ " cannot be MANUAL"
  | duplicateSymbol s => "duplicate catalog symbol " ++ quoted s
  | duplicateName n => "duplicate catalog description " ++ quoted n
  | duplicateMode m => "mode " ++ m.tag ++ " appears twice in the catalog"
  | unknownTarget p s => "correction " ++ quoted p ++ " targets unknown symbol " ++ quoted s
  | shadowedName p => "correction " ++ quoted p ++ " shadows a catalog description"
  | duplicatePhrase p => "duplicate correction " ++ quoted p
  | unresolved d => "unresolved addressing mode " ++ quoted d
  | tooFewFields line _ found =>
    syntaxHeading line ++ "expected at least 5 tab-separated fields, found " ++ toString found
  | noMnemonic line _ => syntaxHeading line ++ "missing mnemonic"
  | badOpcode line _ field => syntaxHeading line ++ "invalid opcode " ++ quoted field
  | unknownImmediate line _ m op =>
    "line " ++ toString line ++ ": unknown immediate usage for " ++ m ++ " (opcode " ++
      hexByte op.val ++ ")"
  | immediateMissing line _ m => "line " ++ toString line ++ ": catalog has no " ++ m.tag ++ " mode"
  | unresolvedRow line _ op d =>
    "line " ++ toString line ++ ": opcode " ++ hexByte op.val ++ ": unresolved addressing mode " ++
      quoted d
  | duplicateAmendment op op1 m1 op2 m2 =>
    "duplicate override for opcode " ++ hexByte op.val ++ " (" ++ op1 ++ " " ++ m1.tag ++
      " and " ++ op2 ++ " " ++ m2.tag ++ ")"
  | listedTwice op l1 m1 l2 m2 =>
    "opcode " ++ hexByte op.val ++ " is listed twice (line " ++ toString l1 ++ " " ++ m1 ++
      " and line " ++ toString l2 ++ " " ++ m2 ++ ")"
  | missing ops =>
    toString ops.length ++ " opcode(s) missing from the reference table: " ++
      " ".intercalate (ops.map fun op => hexByte op.val)
  | io cause | jsonWrite cause => cause.message
  | badOutputPath p => "invalid output path " ++ p

def showRow (row : String) : String := " | ".intercalate (row.splitOn "\t")

/-- The message, followed on a new line by the row it arose on, if any. -/
def display (f : Fault) : String :=
  match f.context with
  | some row => f.message ++ "\nRow: " ++ showRow row
  | none => f.message

/-- The last line of a failed run: the kind and the message after a red heading. -/
def report (f : Fault) : String :=
  "Error: \x1b[91moptab::Error\x1b[0m: " ++ f.kind.name ++ ": " ++ f.message

end Fault

end W65816
