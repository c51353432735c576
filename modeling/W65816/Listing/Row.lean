import W65816.Legend

set_option autoImplicit false

/-!
# Listing rows

A reference listing row has tab-separated fields: the assembler syntax, an alias, the byte
count, the opcode in hexadecimal and the addressing-mode description. Fields past the fifth
are ignored, and so is the byte count.

`Row.parse` reads one row. The syntax checks come first and in this order: at least five
fields; a mnemonic (ASCII letters after optional white space) at the start of the syntax
field; an opcode field of optional white space, an optional `0x`, `0X` or `$`, exactly two
hexadecimal digits and optional white space. The mode comes last: a description that reads
`immediate` in any ASCII case takes the immediate mode the mnemonic calls for, any other
description is resolved by the legend.
-/

namespace W65816

open W65816.Text

/-- One parsed listing row: its line number (from 1), the opcode, alias and description fields
trimmed, the mnemonic in upper case, and the position of its mode in the legend. -/
structure Row where
  line : Nat
  opcodeText : String
  opcode : Opcode
  mnemonic : String
  altName : String
  description : String
  mode : Nat
  deriving DecidableEq, Repr, Inhabited

def fieldsOf (row : String) : List String := (splitOnChar '\t' row.toList).map String.ofList

def isAsciiLetter (c : Char) : Bool := ('A' ≤ c && c ≤ 'Z') || ('a' ≤ c && c ≤ 'z')

/-- The ASCII letters that open a syntax field after its white space, in upper case. -/
def mnemonicOf (field : String) : Option String :=
  match (dropWhite field.toList).takeWhile isAsciiLetter with
  | [] => none
  | cs => some (String.ofList (cs.map Char.toUpper))

def hexValue (c : Char) : Option Nat :=
  if '0' ≤ c && c ≤ '9' then some (c.toNat - 48)
  else if 'A' ≤ c && c ≤ 'F' then some (c.toNat - 55)
  else if 'a' ≤ c && c ≤ 'f' then some (c.toNat - 87)
  else none

def dropHexPrefix : List Char → List Char
  | '0' :: 'x' :: r => r
  | '0' :: 'X' :: r => r
  | '$' :: r => r
  | r => r

/-- The byte an opcode field holds: two hexadecimal digits, optionally prefixed, with white
space only around them. -/
def opcodeOf (field : String) : Option Opcode :=
  match dropHexPrefix (dropWhite field.toList) with
  | a :: b :: rest =>
    if rest.all isWhite then
      match hexValue a, hexValue b with
      | some x, some y => some (Opcode.ofByte (16 * x + y))
      | _, _ => none
    else none
  | _ => none

/-- The immediate mode a mnemonic calls for: the accumulator's width, the index registers'
width, or one byte. -/
def immediateMode (mnemonic : String) : Option AddrMode :=
  if mnemonic ∈ ["ADC", "AND", "BIT", "CMP", "EOR", "LDA", "ORA", "SBC"] then
    some .immediateMemory
  else if mnemonic ∈ ["CPX", "CPY", "LDX", "LDY"] then some .immediateIndex
  else if mnemonic ∈ ["REP", "SEP"] then some .immediate8
  else none

/-- Whether a description is the bare word `immediate`, in any ASCII case. -/
def isImmediateWord (description : String) : Bool := eqIgnoreAsciiCase description "immediate"

def modeOfRow (legend : Legend) (line : Nat) (row mnemonic : String) (opcode : Opcode)
    (description : String) : Except Fault Nat :=
  if isImmediateWord description then
    match immediateMode mnemonic with
    | none => .error (.unknownImmediate line row mnemonic opcode)
    | some m =>
      match legend.indexOf m with
      | none => .error (.immediateMissing line row m)
      | some i => .ok i
  else
    match legend.resolve description with
    | .ok i => .ok i
    | .error _ => .error (.unresolvedRow line row opcode description)

def Row.parse (legend : Legend) (line : Nat) (row : String) : Except Fault Row :=
  let fields := fieldsOf row
  if fields.length ≤ 4 then .error (.tooFewFields line row fields.length)
  else
    match mnemonicOf (fields.getD 0 "") with
    | none => .error (.noMnemonic line row)
    | some mnemonic =>
      let opField := fields.getD 3 ""
      match opcodeOf opField with
      | none => .error (.badOpcode line row (trim opField))
      | some opcode =>
        let description := trim (fields.getD 4 "")
        match modeOfRow legend line row mnemonic opcode description with
        | .error f => .error f
        | .ok mode =>
          .ok { line, opcodeText := trim opField, opcode, mnemonic,
                altName := trim (fields.getD 1 ""), description, mode }

end W65816
