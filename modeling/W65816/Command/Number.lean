set_option autoImplicit false

/-!
# Byte arguments

A byte given on the command line: `0x` or `0X` followed by hexadecimal digits, or decimal
digits. The digits may follow one `+`. Reading goes digit by digit; the first character that
is no digit of the base is refused before any overflow, and a value past 255 is refused as soon
as it arises.
-/

namespace W65816.Command

/-- Why a byte argument is refused. -/
inductive NumberFault where
  | empty
  | invalidDigit
  | tooLarge
  deriving DecidableEq, Repr

def NumberFault.message : NumberFault → String
  | .empty => "cannot parse integer from empty string"
  | .invalidDigit => "invalid digit found in string"
  | .tooLarge => "number too large to fit in target type"

def digitValue (base : Nat) (c : Char) : Option Nat :=
  let d :=
    if '0' ≤ c && c ≤ '9' then some (c.toNat - 48)
    else if 'a' ≤ c && c ≤ 'z' then some (c.toNat - 87)
    else if 'A' ≤ c && c ≤ 'Z' then some (c.toNat - 55)
    else none
  match d with
  | some v => if v < base then some v else none
  | none => none

/-- Digits read onto `acc`, refusing a value past 255. -/
def readDigits (base : Nat) : Nat → List Char → Except NumberFault Nat
  | acc, [] => .ok acc
  | acc, c :: cs =>
    match digitValue base c with
    | none => .error .invalidDigit
    | some d =>
      if acc * base > 255 then .error .tooLarge
      else if acc * base + d > 255 then .error .tooLarge
      else readDigits base (acc * base + d) cs

/-- A byte in the given base, after an optional `+`. -/
def readByte (base : Nat) (cs : List Char) : Except NumberFault Nat :=
  match cs with
  | [] => .error .empty
  | ['+'] | ['-'] => .error .invalidDigit
  | '+' :: rest => readDigits base 0 rest
  | _ => readDigits base 0 cs

/-- A byte argument: hexadecimal after `0x` or `0X`, decimal otherwise. -/
def parseByte (s : String) : Except NumberFault Nat :=
  match s.toList with
  | '0' :: 'x' :: rest => readByte 16 rest
  | '0' :: 'X' :: rest => readByte 16 rest
  | cs => readByte 10 cs

end W65816.Command
