set_option autoImplicit false

/-!
# Layout of printed values

Padding to a column width, counted in characters and never truncating, and two-digit
uppercase hexadecimal. Every table line, listing trace and generated source line is laid out
with these.
-/

namespace W65816.Text

/-- `s` followed by spaces up to `w` characters; a longer `s` is kept whole. -/
def padRight (w : Nat) (s : String) : String := s.pushn ' ' (w - s.length)

/-- Spaces up to `w` characters followed by `s`; a longer `s` is kept whole. -/
def padLeft (w : Nat) (s : String) : String := "".pushn ' ' (w - s.length) ++ s

def hexDigit (n : Nat) : Char :=
  if n < 10 then Char.ofNat (48 + n) else Char.ofNat (55 + n)

def hex2 (n : Nat) : String := String.ofList [hexDigit (n / 16 % 16), hexDigit (n % 16)]

/-- A number below 256 as `0x` and two uppercase hexadecimal digits. -/
def hexByte (n : Nat) : String := "0x" ++ hex2 n

end W65816.Text
