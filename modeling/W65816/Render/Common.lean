import W65816.Descriptor

set_option autoImplicit false

/-!
# Shared pieces of the generated sources

The heading comment, the comment that closes each table row in both generated languages, and
the grouping of the mnemonics sixteen to a line.
-/

namespace W65816.Render

open W65816.Text

def heading : String := "Generated by optab from the 65816 reference listing. Do not edit."

/-- The comment closing a table row: opcode, mnemonic and, if there is one, alias. -/
def rowComment (e : Descriptor) : String :=
  hexByte e.opcode.val ++ " " ++ e.mnemonic ++ (if e.altName.isEmpty then "" else " " ++ e.altName)

/-- A list cut into pieces of `n` elements, the last one possibly shorter. -/
def chunks {α : Type} (n : Nat) (xs : List α) : List (List α) :=
  if _h : n = 0 then [xs]
  else
    match xs with
    | [] => []
    | y :: ys => (y :: ys).take n :: chunks n ((y :: ys).drop n)
termination_by xs.length
decreasing_by simp; omega

/-- Members of a generated type with their positions. -/
def numbered (xs : List String) : List (String × Nat) := xs.zip (List.range xs.length)

end W65816.Render
