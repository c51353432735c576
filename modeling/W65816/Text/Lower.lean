import W65816.Text.CaseTables

set_option autoImplicit false

/-!
# Lowercase

The full Unicode lowercase mapping of a string. Three rules make it up:

- capital I with dot above (U+0130) becomes `i` followed by a combining dot above;
- capital sigma becomes final sigma when a cased letter comes before it and none after it,
  case-ignorable characters skipped on both sides, and small sigma otherwise;
- every other character takes its simple lowercase from `lowerRuns`.

Mode descriptions and the phrasings of a legend are compared in this form.
-/

namespace W65816.Text

def inRanges (rs : List (Nat × Nat)) (n : Nat) : Bool :=
  rs.any fun r => r.1 ≤ n && n ≤ r.2

/-- The simple lowercase of a code point. Below U+00C0 only the ASCII capitals change. -/
def lowerCode (n : Nat) : Nat :=
  if n < 0xC0 then
    if 0x41 ≤ n && n ≤ 0x5A then n + 32 else n
  else
    match lowerRuns.find? (fun r => r.1 ≤ n && n ≤ r.2.1 && (n - r.1) % r.2.2.1 == 0) with
    | some r => ((n : Int) + r.2.2.2).toNat
    | none => n

def isCaseIgnorable (c : Char) : Bool := inRanges caseIgnorableRanges c.toNat

def isCased (c : Char) : Bool := inRanges casedRanges c.toNat

/-- Whether the first character that is not case-ignorable is cased. -/
def casedAhead (cs : List Char) : Bool :=
  match cs.dropWhile isCaseIgnorable with
  | c :: _ => isCased c
  | [] => false

/-- The lowercase of one character taken out of context. -/
def lowerChar (c : Char) : List Char :=
  if c.toNat == 0x130 then ['i', Char.ofNat 0x307] else [Char.ofNat (lowerCode c.toNat)]

/-- Lowercase `cs`; `before` holds the characters already passed, nearest first. -/
def lowerFrom : List Char → List Char → List Char
  | _, [] => []
  | before, c :: rest =>
    (if c.toNat == 0x3A3 then
        [if casedAhead before && !casedAhead rest then Char.ofNat 0x3C2 else Char.ofNat 0x3C3]
      else lowerChar c) ++ lowerFrom (c :: before) rest

def lower (s : String) : String := String.ofList (lowerFrom [] s.toList)

end W65816.Text
