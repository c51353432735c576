import Mathlib.Data.List.DropRight
import W65816.Proofs.Row

set_option autoImplicit false

/-!
# Trimming and lowercasing

Two laws of the text functions that descriptions pass through. Trimming twice trims once
(`trim_trim`). And the full Unicode lowercase reaches a word of ASCII small letters other than
`k` only from the ASCII-case variants of that word (`lower_eq_ofList_iff`): below U+00C0 the
mapping lowers the ASCII capitals and keeps the rest, and above it no run of the mapping lands on
an ASCII small letter but the one of the Kelvin sign, which lands on `k`.
-/

namespace W65816.Text

/-! ## Trimming -/

theorem dropWhiteEnd_eq_rdropWhile (cs : List Char) : dropWhiteEnd cs = cs.rdropWhile isWhite := rfl

theorem trimChars_trimChars (cs : List Char) : trimChars (trimChars cs) = trimChars cs := by
  have kept : (dropWhite cs).rdropWhile isWhite <+: dropWhite cs := List.rdropWhile_prefix _ _
  have opening : dropWhite ((dropWhite cs).rdropWhile isWhite) = (dropWhite cs).rdropWhile isWhite := by
    rw [dropWhite, List.dropWhile_eq_self_iff]
    intro nonempty
    rw [kept.getElem]
    exact List.dropWhile_get_zero_not isWhite cs (Nat.lt_of_lt_of_le nonempty kept.length_le)
  simp only [trimChars, dropWhiteEnd_eq_rdropWhile]
  rw [opening, List.rdropWhile_idempotent]

theorem trim_trim (s : String) : trim (trim s) = trim s := by
  simp only [trim, String.toList_ofList, trimChars_trimChars]

/-! ## Lowercasing -/

/-- An ASCII small letter other than `k`. -/
def isPlainSmall (x : Char) : Bool := 'a' ≤ x && x ≤ 'z' && x != 'k'

theorem isPlainSmall_iff (x : Char) :
    isPlainSmall x = true ↔ 0x61 ≤ x.toNat ∧ x.toNat ≤ 0x7A ∧ x.toNat ≠ 0x6B := by
  simp only [isPlainSmall, Bool.and_eq_true, decide_eq_true_eq, bne_iff_ne, ne_eq,
    W65816.Char.le_iff_toNat_le, ← Char.toNat_inj, Char.reduceToNat, and_assoc]

/-- A code point that is not a character becomes NUL. -/
theorem toNat_ofNat_cases (m : Nat) : (Char.ofNat m).toNat = m ∨ (Char.ofNat m).toNat = 0 := by
  unfold Char.ofNat
  by_cases valid : m.isValidChar
  · rw [dif_pos valid]
    exact .inl rfl
  · rw [dif_neg valid]
    exact .inr rfl

theorem codes_of_plain_ofNat {m : Nat} (plain : isPlainSmall (Char.ofNat m) = true) :
    0x61 ≤ m ∧ m ≤ 0x7A ∧ m ≠ 0x6B := by
  rw [isPlainSmall_iff] at plain
  rcases toNat_ofNat_cases m with same | nul <;> omega

/-- Above U+00BF, a run of the lowercase mapping lands below `a`, above `z`, or, for the Kelvin
sign alone, on `k`. -/
theorem lowerRuns_miss_plain : ∀ r ∈ lowerRuns, r.2.1 < 0xC0 ∨ 0x7A < (r.1 : Int) + r.2.2.2 ∨
    (r.2.1 : Int) + r.2.2.2 < 0x61 ∨ ((r.1 : Int) + r.2.2.2 = 0x6B ∧ r.2.1 = r.1) := by
  decide +kernel

theorem lowerCode_of_ge {n : Nat} (above : 0xC0 ≤ n) :
    lowerCode n < 0x61 ∨ 0x7A < lowerCode n ∨ lowerCode n = 0x6B := by
  unfold lowerCode
  rw [if_neg (by omega)]
  split
  · next r found =>
      have within := List.find?_some found
      simp only [Bool.and_eq_true, decide_eq_true_eq, beq_iff_eq] at within
      rcases lowerRuns_miss_plain r (List.mem_of_find?_eq_some found) with low | high | below | kelvin
      all_goals omega
  · omega

/-- Below U+00C0 the lowercase of a character is its ASCII lowercase. -/
theorem lowerChar_of_lt {c : Char} (ascii : c.toNat < 0xC0) : lowerChar c = [asciiLower c] := by
  have notDotted : c.toNat ≠ 0x130 := by omega
  simp only [lowerChar, lowerCode, asciiLower, beq_iff_eq, notDotted, if_false, ascii, if_true,
    Bool.and_eq_true, decide_eq_true_eq, W65816.Char.le_iff_toNat_le, Char.reduceToNat,
    List.cons.injEq, and_true]
  split_ifs <;> simp

theorem lowerFrom_cons_of_lt {before rest : List Char} {c : Char} (ascii : c.toNat < 0xC0) :
    lowerFrom before (c :: rest) = asciiLower c :: lowerFrom (c :: before) rest := by
  have notSigma : c.toNat ≠ 0x3A3 := by omega
  simp [lowerFrom, notSigma, lowerChar_of_lt ascii]

/-- The lowercase of a text that opens above U+00BF holds a character that is no plain small
letter. -/
theorem exists_not_plain_lowerFrom_cons {before rest : List Char} {c : Char}
    (above : 0xC0 ≤ c.toNat) : ∃ x ∈ lowerFrom before (c :: rest), isPlainSmall x = false := by
  have inPiece : ∀ piece, (∃ x ∈ piece, isPlainSmall x = false) →
      ∃ x ∈ piece ++ lowerFrom (c :: before) rest, isPlainSmall x = false := by
    rintro piece ⟨x, member, plain⟩
    exact ⟨x, List.mem_append_left _ member, plain⟩
  simp only [lowerFrom]
  apply inPiece
  split
  · -- capital sigma lowers to a Greek small sigma
    split <;> exact ⟨_, List.mem_singleton_self _, by decide⟩
  · unfold lowerChar
    split
    · exact ⟨Char.ofNat 0x307, by simp, by decide⟩
    · refine ⟨_, List.mem_singleton_self _, ?_⟩
      cases plain : isPlainSmall (Char.ofNat (lowerCode c.toNat))
      · rfl
      · have codes := codes_of_plain_ofNat plain
        have missed := lowerCode_of_ge above
        omega

theorem toNat_lt_of_plain_asciiLower {c : Char} (plain : isPlainSmall (asciiLower c) = true) :
    c.toNat < 0xC0 := by
  unfold asciiLower at plain
  split at plain
  · next capital =>
      simp only [Bool.and_eq_true, decide_eq_true_eq, W65816.Char.le_iff_toNat_le,
        Char.reduceToNat] at capital
      omega
  · have codes := (isPlainSmall_iff c).mp plain
    omega

/-- A word of plain small letters is the lowercase of a text exactly when it is the text's ASCII
lowercase. -/
theorem lowerFrom_eq_iff {t : List Char} (plain : ∀ x ∈ t, isPlainSmall x = true)
    (before cs : List Char) : lowerFrom before cs = t ↔ cs.map asciiLower = t := by
  induction cs generalizing before t with
  | nil => simp [lowerFrom]
  | cons c rest inductionHypothesis =>
      by_cases ascii : c.toNat < 0xC0
      · rw [lowerFrom_cons_of_lt ascii, List.map_cons]
        cases t with
        | nil => simp
        | cons x t =>
            simp only [List.cons.injEq]
            rw [inductionHypothesis fun y member => plain y (List.mem_cons_of_mem x member)]
      · -- a character above U+00BF leaves a trace in the lowercase that the word lacks
        constructor
        · intro lowered
          have trace : ∃ x ∈ lowerFrom before (c :: rest), isPlainSmall x = false :=
            exists_not_plain_lowerFrom_cons (by omega)
          obtain ⟨x, member, notPlain⟩ := trace
          rw [lowered] at member
          simp [plain x member] at notPlain
        · intro mapped
          have first := plain (asciiLower c) (by rw [← mapped]; exact List.mem_cons_self)
          exact absurd (toNat_lt_of_plain_asciiLower first) ascii

theorem lower_eq_ofList_iff {t : List Char} (plain : ∀ x ∈ t, isPlainSmall x = true) (s : String) :
    lower s = String.ofList t ↔ s.toList.map asciiLower = t := by
  rw [lower, String.ofList_inj, lowerFrom_eq_iff plain]

end W65816.Text
