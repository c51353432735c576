import Mathlib.Tactic.SplitIfs
import W65816.Proofs.Listing

set_option autoImplicit false

/-!
# UTF-8 bytes

Generated names are ordered by their bytes, and listing files are read as bytes a line at a
time. UTF-8 writes a character as its base-64 digits under a lead marker
(`Text.utf8EncodeChar_digits`), and two facts follow from that layout.

Strings compare as their bytes do (`Text.lt_iff_utf8Bytes_lt`): lead bytes grow with the
length of the code, continuation bytes lie below every lead byte of a longer code, so the
first character that differs decides both comparisons.

The byte 10 is the line feed's alone, so the pieces of a text's bytes between line feeds are
the bytes of its pieces between `\n` characters (`splitOn_lf_flatMap_utf8`), and a byte string
is UTF-8 exactly when each of those pieces is. Reading a file a line at a time therefore gives
the lines of its text when the file is UTF-8 and fails when it is not (`readLines_eq`).
-/

namespace W65816

open W65816.Text

/-! ## Characters as digits -/

namespace Text

def utf8Bytes (s : String) : List UInt8 := s.toUTF8.data.toList

theorem utf8Bytes_eq (s : String) : utf8Bytes s = s.toList.flatMap String.utf8EncodeChar := by
  simp [utf8Bytes, ← String.utf8Encode_toList, List.utf8Encode]

/-- A character's UTF-8 bytes are its base-64 digits under a lead marker: one byte below `0x80`,
or a lead byte from `0xC0`, `0xE0` or `0xF0` on, followed by bytes from `0x80` on. -/
theorem utf8EncodeChar_digits (c : Char) :
    (c.val.toNat < 0x80 ∧ String.utf8EncodeChar c = [UInt8.ofNat c.val.toNat]) ∨
    (∃ a b, 0x80 ≤ c.val.toNat ∧ a < 32 ∧ b < 64 ∧ c.val.toNat = 64 * a + b ∧
      String.utf8EncodeChar c = [UInt8.ofNat (0xC0 + a), UInt8.ofNat (0x80 + b)]) ∨
    (∃ a b e, 0x800 ≤ c.val.toNat ∧ a < 16 ∧ b < 64 ∧ e < 64 ∧
      c.val.toNat = 4096 * a + 64 * b + e ∧
      String.utf8EncodeChar c =
        [UInt8.ofNat (0xE0 + a), UInt8.ofNat (0x80 + b), UInt8.ofNat (0x80 + e)]) ∨
    (∃ a b e f, 0x10000 ≤ c.val.toNat ∧ a < 8 ∧ b < 64 ∧ e < 64 ∧ f < 64 ∧
      c.val.toNat = 262144 * a + 4096 * b + 64 * e + f ∧
      String.utf8EncodeChar c =
        [UInt8.ofNat (0xF0 + a), UInt8.ofNat (0x80 + b), UInt8.ofNat (0x80 + e),
          UInt8.ofNat (0x80 + f)]) := by
  have valid := c.valid
  simp only [UInt32.isValidChar, Nat.isValidChar] at valid
  unfold String.utf8EncodeChar
  generalize c.val.toNat = v at *
  dsimp only
  have low := Nat.div_add_mod v 64
  have middle := Nat.div_add_mod (v / 64) 64
  have high := Nat.div_add_mod (v / 64 / 64) 64
  have twelve : v / 4096 = v / 64 / 64 := by rw [Nat.div_div_eq_div_mul]
  have eighteen : v / 262144 = v / 64 / 64 / 64 := by
    rw [Nat.div_div_eq_div_mul, Nat.div_div_eq_div_mul]
  split_ifs with one two three
  · exact .inl ⟨by omega, rfl⟩
  · refine .inr (.inl ⟨v / 64 % 32, v % 64, by omega, by omega, by omega, by omega, ?_⟩)
    simp only [Nat.add_comm]
  · refine .inr (.inr (.inl ⟨v / 4096 % 16, v / 64 % 64, v % 64, by omega, by omega, by omega,
      by omega, by omega, ?_⟩))
    simp only [Nat.add_comm]
  · refine .inr (.inr (.inr ⟨v / 262144 % 8, v / 4096 % 64, v / 64 % 64, v % 64, by omega,
      by omega, by omega, by omega, by omega, by omega, ?_⟩))
    simp only [Nat.add_comm]

/-! ## Byte order -/

/-- The bytes of one character followed by more bytes compare as the characters do, and as what
follows when the characters are the same. -/
theorem utf8EncodeChar_append_lt_iff (c d : Char) (rest rest' : List UInt8) :
    String.utf8EncodeChar c ++ rest < String.utf8EncodeChar d ++ rest' ↔
      c < d ∨ c = d ∧ rest < rest' := by
  have lt : c < d ↔ c.val.toNat < d.val.toNat := Iff.rfl
  have eq : c = d ↔ c.val.toNat = d.val.toNat :=
    ⟨fun same => same ▸ rfl, fun same => Char.ext (UInt32.toNat_inj.mp same)⟩
  rw [lt, eq]
  -- one case for each pair of lengths; the bytes then compare as digits do
  by_cases after : rest < rest' <;>
  rcases utf8EncodeChar_digits c with ⟨_, hc⟩ | ⟨_, _, _, _, _, _, hc⟩ |
      ⟨_, _, _, _, _, _, _, _, hc⟩ | ⟨_, _, _, _, _, _, _, _, _, _, hc⟩ <;>
    rcases utf8EncodeChar_digits d with ⟨_, hd⟩ | ⟨_, _, _, _, _, _, hd⟩ |
      ⟨_, _, _, _, _, _, _, _, hd⟩ | ⟨_, _, _, _, _, _, _, _, _, _, hd⟩ <;>
    simp only [hc, hd, List.cons_append, List.nil_append, List.cons_lt_cons_iff,
      UInt8.lt_iff_toNat_lt, ← UInt8.toNat_inj, UInt8.toNat_ofNat', after, and_true, and_false,
      or_false] <;>
    omega

theorem flatMap_utf8EncodeChar_lt_iff (cs ds : List Char) :
    cs.flatMap String.utf8EncodeChar < ds.flatMap String.utf8EncodeChar ↔ cs < ds := by
  induction cs generalizing ds with
  | nil =>
    cases ds with
    | nil => simp
    | cons d ds =>
      obtain ⟨b, bs, first⟩ := List.exists_cons_of_ne_nil (String.utf8EncodeChar_ne_nil (c := d))
      simp [List.flatMap_cons, first]
  | cons c cs inductionHypothesis =>
    cases ds with
    | nil => simp
    | cons d ds =>
      rw [List.flatMap_cons, List.flatMap_cons, utf8EncodeChar_append_lt_iff, inductionHypothesis,
        List.cons_lt_cons_iff]

theorem lt_iff_utf8Bytes_lt (s t : String) : s < t ↔ utf8Bytes s < utf8Bytes t := by
  rw [String.lt_iff, ← flatMap_utf8EncodeChar_lt_iff, utf8Bytes_eq, utf8Bytes_eq]

/-! ## Line feeds -/

theorem utf8EncodeChar_lf : String.utf8EncodeChar '\n' = [10] := rfl

theorem lf_not_mem_utf8EncodeChar {c : Char} (other : c ≠ '\n') :
    (10 : UInt8) ∉ String.utf8EncodeChar c := by
  have code : c.val.toNat ≠ 10 := fun ten => other (Char.ext (UInt32.toNat_inj.mp ten))
  have lf : (10 : UInt8).toNat = 10 := rfl
  rcases utf8EncodeChar_digits c with ⟨_, hc⟩ | ⟨_, _, _, _, _, _, hc⟩ |
      ⟨_, _, _, _, _, _, _, _, hc⟩ | ⟨_, _, _, _, _, _, _, _, _, _, hc⟩ <;>
    simp only [hc, List.mem_cons, List.not_mem_nil, ← UInt8.toNat_inj, UInt8.toNat_ofNat', lf,
      or_false] <;>
    omega

/-- Splitting after bytes that hold no separator: they join the first piece. -/
theorem splitOn_append_of_not_mem {sep : UInt8} {bs : List UInt8} (absent : sep ∉ bs)
    (rest : List UInt8) : (bs ++ rest).splitOn sep = (rest.splitOn sep).modifyHead (bs ++ ·) := by
  induction bs with
  | nil =>
    show rest.splitOn sep = (rest.splitOn sep).modifyHead id
    rw [List.modifyHead_id]
    rfl
  | cons b bs inductionHypothesis =>
    have other : (b == sep) = false := by
      simpa using fun same : b = sep => absent (same ▸ List.mem_cons_self)
    rw [List.cons_append, List.splitOn_cons_eq_if_modifyHead, other, if_neg Bool.false_ne_true,
      inductionHypothesis (fun member => absent (List.mem_cons_of_mem b member)),
      List.modifyHead_modifyHead]
    rfl

end Text

theorem splitOnChar_eq_splitOn (sep : Char) (cs : List Char) : splitOnChar sep cs = cs.splitOn sep := by
  induction cs with
  | nil => rfl
  | cons c cs inductionHypothesis =>
    obtain ⟨f, fs, pieces⟩ := List.exists_cons_of_ne_nil (List.splitOn_ne_nil sep cs)
    rw [splitOnChar, List.splitOn_cons_eq_if_modifyHead, inductionHypothesis, pieces]
    split <;> rfl

/-- The pieces of a text's bytes between line feeds are the bytes of its pieces between `\n`. -/
theorem splitOn_lf_flatMap_utf8 (cs : List Char) :
    (cs.flatMap String.utf8EncodeChar).splitOn 10 =
      (cs.splitOn '\n').map (·.flatMap String.utf8EncodeChar) := by
  induction cs with
  | nil => rfl
  | cons c cs inductionHypothesis =>
    rw [List.flatMap_cons, List.splitOn_cons_eq_if_modifyHead]
    by_cases lf : c = '\n'
    · subst lf
      rw [utf8EncodeChar_lf, List.singleton_append, List.splitOn_cons_eq_if_modifyHead,
        inductionHypothesis]
      rfl
    · obtain ⟨f, fs, pieces⟩ := List.exists_cons_of_ne_nil (List.splitOn_ne_nil '\n' cs)
      rw [splitOn_append_of_not_mem (lf_not_mem_utf8EncodeChar lf), inductionHypothesis, pieces,
        if_neg (by simpa using lf)]
      simp [List.flatMap_cons]

/-! ## Reading a file a line at a time -/

/-- A string read back from bytes that decoded to it. -/
theorem toUTF8_of_fromUTF8? {bytes : ByteArray} {s : String} (decoded : String.fromUTF8? bytes = some s) :
    s.toUTF8 = bytes := by
  unfold String.fromUTF8? at decoded
  split at decoded
  · cases decoded
    rfl
  · cases decoded

theorem decodeLine_flatMap_utf8 (cs : List Char) :
    decodeLine (cs.flatMap String.utf8EncodeChar) = .ok (String.ofList cs) := by
  have bytes : (cs.flatMap String.utf8EncodeChar).toByteArray = (String.ofList cs).toUTF8 := by
    rw [String.toUTF8_eq_toByteArray, String.toByteArray_ofList]
    rfl
  rw [decodeLine, bytes, fromUTF8?_toUTF8]

/-- Pieces that are the bytes of characters read as the lines of those characters. -/
theorem readLinesOfPieces_utf8 (pieces : List (List Char)) :
    readLinesOfPieces (pieces.map (·.flatMap String.utf8EncodeChar)) = .ok (linesOfPieces pieces) := by
  induction pieces with
  | nil => rfl
  | cons p ps inductionHypothesis =>
    cases ps with
    | nil =>
      have empty : (p.flatMap String.utf8EncodeChar).isEmpty = p.isEmpty := by
        cases p with
        | nil => rfl
        | cons c cs => simp [String.utf8EncodeChar_ne_nil]
      simp only [List.map_cons, List.map_nil, readLinesOfPieces, linesOfPieces, empty]
      split <;> simp [decodeLine_flatMap_utf8, bind, Except.bind, pure, Except.pure]
    | cons q qs =>
      simp only [List.map_cons] at inductionHypothesis ⊢
      rw [readLinesOfPieces.eq_3 _ _ (List.cons_ne_nil _ _), decodeLine_flatMap_utf8,
        inductionHypothesis, linesOfPieces.eq_3 _ _ (List.cons_ne_nil q qs)]
      simp only [bind, Except.bind, pure, Except.pure, String.toList_ofList]

/-- A file that holds the UTF-8 bytes of a text reads as the lines of that text. -/
theorem readLines_toUTF8 (text : String) : readLines text.toUTF8 = .ok (linesOf text) := by
  have bytes : text.toUTF8.data.toList = text.toList.flatMap String.utf8EncodeChar :=
    utf8Bytes_eq text
  rw [readLines, bytes, splitOn_lf_flatMap_utf8, readLinesOfPieces_utf8, linesOf,
    splitOnChar_eq_splitOn]

theorem decodeLine_error {bs : List UInt8} {e : IoFault} (failed : decodeLine bs = .error e) :
    e = .invalidUtf8 := by
  unfold decodeLine at failed
  split at failed <;> cases failed
  rfl

theorem isValidUTF8_of_decodeLine {bs : List UInt8} {s : String} (decoded : decodeLine bs = .ok s) :
    bs.toByteArray.IsValidUTF8 := by
  unfold decodeLine at decoded
  split at decoded
  · rename_i text found
    rw [← toUTF8_of_fromUTF8? found, String.toUTF8_eq_toByteArray]
    exact text.isValidUTF8
  · cases decoded

/-- Reading the pieces of a file fails, and then with `invalidUtf8`, unless every piece is UTF-8. -/
theorem readLinesOfPieces_valid_or_error (pieces : List (List UInt8)) :
    (∀ p ∈ pieces, p.toByteArray.IsValidUTF8) ∨ readLinesOfPieces pieces = .error .invalidUtf8 := by
  induction pieces with
  | nil => exact .inl (by simp)
  | cons p ps inductionHypothesis =>
    cases decoded : decodeLine p with
    | error e =>
      obtain rfl := decodeLine_error decoded
      refine .inr ?_
      cases ps with
      | nil =>
        have filled : p.isEmpty = false := by
          cases p with
          | nil =>
            have empty : decodeLine [] = .ok "" := decodeLine_flatMap_utf8 []
            rw [empty] at decoded
            cases decoded
          | cons b bs => rfl
        simp [readLinesOfPieces, filled, decoded, bind, Except.bind]
      | cons q qs =>
        rw [readLinesOfPieces.eq_3 _ _ (List.cons_ne_nil q qs), decoded]
        rfl
    | ok s =>
      have valid := isValidUTF8_of_decodeLine decoded
      cases ps with
      | nil => exact .inl (by simpa using valid)
      | cons q qs =>
        rcases inductionHypothesis with rest | failed
        · exact .inl (List.forall_mem_cons.mpr ⟨valid, rest⟩)
        · refine .inr ?_
          rw [readLinesOfPieces.eq_3 _ _ (List.cons_ne_nil q qs), decoded]
          simp [failed, bind, Except.bind]

/-- UTF-8 pieces joined by line feeds are UTF-8. -/
theorem isValidUTF8_intercalate_lf (pieces : List (List UInt8))
    (valid : ∀ p ∈ pieces, p.toByteArray.IsValidUTF8) :
    ([10].intercalate pieces).toByteArray.IsValidUTF8 := by
  induction pieces with
  | nil => exact ByteArray.isValidUTF8_empty
  | cons p ps inductionHypothesis =>
    cases ps with
    | nil => simpa using valid p List.mem_cons_self
    | cons q qs =>
      have lf : [(10 : UInt8)].toByteArray.IsValidUTF8 := ⟨['\n'], rfl⟩
      rw [List.intercalate_cons_of_ne_nil (List.cons_ne_nil q qs), List.toByteArray_append,
        List.toByteArray_append]
      exact ((valid p List.mem_cons_self).append lf).append
        (inductionHypothesis fun r member => valid r (List.mem_cons_of_mem p member))

theorem toByteArray_data_toList (bytes : ByteArray) : bytes.data.toList.toByteArray = bytes :=
  ByteArray.ext (by simp [List.data_toByteArray])

/-- Reading a file a line at a time reads the lines of its text when the file is UTF-8, and fails
with `invalidUtf8` when it is not. -/
theorem readLines_eq (bytes : ByteArray) :
    readLines bytes =
      match String.fromUTF8? bytes with
      | some text => .ok (linesOf text)
      | none => .error .invalidUtf8 := by
  cases decoded : String.fromUTF8? bytes with
  | some text =>
    rw [← toUTF8_of_fromUTF8? decoded]
    exact readLines_toUTF8 text
  | none =>
    rcases readLinesOfPieces_valid_or_error (bytes.data.toList.splitOn 10) with valid | failed
    · have whole := isValidUTF8_intercalate_lf _ valid
      rw [List.intercalate_splitOn, toByteArray_data_toList] at whole
      simp [String.fromUTF8?, whole] at decoded
    · exact failed

end W65816
