import W65816.Proofs.Text
import W65816.Proofs.Renumbering
import W65816.Proofs.Legend

set_option autoImplicit false

/-!
# How a row's mode is chosen

A row's description goes one of two ways. The bare word `immediate`, in any ASCII case, does not
say how wide the operand is, so the mnemonic chooses among the three immediate modes and the
legend is searched by mode, whatever its names and phrasings say about that word. Every other
description is resolved by the legend, and a description that does not resolve is reported again
with the row's line and opcode.

The two ways agree on which descriptions they take: a description is `immediate` in some ASCII
case exactly when its trimmed Unicode lowercase is `immediate` (`isImmediateWord_trim_iff_key`).
So two rows with one mnemonic whose descriptions have one key get one mode, or fail with one kind
of fault (`row_mode_choice`).
-/

namespace W65816

open W65816.Text

/-! ## The immediate word -/

theorem isImmediateWord_iff_lower (d : String) : isImmediateWord d = true ↔ lower d = "immediate" := by
  have spelled : "immediate".toList.map asciiLower = "immediate".toList := by decide
  have plain : "immediate".toList.all isPlainSmall = true := by decide
  rw [isImmediateWord, eqIgnoreAsciiCase, beq_iff_eq, spelled,
    ← lower_eq_ofList_iff (List.all_eq_true.mp plain),
    String.ofList_toList]

/-- A trimmed description is the word `immediate` in some ASCII case exactly when the key the
legend looks it up by is `immediate`. -/
theorem isImmediateWord_trim_iff_key (field : String) :
    isImmediateWord (trim field) = true ↔ Legend.key field = "immediate" := by
  rw [isImmediateWord_iff_lower, Legend.key]

theorem Legend.resolve_eq_error {g : Legend} {d : String} {e : Fault} (failed : g.resolve d = .error e) :
    e = .unresolved (trim d) := by
  unfold Legend.resolve at failed
  dsimp only at failed
  split at failed
  · cases failed
  · split at failed
    · cases failed
    · cases failed
      rfl

/-- A description resolves as any other with its key does, and when that one fails it fails too,
naming itself. -/
theorem Legend.resolve_of_key (g : Legend) {d d' : String} (same : Legend.key d = Legend.key d') :
    g.resolve d' = (g.resolve d).mapError fun _ => .unresolved (trim d') := by
  simp only [Legend.resolve, same]
  cases g.entries.findIdx? (fun e => lower e.name == Legend.key d') with
  | some i => rfl
  | none => cases g.phrasings.lookup (Legend.key d') <;> rfl

/-- The mnemonics that call for an immediate mode, and the mode each calls for. -/
theorem immediateMode_eq_some_iff (m : String) (x : AddrMode) :
    immediateMode m = some x ↔
      m ∈ ["ADC", "AND", "BIT", "CMP", "EOR", "LDA", "ORA", "SBC"] ∧ x = .immediateMemory ∨
      m ∈ ["CPX", "CPY", "LDX", "LDY"] ∧ x = .immediateIndex ∨
      m ∈ ["REP", "SEP"] ∧ x = .immediate8 := by
  unfold immediateMode
  constructor
  · intro selected
    split_ifs at selected with memory index byte <;> cases selected
    · exact .inl ⟨memory, rfl⟩
    · exact .inr (.inl ⟨index, rfl⟩)
    · exact .inr (.inr ⟨byte, rfl⟩)
  · -- the three lists share no mnemonic, so the first test that passes is the right one
    rintro (⟨member, rfl⟩ | ⟨member, rfl⟩ | ⟨member, rfl⟩)
    · simp [member]
    · have notMemory : m ∉ ["ADC", "AND", "BIT", "CMP", "EOR", "LDA", "ORA", "SBC"] := by
        simp only [List.mem_cons, List.not_mem_nil, or_false] at member
        rcases member with rfl | rfl | rfl | rfl <;> decide
      simp [member, notMemory]
    · have notMemory : m ∉ ["ADC", "AND", "BIT", "CMP", "EOR", "LDA", "ORA", "SBC"] := by
        simp only [List.mem_cons, List.not_mem_nil, or_false] at member
        rcases member with rfl | rfl <;> decide
      have notIndex : m ∉ ["CPX", "CPY", "LDX", "LDY"] := by
        simp only [List.mem_cons, List.not_mem_nil, or_false] at member
        rcases member with rfl | rfl <;> decide
      simp [member, notMemory, notIndex]

theorem immediateMode_eq_none_iff (m : String) :
    immediateMode m = none ↔ m ∉ ["ADC", "AND", "BIT", "CMP", "EOR", "LDA", "ORA", "SBC", "CPX",
      "CPY", "LDX", "LDY", "REP", "SEP"] := by
  rw [Option.eq_none_iff_forall_ne_some]
  simp only [ne_eq, immediateMode_eq_some_iff]
  constructor
  · intro absent member
    simp only [List.mem_cons, List.not_mem_nil, or_false] at member
    rcases member with h | h | h | h | h | h | h | h | h | h | h | h | h | h
    all_goals simp_all
  · intro unknown x
    simp_all

/-! ## The mode of a row -/

section Choice

variable {g : Legend} {n : Nat} {s m : String} {b : Opcode} {d : String}

theorem modeOfRow_of_unknown (immediate : isImmediateWord d = true) (unknown : immediateMode m = none) :
    modeOfRow g n s m b d = .error (.unknownImmediate n s m b) := by
  simp [modeOfRow, immediate, unknown]

theorem modeOfRow_of_found {x : AddrMode} {i : Nat} (immediate : isImmediateWord d = true)
    (selected : immediateMode m = some x) (found : g.indexOf x = some i) :
    modeOfRow g n s m b d = .ok i := by
  simp [modeOfRow, immediate, selected, found]

theorem modeOfRow_of_missing {x : AddrMode} (immediate : isImmediateWord d = true)
    (selected : immediateMode m = some x) (missing : g.indexOf x = none) :
    modeOfRow g n s m b d = .error (.immediateMissing n s x) := by
  simp [modeOfRow, immediate, selected, missing]

theorem modeOfRow_of_resolved {i : Nat} (plain : isImmediateWord d = false)
    (resolved : g.resolve d = .ok i) : modeOfRow g n s m b d = .ok i := by
  simp [modeOfRow, plain, resolved]

theorem modeOfRow_of_unresolved {e : Fault} (plain : isImmediateWord d = false)
    (unresolved : g.resolve d = .error e) :
    modeOfRow g n s m b d = .error (.unresolvedRow n s b d) := by
  simp [modeOfRow, plain, unresolved]

/-- The words of a description that does not resolve, reported with the row's line and opcode:
those of the legend's fault after the line and the opcode. -/
theorem unresolvedRow_message (d : String) (trimmed : trim d = d) :
    (Fault.unresolvedRow n s b d).message =
      "line " ++ toString n ++ ": opcode " ++ hexByte b.val ++ ": " ++ (Fault.unresolved (trim d)).message := by
  have spelled : (": " ++ "unresolved addressing mode " : String) = ": unresolved addressing mode " := rfl
  rw [trimmed]
  show "line " ++ toString n ++ ": opcode " ++ hexByte b.val ++ ": unresolved addressing mode " ++
      ("\"" ++ d ++ "\"") =
    "line " ++ toString n ++ ": opcode " ++ hexByte b.val ++ ": " ++
      ("unresolved addressing mode " ++ ("\"" ++ d ++ "\""))
  simp only [String.append_assoc]
  rw [← spelled, String.append_assoc]

/-- Two trimmed descriptions with one key give one mode to one mnemonic, or fail alike. -/
theorem modeOfRow_congr {n' : Nat} {s' : String} {b' : Opcode} {d' : String} (trimmed : trim d = d)
    (trimmed' : trim d' = d') (same : Legend.key d = Legend.key d') :
    (modeOfRow g n s m b d).mapError Fault.kind = (modeOfRow g n' s' m b' d').mapError Fault.kind := by
  have immediacy : isImmediateWord d = isImmediateWord d' := by
    rw [Bool.eq_iff_iff, ← trimmed, ← trimmed', isImmediateWord_trim_iff_key,
      isImmediateWord_trim_iff_key]
    rw [same]
  cases word : isImmediateWord d
  · have word' : isImmediateWord d' = false := immediacy ▸ word
    have resolved := Legend.resolve_of_key g same
    cases found : g.resolve d with
    | ok i =>
        rw [found] at resolved
        rw [modeOfRow_of_resolved word found, modeOfRow_of_resolved word' resolved]
    | error e =>
        rw [found] at resolved
        rw [modeOfRow_of_unresolved word found, modeOfRow_of_unresolved word' resolved]
        rfl
  · have word' : isImmediateWord d' = true := immediacy ▸ word
    cases selected : immediateMode m with
    | none =>
        rw [modeOfRow_of_unknown word selected, modeOfRow_of_unknown word' selected]
        rfl
    | some x =>
        cases found : g.indexOf x with
        | none =>
            rw [modeOfRow_of_missing word selected found, modeOfRow_of_missing word' selected found]
            rfl
        | some i =>
            rw [modeOfRow_of_found word selected found, modeOfRow_of_found word' selected found]

end Choice

section Parse

variable (g : Legend) (n : Nat) (s : String) {m : String} {b : Opcode}

/-- Past its syntax checks a row carries the mode `modeOfRow` chooses, or fails with its fault. -/
theorem Row.parse_mode (enough : 5 ≤ (fieldsOf s).length) (mnemonic : mnemonicOf (rowField s 0) = some m)
    (opcode : opcodeOf (rowField s 3) = some b) :
    (Row.parse g n s).map (·.mode) = modeOfRow g n s m b (trim (rowField s 4)) := by
  rw [Row.parse_of_syntax g n s enough mnemonic opcode]
  cases modeOfRow g n s m b (trim (rowField s 4)) <;> rfl

theorem Row.parse_eq_error_of_mode (enough : 5 ≤ (fieldsOf s).length)
    (mnemonic : mnemonicOf (rowField s 0) = some m) (opcode : opcodeOf (rowField s 3) = some b)
    {f : Fault} (failed : modeOfRow g n s m b (trim (rowField s 4)) = .error f) :
    Row.parse g n s = .error f := by
  rw [Row.parse_of_syntax g n s enough mnemonic opcode, failed]
  rfl

end Parse

/-- The mode of a row that passes its syntax checks, with mnemonic `m` and opcode `b`. A
description that is `immediate` in any ASCII case, which is exactly one whose trimmed lowercase is
`immediate`, takes the legend's entry of the immediate mode its mnemonic calls for, whatever the
legend's names and phrasings say about the word: the accumulator's width for `ADC`, `AND`, `BIT`,
`CMP`, `EOR`, `LDA`, `ORA` and `SBC`, the index registers' width for `CPX`, `CPY`, `LDX` and `LDY`,
one byte for `REP` and `SEP`. A legend without that mode gives a legend fault naming the line and
the mode; any other mnemonic gives an unknown-immediate fault. Any other description is resolved by
the legend; a failure keeps its kind, carries the row, and repeats the legend's words after the
line and the opcode. So two such rows with one mnemonic whose descriptions have one key get one
mode, or fail with one kind of fault. -/
theorem row_mode_choice (g : Legend) (n : Nat) (s m : String) (b : Opcode)
    (enough : 5 ≤ (fieldsOf s).length) (mnemonic : mnemonicOf (rowField s 0) = some m)
    (opcode : opcodeOf (rowField s 3) = some b) :
    (isImmediateWord (trim (rowField s 4)) = true ↔ Legend.key (rowField s 4) = "immediate") ∧
    (isImmediateWord (trim (rowField s 4)) = true →
      (∀ x, (m ∈ ["ADC", "AND", "BIT", "CMP", "EOR", "LDA", "ORA", "SBC"] ∧ x = .immediateMemory ∨
          m ∈ ["CPX", "CPY", "LDX", "LDY"] ∧ x = .immediateIndex ∨
          m ∈ ["REP", "SEP"] ∧ x = .immediate8) →
        (∀ i, g.indexOf x = some i → (Row.parse g n s).map (·.mode) = .ok i) ∧
        (g.indexOf x = none → Row.parse g n s = .error (.immediateMissing n s x) ∧
          (Fault.immediateMissing n s x).kind = .catalog ∧
          (Fault.immediateMissing n s x).message =
            "line " ++ toString n ++ ": catalog has no " ++ x.tag ++ " mode")) ∧
      (m ∉ ["ADC", "AND", "BIT", "CMP", "EOR", "LDA", "ORA", "SBC", "CPX", "CPY", "LDX", "LDY",
          "REP", "SEP"] →
        Row.parse g n s = .error (.unknownImmediate n s m b) ∧
        (Fault.unknownImmediate n s m b).kind = .unknownImmediateMnemonic)) ∧
    (isImmediateWord (trim (rowField s 4)) = false →
      (∀ i, g.resolve (trim (rowField s 4)) = .ok i → (Row.parse g n s).map (·.mode) = .ok i) ∧
      (∀ e, g.resolve (trim (rowField s 4)) = .error e →
        ∃ f, Row.parse g n s = .error f ∧ f.kind = e.kind ∧ f.context = some s ∧
          f.message = "line " ++ toString n ++ ": opcode " ++ hexByte b.val ++ ": " ++ e.message)) ∧
    (∀ n' s' b', 5 ≤ (fieldsOf s').length → mnemonicOf (rowField s' 0) = some m →
      opcodeOf (rowField s' 3) = some b' → Legend.key (rowField s' 4) = Legend.key (rowField s 4) →
      ((Row.parse g n' s').map (·.mode)).mapError Fault.kind =
        ((Row.parse g n s).map (·.mode)).mapError Fault.kind) := by
  have moded := Row.parse_mode g n s enough mnemonic opcode
  have trimmed : trim (trim (rowField s 4)) = trim (rowField s 4) := trim_trim _
  refine ⟨isImmediateWord_trim_iff_key _, fun immediate => ⟨fun x called => ?_, fun unknown => ?_⟩,
    fun plain => ⟨fun i resolved => ?_, fun e unresolved => ?_⟩,
    fun n' s' b' enough' mnemonic' opcode' same => ?_⟩
  · have selected := (immediateMode_eq_some_iff m x).mpr called
    refine ⟨fun i found => ?_, fun missing => ⟨?_, rfl, rfl⟩⟩
    · rw [moded, modeOfRow_of_found immediate selected found]
    · exact Row.parse_eq_error_of_mode g n s enough mnemonic opcode
        (modeOfRow_of_missing immediate selected missing)
  · exact ⟨Row.parse_eq_error_of_mode g n s enough mnemonic opcode
      (modeOfRow_of_unknown immediate ((immediateMode_eq_none_iff m).mpr unknown)), rfl⟩
  · rw [moded, modeOfRow_of_resolved plain resolved]
  · have reported := Legend.resolve_eq_error unresolved
    subst reported
    refine ⟨.unresolvedRow n s b (trim (rowField s 4)), ?_, rfl, rfl, unresolvedRow_message _ trimmed⟩
    exact Row.parse_eq_error_of_mode g n s enough mnemonic opcode
      (modeOfRow_of_unresolved plain unresolved)
  · rw [Row.parse_mode g n' s' enough' mnemonic' opcode', moded]
    refine modeOfRow_congr (trim_trim _) trimmed ?_
    rw [Legend.key, Legend.key, trim_trim, trim_trim]
    exact same

/-- An immediate `LDA` row, its description capitalised, under a legend whose one entry is named
`Immediate`: it passes its syntax checks, and the mode choice holds of it. -/
theorem row_mode_choice_capital_immediate :
    5 ≤ (fieldsOf "LDA #const\t\t2*\tA9\tImmediate").length ∧
    mnemonicOf (rowField "LDA #const\t\t2*\tA9\tImmediate" 0) = some "LDA" ∧
    opcodeOf (rowField "LDA #const\t\t2*\tA9\tImmediate" 3) = some (Opcode.ofByte 0xA9) ∧
    (isImmediateWord (trim (rowField "LDA #const\t\t2*\tA9\tImmediate" 4)) = true ↔
      Legend.key (rowField "LDA #const\t\t2*\tA9\tImmediate" 4) = "immediate") ∧
    (isImmediateWord (trim (rowField "LDA #const\t\t2*\tA9\tImmediate" 4)) = true →
      (∀ x, ("LDA" ∈ ["ADC", "AND", "BIT", "CMP", "EOR", "LDA", "ORA", "SBC"] ∧
            x = .immediateMemory ∨
          "LDA" ∈ ["CPX", "CPY", "LDX", "LDY"] ∧ x = .immediateIndex ∨
          "LDA" ∈ ["REP", "SEP"] ∧ x = .immediate8) →
        (∀ i, Legend.indexOf Legend.immediateLegend x = some i →
          (Row.parse Legend.immediateLegend 1
            "LDA #const\t\t2*\tA9\tImmediate").map (·.mode) = .ok i) ∧
        (Legend.indexOf Legend.immediateLegend x = none →
          Row.parse Legend.immediateLegend 1
              "LDA #const\t\t2*\tA9\tImmediate" =
            .error (.immediateMissing 1 "LDA #const\t\t2*\tA9\tImmediate" x) ∧
          (Fault.immediateMissing 1 "LDA #const\t\t2*\tA9\tImmediate" x).kind = .catalog ∧
          (Fault.immediateMissing 1 "LDA #const\t\t2*\tA9\tImmediate" x).message =
            "line " ++ toString 1 ++ ": catalog has no " ++ x.tag ++ " mode")) ∧
      ("LDA" ∉ ["ADC", "AND", "BIT", "CMP", "EOR", "LDA", "ORA", "SBC", "CPX", "CPY", "LDX",
          "LDY", "REP", "SEP"] →
        Row.parse Legend.immediateLegend 1
            "LDA #const\t\t2*\tA9\tImmediate" =
          .error (.unknownImmediate 1 "LDA #const\t\t2*\tA9\tImmediate" "LDA" (Opcode.ofByte 0xA9)) ∧
        (Fault.unknownImmediate 1 "LDA #const\t\t2*\tA9\tImmediate" "LDA"
          (Opcode.ofByte 0xA9)).kind = .unknownImmediateMnemonic)) ∧
    (isImmediateWord (trim (rowField "LDA #const\t\t2*\tA9\tImmediate" 4)) = false →
      (∀ i, Legend.resolve Legend.immediateLegend
          (trim (rowField "LDA #const\t\t2*\tA9\tImmediate" 4)) = .ok i →
        (Row.parse Legend.immediateLegend 1
          "LDA #const\t\t2*\tA9\tImmediate").map (·.mode) = .ok i) ∧
      (∀ e, Legend.resolve Legend.immediateLegend
          (trim (rowField "LDA #const\t\t2*\tA9\tImmediate" 4)) = .error e →
        ∃ f, Row.parse Legend.immediateLegend 1
            "LDA #const\t\t2*\tA9\tImmediate" = .error f ∧ f.kind = e.kind ∧
          f.context = some "LDA #const\t\t2*\tA9\tImmediate" ∧
          f.message = "line " ++ toString 1 ++ ": opcode " ++ hexByte (Opcode.ofByte 0xA9).val ++
            ": " ++ e.message)) ∧
    (∀ n' s' b', 5 ≤ (fieldsOf s').length → mnemonicOf (rowField s' 0) = some "LDA" →
      opcodeOf (rowField s' 3) = some b' →
      Legend.key (rowField s' 4) = Legend.key (rowField "LDA #const\t\t2*\tA9\tImmediate" 4) →
      ((Row.parse Legend.immediateLegend n' s').map (·.mode)).mapError
          Fault.kind =
        ((Row.parse Legend.immediateLegend 1
          "LDA #const\t\t2*\tA9\tImmediate").map (·.mode)).mapError Fault.kind) := by
  have enough : 5 ≤ (fieldsOf "LDA #const\t\t2*\tA9\tImmediate").length := by decide
  have mnemonic : mnemonicOf (rowField "LDA #const\t\t2*\tA9\tImmediate" 0) = some "LDA" := by
    decide
  have opcode : opcodeOf (rowField "LDA #const\t\t2*\tA9\tImmediate" 3) =
      some (Opcode.ofByte 0xA9) := by
    decide
  exact ⟨enough, mnemonic, opcode, row_mode_choice _ 1 _ _ _ enough mnemonic opcode⟩

end W65816
