import W65816.Render.Rust
import W65816.Render.Cpp
import W65816.Render.Json
import W65816.Proofs.Listing

set_option autoImplicit false

/-!
# What the generated sources say

The writers number the members of a type with `numbered`, cut the mnemonics with `chunks` and
walk the table's entries. Here each generated source is laid out again by position: member `i`
of a type with discriminant `i` (`indexedLines`), the mnemonics of opcodes `16 j` to `16 j + 15`
on line `j` (`gridLines`), and the descriptor of opcode `k` on row `k` (`opcodeLines`). For an
assembled table, whose entries are its descriptors in opcode order, every writer gives exactly
that layout (`generated_sources_describe_table`); the member each row names is a member of the
type it names, and the JSON record of an amended opcode, and only of one, states the amended
mode. The JSON layout is proved for every serializer with the documented pretty layout
(`jsonWith_eq_records`), and the program's serializer has it.
-/

namespace W65816

/-! ## The vocabulary -/

theorem mem_insertSorted {s x : String} {xs : List String} :
    x ∈ insertSorted s xs ↔ x = s ∨ x ∈ xs := by
  induction xs with
  | nil => simp [insertSorted]
  | cons y ys inductionHypothesis =>
      unfold insertSorted
      split_ifs with below same
      · simp
      · subst same
        simp
      · simp only [List.mem_cons, inductionHypothesis]
        tauto

theorem mem_sortedDistinct {x : String} {xs : List String} : x ∈ sortedDistinct xs ↔ x ∈ xs := by
  induction xs with
  | nil => simp [sortedDistinct]
  | cons y ys inductionHypothesis =>
      simp only [sortedDistinct, List.foldr_cons] at inductionHypothesis ⊢
      rw [mem_insertSorted, inductionHypothesis, List.mem_cons]

/-- Every descriptor of a table names members of the table's vocabulary. -/
theorem Table.mem_vocabulary {t : Table} {e : Descriptor} (member : e ∈ t.entries) :
    e.op ∈ t.vocabulary.operations ∧ e.width.tag ∈ t.vocabulary.sizes ∧
      e.operand.tag ∈ t.vocabulary.operands := by
  simp only [Table.vocabulary, mem_sortedDistinct, List.mem_cons, List.mem_map]
  exact ⟨⟨e, member, rfl⟩, .inr ⟨e, member, rfl⟩, ⟨e, member, rfl⟩⟩

end W65816

namespace W65816.Render

open W65816.Text

/-! ## Layout by position -/

/-- One line `line m i` for each member `m` at its position `i`. -/
def indexedLines (line : String → Nat → String) (members : List String) : String :=
  String.join (List.ofFn fun i : Fin members.length => line members[i] i)

/-- The opcode in row `j` and column `i` of a table of sixteen columns. -/
def gridCell (j i : Fin 16) : Opcode := ⟨16 * j.val + i.val, by omega⟩

/-- Sixteen lines, line `j` made by `line` from the descriptors of opcodes `16 j` to
`16 j + 15`. -/
def gridLines (line : List Descriptor → String) (get : Opcode → Descriptor) : String :=
  String.join (List.ofFn fun j : Fin 16 => line (List.ofFn fun i => get (gridCell j i)))

def opcodeLines (line : Descriptor → String) (get : Opcode → Descriptor) : String :=
  String.join (List.ofFn fun k : Opcode => line (get k))

/-! ## The generated sources, block by block -/

def rustAttributes : String :=
  "#[allow(non_camel_case_types, clippy::upper_case_acronyms)]\n" ++
  "#[derive(Clone, Copy, PartialEq, Eq, PartialOrd, Ord, Hash, Debug)]\n"

/-- A Rust type `name` whose member `i` is `members[i]` with discriminant `i`, then the array
`names` of the same members in the same order, declared of their number. -/
def rustDeclaration (name names : String) (members : List String) : String :=
  "pub enum " ++ name ++ " \x7b\n" ++
  indexedLines (fun m i => indent ++ m ++ " = " ++ toString i ++ ",\n") members ++ "\x7d\n\n" ++
  "pub const " ++ names ++ ": [&str; " ++ toString members.length ++ "] = [\n" ++
  indexedLines (fun m _ => indent ++ "\"" ++ m ++ "\",\n") members ++ "];\n\n"

def rustStruct : String :=
  "#[derive(Clone, Copy, PartialEq, Eq, Debug)]\n" ++
  "pub struct OpCode \x7b\n" ++
  indent ++ "pub op: Operation,\n" ++
  indent ++ "pub size: InstructionSize,\n" ++
  indent ++ "pub mode: Operand,\n" ++
  indent ++ "pub load_operand: bool,\n" ++
  "\x7d\n\n"

/-- The Rust module of a table with vocabulary `v` and descriptor `get k` for opcode `k`, block
by block: the three types, the struct, the mnemonics sixteen to a line, and the descriptors. -/
def rustBlocks (v : Vocabulary) (get : Opcode → Descriptor) : List String :=
  ["// " ++ heading ++ "\n\n",
    rustAttributes ++ rustDeclaration "Operation" "OPERATION_NAMES" v.operations,
    rustAttributes ++ rustDeclaration "InstructionSize" "INSTRUCTION_SIZE_NAMES" v.sizes,
    rustAttributes ++ rustDeclaration "Operand" "OPERAND_NAMES" v.operands,
    rustStruct,
    "/// Mnemonics as used in an assembler, indexed by opcode.\n" ++
      "pub const MNEMONIC_NAMES: [&str; 256] = [\n" ++
      gridLines (fun row => indent ++ " ".intercalate (row.map fun e => "\"" ++ e.mnemonic ++ "\",") ++
        "\n") get ++
      "];\n\n",
    "pub const OP_CODES: [OpCode; 256] = [\n" ++ opcodeLines rustDescriptor get ++ "];\n"]

/-- A C++ enumeration `name` whose member `i` is `members[i]` with value `i`, then the array of
the same members' names, declared of their number. -/
def cppDeclaration (name : String) (members : List String) : String :=
  "enum class " ++ name ++ " \x7b\n" ++
  indexedLines (fun m i => "\t" ++ m ++ " = " ++ toString i ++ ",\n") members ++ "\x7d;\n\n" ++
  "static const char* const " ++ name ++ "_names[" ++ toString members.length ++ "]=\x7b\n" ++
  indexedLines (fun m _ => "\t\"" ++ m ++ "\",\n") members ++ "\x7d;\n\n"

/-- The C++ header of a table with vocabulary `v`, in namespace `ns`, block by block. -/
def cppHeaderBlocks (v : Vocabulary) (ns : String) : List String :=
  ["// " ++ heading ++ "\n" ++ "#pragma once\n\n" ++ "namespace " ++ ns ++ " \x7b\n\n",
    cppDeclaration "Operation" v.operations,
    cppDeclaration "InstructionSize" v.sizes,
    cppDeclaration "Operand" v.operands,
    "struct OpCode \x7b\n" ++ "\tOperation op;\n" ++ "\tInstructionSize size;\n" ++
      "\tOperand mode;\n" ++ "\tbool load_operand;\n" ++ "\x7d;\n\n" ++
      "extern const char* const mnemonic_names[256]; // as used in an assembler\n" ++
      "extern const OpCode op_codes[256];\n\n" ++ "\x7d\n"]

/-- The C++ source of a table with descriptor `get k` for opcode `k`, in namespace `ns` and
including `header`, block by block: the mnemonics sixteen to a line, and the descriptors. -/
def cppSourceBlocks (get : Opcode → Descriptor) (ns header : String) : List String :=
  ["// " ++ heading ++ "\n" ++ "#include \"" ++ header ++ "\"\n\n" ++ "namespace " ++ ns ++ " \x7b\n\n",
    "const char* const mnemonic_names[256] = \x7b\n" ++
      gridLines (fun row => String.join (row.map fun e => "\t\"" ++ e.mnemonic ++ "\",") ++ "\n") get ++
      "\x7d;\n\n",
    "const OpCode op_codes[256] = \x7b\n" ++ opcodeLines cppDescriptor get ++ "\x7d;\n\n",
    "\x7d\n"]

/-! ## Lists by position -/

theorem map_eq_ofFn {α β : Type} (f : α → β) (xs : List α) :
    xs.map f = List.ofFn fun i : Fin xs.length => f xs[i] := by
  apply List.ext_getElem <;> simp

theorem numbered_map {β : Type} (f : String × Nat → β) (members : List String) :
    (numbered members).map f = List.ofFn fun i : Fin members.length => f (members[i], i.val) := by
  apply List.ext_getElem
  · simp [numbered]
  · intro i bound _
    simp [numbered, List.getElem_zip, List.getElem_range]

theorem chunks_nil {α : Type} {n : Nat} (positive : 0 < n) : chunks n ([] : List α) = [] := by
  rw [chunks, dif_neg (by omega)]

theorem chunks_cons {α : Type} {n : Nat} (positive : 0 < n) (y : α) (ys : List α) :
    chunks n (y :: ys) = (y :: ys).take n :: chunks n ((y :: ys).drop n) := by
  rw [chunks, dif_neg (by omega)]

/-- A list of `m` pieces of `n` elements is cut into those pieces. -/
theorem chunks_of_length {α : Type} {n : Nat} (positive : 0 < n) :
    ∀ (m : Nat) (xs : List α), xs.length = n * m →
      chunks n xs = List.ofFn fun j : Fin m => (xs.drop (n * j)).take n := by
  intro m
  induction m with
  | zero =>
      intro xs empty
      obtain rfl : xs = [] := List.length_eq_zero_iff.mp (by simpa using empty)
      rw [chunks_nil positive]
      rfl
  | succ m inductionHypothesis =>
      intro xs length
      obtain ⟨y, ys, rfl⟩ : ∃ y ys, xs = y :: ys :=
        List.exists_cons_of_ne_nil (List.ne_nil_of_length_pos
          (by rw [length]; exact Nat.mul_pos positive (Nat.succ_pos m)))
      have rest : ((y :: ys).drop n).length = n * m := by
        simp only [List.length_drop, length, Nat.mul_succ]
        omega
      rw [chunks_cons positive, inductionHypothesis _ rest, List.ofFn_succ]
      simp only [Fin.val_zero, Nat.mul_zero, List.drop_zero, Fin.val_succ, List.drop_drop,
        Nat.mul_succ]
      congr
      funext j
      congr 2
      omega

/-- The entries of a table by opcode, cut sixteen at a time, are the rows of the grid. -/
theorem chunks_ofFn_opcodes {α : Type} (get : Opcode → α) :
    chunks 16 (List.ofFn get) = List.ofFn fun j : Fin 16 => List.ofFn fun i => get (gridCell j i) := by
  rw [chunks_of_length (by decide) 16 _ (by rw [List.length_ofFn])]
  congr
  funext j
  have row : 16 * j.val + 16 ≤ 256 := by omega
  apply List.ext_getElem
  · simp only [List.length_take, List.length_drop, List.length_ofFn]
    omega
  · intro i bound _
    simp only [List.getElem_take, List.getElem_drop, List.getElem_ofFn]
    rfl

/-! ## The writers, by position -/

theorem rustEnum_eq (name names : String) (members : List String) :
    rustEnum name names members = rustAttributes ++ rustDeclaration name names members := by
  unfold rustEnum rustAttributes rustDeclaration indexedLines
  rw [numbered_map, map_eq_ofFn (fun m => indent ++ "\"" ++ m ++ "\",\n") members]
  simp only [String.append_assoc]

theorem cppEnum_eq (name : String) (members : List String) :
    cppEnum name members = cppDeclaration name members := by
  unfold cppEnum cppDeclaration indexedLines
  rw [numbered_map, map_eq_ofFn (fun m => "\t\"" ++ m ++ "\",\n") members]

theorem rust_eq_join {t : Table} (byOpcode : t.entries = List.ofFn t.get) :
    rust t = String.join (rustBlocks t.vocabulary t.get) := by
  unfold rust rustBlocks gridLines opcodeLines rustStruct
  dsimp only
  rw [rustEnum_eq, rustEnum_eq, rustEnum_eq, byOpcode, chunks_ofFn_opcodes, List.map_ofFn,
    List.map_ofFn]
  simp only [Function.comp_def, String.join_cons, String.join_nil, String.append_empty,
    String.append_assoc]

theorem cppHeader_eq_join (t : Table) (ns : String) :
    cppHeader t ns = String.join (cppHeaderBlocks t.vocabulary ns) := by
  unfold cppHeader cppHeaderBlocks
  dsimp only
  rw [cppEnum_eq, cppEnum_eq, cppEnum_eq]
  simp only [String.join_cons, String.join_nil, String.append_empty, String.append_assoc]

theorem cppSource_eq_join {t : Table} (byOpcode : t.entries = List.ofFn t.get) (ns header : String) :
    cppSource t ns header = String.join (cppSourceBlocks t.get ns header) := by
  unfold cppSource cppSourceBlocks gridLines opcodeLines
  dsimp only
  rw [byOpcode, chunks_ofFn_opcodes, List.map_ofFn, List.map_ofFn]
  simp only [Function.comp_def, String.join_cons, String.join_nil, String.append_empty,
    String.append_assoc]

/-- A serializer with the documented layout writes one object per opcode, in opcode order. -/
theorem jsonWith_eq_records {w : JsonWriter} (pretty : w.Pretty) {t : Table}
    (byOpcode : t.entries = List.ofFn t.get) :
    jsonWith w t = "[\n" ++ ",\n".intercalate (List.ofFn fun k : Opcode =>
      prettyObject w.string (recordMembersWith w (t.get k))) ++ "\n]\n" := by
  have records : (t.entries.map (recordMembersWith w)).map (prettyObject w.string) =
      List.ofFn fun k : Opcode => prettyObject w.string (recordMembersWith w (t.get k)) := by
    rw [byOpcode, List.map_map, List.map_ofFn]
    rfl
  have nonempty : t.entries.map (recordMembersWith w) ≠ [] := by
    rw [Ne, List.map_eq_nil_iff, byOpcode, List.ofFn_eq_nil_iff]
    decide
  rw [jsonWith, pretty]
  unfold prettyArray
  split
  · next empty => exact absurd empty nonempty
  · rw [records, String.append_assoc, String.append_assoc, String.append_assoc]
    rfl

theorem standard_pretty : JsonWriter.standard.Pretty := fun _ => rfl

theorem json_eq_records {t : Table} (byOpcode : t.entries = List.ofFn t.get) :
    json t = "[\n" ++ ",\n".intercalate (List.ofFn fun k : Opcode => record (t.get k)) ++ "\n]\n" :=
  jsonWith_eq_records standard_pretty byOpcode

/-- A record states an amended mode exactly when its descriptor carries one, whatever writes
it. -/
theorem lookup_recordMembersWith_amended (w : JsonWriter) (e : Descriptor) :
    (recordMembersWith w e).lookup "override_mode" = e.amended.map fun m => w.string m.tag := by
  unfold recordMembersWith
  cases e.amended with
  | none => rfl
  | some m => rfl

theorem lookup_recordMembers_amended (e : Descriptor) :
    (recordMembers e).lookup "override_mode" = e.amended.map fun m => jsonString m.tag :=
  lookup_recordMembersWith_amended .standard e

end W65816.Render

namespace W65816.Table

open W65816.Render

/-- An assembled table lists its descriptors in opcode order. -/
theorem entries_of_assemble {legend : Legend} {rows : List Row} {am : AmendmentTable} {t : Table}
    (assembled : assemble legend rows am = .ok t) : t.entries = List.ofFn t.get := by
  obtain ⟨-, rfl⟩ := eq_ofCovering_of_assemble_eq_ok assembled
  rw [List.ofFn_eq_map]
  exact List.map_congr_left fun k _ => (ofCovering_get k).symm

/-- Every generated source of an assembled table lays it out by position. The Rust module
declares its operations, widths and operand modes with member `i` of the vocabulary numbered
`i`, followed by the array of the same names of their number; lists the mnemonics of opcodes
`16 j` to `16 j + 15` on line `j`; and describes opcode `k` on row `k`, closed by a comment that
names `k`, the mnemonic and any alias. The C++ header declares the same members with the same
numbers, the C++ source the same mnemonics and rows, and the JSON array holds one record per
opcode in order. Each row names members that its source declares, and the record of an opcode
states an amended mode exactly when the opcode is amended. -/
theorem generated_sources_describe_table (legend : Legend) (rows : List Row) (am : AmendmentTable)
    (t : Table) (assembled : assemble legend rows am = .ok t) (ns header : String) :
    rust t = String.join (rustBlocks t.vocabulary t.get) ∧
    cppHeader t ns = String.join (cppHeaderBlocks t.vocabulary ns) ∧
    cppSource t ns header = String.join (cppSourceBlocks t.get ns header) ∧
    json t = "[\n" ++ ",\n".intercalate (List.ofFn fun k : Opcode => record (t.get k)) ++ "\n]\n" ∧
    ∀ k : Opcode, (t.get k).opcode = k ∧
      (t.get k).op ∈ t.vocabulary.operations ∧ (t.get k).width.tag ∈ t.vocabulary.sizes ∧
      (t.get k).operand.tag ∈ t.vocabulary.operands ∧
      (recordMembers (t.get k)).lookup "override_mode" =
        (am.lookup k).map fun a => jsonString a.mode.tag := by
  have byOpcode := entries_of_assemble assembled
  refine ⟨rust_eq_join byOpcode, cppHeader_eq_join t ns, cppSource_eq_join byOpcode ns header,
    json_eq_records byOpcode, fun k => ?_⟩
  obtain ⟨-, rfl⟩ := eq_ofCovering_of_assemble_eq_ok assembled
  have listed : (ofCovering legend rows am).get k ∈ (ofCovering legend rows am).entries := by
    rw [byOpcode]
    exact List.mem_ofFn.mpr ⟨k, rfl⟩
  obtain ⟨operation, size, operand⟩ := mem_vocabulary listed
  refine ⟨by rw [ofCovering_get, Descriptor.ofRow_opcode], operation, size, operand, ?_⟩
  rw [lookup_recordMembers_amended, ofCovering_get, Descriptor.ofRow_amended, Option.map_map]
  rfl

/-- The immediate listing, assembled under the standard legend and amendments, gives generated
sources of the layout the theorem states. -/
theorem generated_sources_describe_table_immediate_listing :
    ∃ g rows t, Legend.standard = .ok g ∧ Listing.parse g (linesOf immediateListing) = .ok rows ∧
      assemble g rows AmendmentTable.standard = .ok t ∧
      rust t = String.join (rustBlocks t.vocabulary t.get) ∧
      cppHeader t "snes" = String.join (cppHeaderBlocks t.vocabulary "snes") ∧
      cppSource t "snes" "optab.h" = String.join (cppSourceBlocks t.get "snes" "optab.h") ∧
      json t = "[\n" ++ ",\n".intercalate (List.ofFn fun k : Opcode => record (t.get k)) ++ "\n]\n" ∧
      ∀ k : Opcode, (t.get k).opcode = k ∧
        (t.get k).op ∈ t.vocabulary.operations ∧ (t.get k).width.tag ∈ t.vocabulary.sizes ∧
        (t.get k).operand.tag ∈ t.vocabulary.operands ∧
        (recordMembers (t.get k)).lookup "override_mode" =
          (AmendmentTable.standard.lookup k).map fun a => jsonString a.mode.tag := by
  obtain ⟨g, rows, built, parsed, covers⟩ := parse_immediateListing
  obtain ⟨t, assembled⟩ := (assemble_isOk_iff g rows AmendmentTable.standard).mpr covers
  exact ⟨g, rows, t, built, parsed, assembled,
    generated_sources_describe_table _ _ _ t assembled "snes" "optab.h"⟩

end W65816.Table
