import W65816.Descriptor

set_option autoImplicit false

/-!
# JSON records

The table as a JSON array of one record per opcode, followed by a line break. A record holds
the opcode as `0x` and two hexadecimal digits, the mnemonic, operation, operand mode, width,
load flag and alias, and the amended mode only for an amended opcode.

The serializer is a parameter (`JsonWriter`): what it writes for a string and a boolean, and
how it lays out an array of objects. `JsonWriter.Pretty` is the layout documented for pretty
printing: the array and each object open on lines of their own, indented by two spaces per
level, with `"key": value` members. `JsonWriter.standard` is the serializer the program uses.
It writes strings with `"` and `\` escaped, line feed, carriage return, tab, backspace and
form feed as their short escapes, other control characters as `\u00xx` in lower-case
hexadecimal, and every other character as itself.
-/

namespace W65816.Render

open W65816.Text

/-- What a JSON serializer writes for a string, for a boolean, and for an array of objects given
by their members' keys and written values. -/
structure JsonWriter where
  string : String → String
  bool : Bool → String
  objects : List (List (String × String)) → String

/-- An object at the second level of indentation, its keys written by `string`. -/
def prettyObject (string : String → String) (members : List (String × String)) : String :=
  "  \x7b\n" ++
    ",\n".intercalate (members.map fun (k, v) => "    " ++ string k ++ ": " ++ v) ++ "\n  \x7d"

/-- An array of objects laid out as pretty printing does. -/
def prettyArray (string : String → String) : List (List (String × String)) → String
  | [] => "[]"
  | os => "[\n" ++ ",\n".intercalate (os.map (prettyObject string)) ++ "\n]"

/-- The serializer lays arrays of objects out as pretty printing is documented to. -/
def JsonWriter.Pretty (w : JsonWriter) : Prop := ∀ os, w.objects os = prettyArray w.string os

/-- The members of a descriptor's record, in order, as key and written value. -/
def recordMembersWith (w : JsonWriter) (e : Descriptor) : List (String × String) :=
  [("opcode", w.string (hexByte e.opcode.val)),
   ("mnemonic", w.string e.mnemonic),
   ("op", w.string e.op),
   ("operand", w.string e.operand.tag),
   ("size", w.string e.width.tag),
   ("load_operand", w.bool e.load),
   ("alias", w.string e.altName)] ++
  match e.amended with
  | some m => [("override_mode", w.string m.tag)]
  | none => []

/-- The table as JSON records, written by `w`. -/
def jsonWith (w : JsonWriter) (t : Table) : String :=
  w.objects (t.entries.map (recordMembersWith w)) ++ "\n"

def lowerHexDigit (n : Nat) : Char :=
  if n < 10 then Char.ofNat (48 + n) else Char.ofNat (87 + n)

def escapeChar (c : Char) : String :=
  if c == '"' then "\\\""
  else if c == '\\' then "\\\\"
  else if c == '\n' then "\\n"
  else if c == '\r' then "\\r"
  else if c == '\t' then "\\t"
  else if c.toNat == 8 then "\\b"
  else if c.toNat == 12 then "\\f"
  else if c.toNat < 0x20 then
    String.ofList ['\\', 'u', '0', '0', lowerHexDigit (c.toNat / 16), lowerHexDigit (c.toNat % 16)]
  else String.singleton c

/-- A string as a JSON string literal. -/
def jsonString (s : String) : String :=
  "\"" ++ String.join (s.toList.map escapeChar) ++ "\""

/-- The serializer of the program. -/
def JsonWriter.standard : JsonWriter := ⟨jsonString, toString, prettyArray jsonString⟩

/-- The members of a descriptor's record as the program writes them. -/
def recordMembers (e : Descriptor) : List (String × String) := recordMembersWith .standard e

/-- A record at the second level of indentation. -/
def record (e : Descriptor) : String := prettyObject jsonString (recordMembers e)

/-- The table as JSON records, as the program writes them. -/
def json (t : Table) : String := jsonWith .standard t

end W65816.Render
