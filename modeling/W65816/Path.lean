import W65816.Text.Space

set_option autoImplicit false

/-!
# Paths

Paths are `/`-separated names. The file name of a path is its last name once empty names and
`.` names are dropped, provided that name is not `..`. A file name splits at its last dot into
a stem and an extension, unless it has no dot or the dot is its first character: then the whole
name is the stem and there is no extension.

A path's extension is replaced in two cuts. The first takes off as many bytes from the end of
the path as the old extension has, which leaves the old dot (or, past trailing slashes, part
of the old extension). The second cuts what remains right after the stem of its file name and
appends a dot and the new extension; when what remains has no file name, it stays as it is. So
`gen.tar.gz` becomes `gen.tar.h`, `sub/` becomes `sub.h`, and `..rs` becomes `..`, which has no
file name.
-/

namespace W65816.Path

/-- The pieces of a path between its slashes. -/
def pieces (p : String) : List String := (Text.splitOnChar '/' p.toList).map String.ofList

/-- Whether a piece names a file or directory (it is not empty and not `.`). -/
def isName (s : String) : Bool := !s.isEmpty && s != "."

/-- The file name of a path. -/
def fileName (p : String) : Option String :=
  match ((pieces p).filter isName).getLast? with
  | some ".." => none
  | some n => some n
  | none => none

/-- A file name split into its stem and its extension, if it has one. -/
def splitName (name : String) : String × Option String :=
  match name.toList.reverse.span (· != '.') with
  | (_, []) => (name, none)
  | (after, _ :: before) =>
    if before.isEmpty then (name, none)
    else (String.ofList before.reverse, some (String.ofList after.reverse))

/-- The stem of a file name. -/
def stem (name : String) : String := (splitName name).1

/-- The extension of a path's file name. -/
def extension (p : String) : Option String := (fileName p).bind fun n => (splitName n).2

/-- Characters taken off the end of a reversed text, `n` bytes' worth; a character only partly
covered stays. -/
def dropBytes : Nat → List Char → List Char
  | 0, cs => cs
  | _, [] => []
  | n, c :: cs => if c.utf8Size ≤ n then dropBytes (n - c.utf8Size) cs else c :: cs

/-- The path up to the end of the piece at position `i`, with that piece replaced by `last`. -/
def upTo (ps : List String) (i : Nat) (last : String) : String :=
  "/".intercalate (ps.take i ++ [last])

/-- The path cut right after the stem of its file name, with a dot and `ext` appended; a path
without a file name stays as it is. -/
def setExtension (p : String) (ext : String) : String :=
  let ps := pieces p
  match ((List.range ps.length).filter fun i => isName (ps.getD i "")).getLast? with
  | none => p
  | some i =>
    let name := ps.getD i ""
    if name == ".." then p else upTo ps i (stem name ++ "." ++ ext)

/-- The path with its extension replaced by `ext`. -/
def withExtension (p : String) (ext : String) : String :=
  let base := match extension p with
    | none => p
    | some old => String.ofList (dropBytes old.utf8ByteSize p.toList.reverse).reverse
  setExtension base ext

end W65816.Path
