import W65816.Listing.Row

set_option autoImplicit false

/-!
# Listings

A listing is a sequence of lines. Each line loses its trailing CR and LF characters; a line
that is then blank, or whose first character after white space is `#`, is skipped. Every other
line is a row. Lines are numbered from 1, skipped ones included.

`Listing.scan` parses rows in order and stops at the first row that fails, returning the rows
before it and the fault; `Listing.parse` succeeds exactly when no row fails. `linesOf` splits
a text into lines at each LF, dropping one CR before it; a final LF does not start a line.
A file is read the same way a line at a time by `readLines`, each line's bytes decoded on
their own, and a line that is not UTF-8 fails the whole read.
-/

namespace W65816

open W65816.Text

/-- A line without its trailing CR and LF characters. -/
def stripLineEnd (s : String) : String :=
  String.ofList (s.toList.reverse.dropWhile (fun c => c == '\r' || c == '\n')).reverse

/-- Whether a line, its ending stripped, carries no row: it is blank or a `#` comment. -/
def isSkipped (s : String) : Bool := isBlank s || (dropWhite s.toList).head? == some '#'

def dropCr (cs : List Char) : List Char :=
  match cs.getLast? with
  | some '\r' => cs.dropLast
  | _ => cs

/-- Lines that end in LF lose it and one CR before it; an empty last piece is no line. -/
def linesOfPieces : List (List Char) → List String
  | [] => []
  | [last] => if last.isEmpty then [] else [String.ofList last]
  | p :: ps => String.ofList (dropCr p) :: linesOfPieces ps

def linesOf (text : String) : List String := linesOfPieces (splitOnChar '\n' text.toList)

/-- The text of one line of a file, or `invalidUtf8` when its bytes are not UTF-8. -/
def decodeLine (bytes : List UInt8) : Except IoFault String :=
  match String.fromUTF8? bytes.toByteArray with
  | some s => .ok s
  | none => .error .invalidUtf8

/-- The lines of a file, read one at a time from its pieces between line feeds: each must be
UTF-8; one that ends in LF loses it and one CR before it; an empty last piece is no line. -/
def readLinesOfPieces : List (List UInt8) → Except IoFault (List String)
  | [] => .ok []
  | [last] => if last.isEmpty then .ok [] else do
    let s ← decodeLine last
    return [s]
  | p :: ps => do
    let s ← decodeLine p
    let rest ← readLinesOfPieces ps
    return String.ofList (dropCr s.toList) :: rest

/-- The lines of a file's bytes, or the fault of a line that is not UTF-8. -/
def readLines (bytes : ByteArray) : Except IoFault (List String) :=
  readLinesOfPieces (bytes.data.toList.splitOn 10)

namespace Listing

/-- Rows of the lines numbered from `n`, up to the first row that fails, and its fault. -/
def scanFrom (legend : Legend) : Nat → List String → List Row × Option Fault
  | _, [] => ([], none)
  | n, l :: ls =>
    let s := stripLineEnd l
    if isSkipped s then scanFrom legend (n + 1) ls
    else
      match Row.parse legend n s with
      | .error f => ([], some f)
      | .ok r =>
        let rest := scanFrom legend (n + 1) ls
        (r :: rest.1, rest.2)

/-- The rows of a listing up to its first faulty row, and that row's fault. -/
def scan (legend : Legend) (lines : List String) : List Row × Option Fault :=
  scanFrom legend 1 lines

def parse (legend : Legend) (lines : List String) : Except Fault (List Row) :=
  match scan legend lines with
  | (rows, none) => .ok rows
  | (_, some f) => .error f

end Listing

end W65816
