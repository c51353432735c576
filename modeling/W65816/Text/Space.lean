set_option autoImplicit false

/-!
# White space

The Unicode White_Space property and trimming by it. Listing fields, mode descriptions and
listing lines are trimmed with these functions: a no-break space or an ideographic space counts
as blank, a zero-width space does not.

Text is handled as `List Char`; the `String` functions wrap the list ones, so that lemmas about
trimming are lemmas about `List.dropWhile`. Splitting at a separator character, for listing
fields and lines and for the names of a path, works on the list too.
-/

namespace W65816.Text

/-- Whether a character has the Unicode White_Space property (25 code points). -/
def isWhite (c : Char) : Bool :=
  let n := c.toNat
  (9 ≤ n && n ≤ 13) || n == 0x20 || n == 0x85 || n == 0xA0 || n == 0x1680 ||
    (0x2000 ≤ n && n ≤ 0x200A) || n == 0x2028 || n == 0x2029 || n == 0x202F ||
    n == 0x205F || n == 0x3000

def dropWhite (cs : List Char) : List Char := cs.dropWhile isWhite

def dropWhiteEnd (cs : List Char) : List Char := (dropWhite cs.reverse).reverse

def trimChars (cs : List Char) : List Char := dropWhiteEnd (dropWhite cs)

def trimStart (s : String) : String := String.ofList (dropWhite s.toList)

def trim (s : String) : String := String.ofList (trimChars s.toList)

/-- Whether a string holds white space only (the empty string included). -/
def isBlank (s : String) : Bool := s.toList.all isWhite

/-- ASCII letters are lowered, every other character is kept. -/
def asciiLower (c : Char) : Char :=
  if 'A' ≤ c && c ≤ 'Z' then Char.ofNat (c.toNat + 32) else c

/-- Equality up to the case of ASCII letters. -/
def eqIgnoreAsciiCase (a b : String) : Bool :=
  a.toList.map asciiLower == b.toList.map asciiLower

/-- The pieces of `cs` between occurrences of `sep`; there is always at least one. -/
def splitOnChar (sep : Char) : List Char → List (List Char)
  | [] => [[]]
  | c :: cs =>
    if c == sep then [] :: splitOnChar sep cs
    else
      match splitOnChar sep cs with
      | f :: fs => (c :: f) :: fs
      | [] => [[c]]

end W65816.Text
