set_option autoImplicit false

/-!
# Similarity of words

The Jaro similarity of two words, computed in binary64 floating point the way it is compared
against the threshold for suggestions: a character of the first word matches an equal,
still unmatched character of the second within half the longer length less one; half the
matched pairs out of order count as transpositions.
-/

namespace W65816.Command

/-- Mark the matches of `a`'s characters in `b`: which of `a` matched, which of `b` did. -/
def matchMarks (a b : List Char) : List Bool × List Bool :=
  let window := max a.length b.length / 2 - 1
  (a.zipIdx.foldl (fun (marks : List Bool × List Bool) (c, i) =>
      let lo := i - window
      let hi := min b.length (i + window + 1)
      match (List.range hi).find? (fun j => lo ≤ j && b.getD j ' ' == c && !marks.2.getD j true) with
      | some j => (marks.1 ++ [true], marks.2.set j true)
      | none => (marks.1 ++ [false], marks.2))
    ([], List.replicate b.length false))

def marked (cs : List Char) (marks : List Bool) : List Char :=
  (cs.zip marks).filterMap fun (c, m) => if m then some c else none

/-- The Jaro similarity of two words. -/
def jaro (a b : String) : Float :=
  let x := a.toList
  let y := b.toList
  if x.isEmpty && y.isEmpty then 1.0
  else if x.isEmpty || y.isEmpty then 0.0
  else
    let marks := matchMarks x y
    let mx := marked x marks.1
    let my := marked y marks.2
    let m := mx.length
    let t := ((mx.zip my).filter fun (p, q) => p != q).length / 2
    if m == 0 then 0.0
    else
      let mf := Float.ofNat m
      (mf / Float.ofNat x.length + mf / Float.ofNat y.length + Float.ofNat (m - t) / mf) / 3.0

/-- Among `candidates`, the one most like `word` with similarity above 0.7; of equals, the
last. -/
def closest (word : String) (candidates : List String) : Option String :=
  (candidates.foldl (fun (best : Option (Float × String)) c =>
      let s := jaro word c
      if s > 0.7 then
        match best with
        | some (b, _) => if s >= b then some (s, c) else best
        | none => some (s, c)
      else best) none).map (·.2)

end W65816.Command
