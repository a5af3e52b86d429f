/-! How alike two texts are, by matching blocks. -/

namespace ConsulLookup.Text

/-- Where each character stands in the second text, in ascending order, without the characters
that are too frequent to start a block. -/
def blockStarts (b : Array Char) : Char → List Nat :=
  let positions := fun c => (List.range b.size).filter fun j => b[j]? = some c
  let limit := b.size / 100 + 1
  fun c =>
    let ps := positions c
    if b.size ≥ 200 && ps.length > limit then [] else ps

/-- A common block: where it starts in each text, and its length. -/
structure Block where
  left : Nat
  right : Nat
  size : Nat
  deriving DecidableEq, Repr

/-- The longest common block of `a[alo, ahi)` and `b[blo, bhi)`: among the longest, the one
that ends first in `a`, and of those the one that starts first in `b`. It is then grown over
equal characters on both ends. -/
def longestBlock (a b : Array Char) (starts : Char → List Nat) (alo ahi blo bhi : Nat) : Block :=
  -- `run[j]` is the length of the common block ending at the current `a[i]` and at `b[j]`.
  let step := fun (acc : Block × Array Nat) (i : Nat) =>
    let (best, run) := acc
    let js := (starts (a[i]?.getD ' ')).filter fun j => blo ≤ j && j < bhi
    js.foldl (fun (acc : Block × Array Nat) j =>
      let (best, next) := acc
      let k := (if j = 0 then 0 else run[j - 1]?.getD 0) + 1
      let next := next.set! j k
      if k > best.size then (⟨i + 1 - k, j + 1 - k, k⟩, next) else (best, next))
      (best, Array.replicate b.size 0)
  let (best, _) := ((List.range (ahi - alo)).map (· + alo)).foldl step
    (⟨alo, blo, 0⟩, Array.replicate b.size 0)
  let backward := (List.range (min (best.left - alo) (best.right - blo))).takeWhile fun n =>
    a[best.left - 1 - n]? = b[best.right - 1 - n]?
  let best : Block :=
    ⟨best.left - backward.length, best.right - backward.length, best.size + backward.length⟩
  let forward := (List.range (min (ahi - (best.left + best.size)) (bhi - (best.right + best.size)))).takeWhile
    fun n => a[best.left + best.size + n]? = b[best.right + best.size + n]?
  { best with size := best.size + forward.length }

/-- The number of characters in matching blocks of `a[alo, ahi)` and `b[blo, bhi)`; each level
of blocks uses up at least one character of `a`, so `fuel` above its length suffices. -/
def matchedIn (a b : Array Char) (starts : Char → List Nat) :
    Nat → Nat → Nat → Nat → Nat → Nat
  | 0, _, _, _, _ => 0
  | fuel + 1, alo, ahi, blo, bhi =>
    let m := longestBlock a b starts alo ahi blo bhi
    if m.size = 0 then 0
    else
      let before := if alo < m.left && blo < m.right then
          matchedIn a b starts fuel alo m.left blo m.right
        else 0
      let after := if m.left + m.size < ahi && m.right + m.size < bhi then
          matchedIn a b starts fuel (m.left + m.size) ahi (m.right + m.size) bhi
        else 0
      before + m.size + after

/-- The number of characters of `a` and `b` in matching blocks. -/
def matchedCount (a b : String) : Nat :=
  let a := a.toList.toArray
  let b := b.toList.toArray
  matchedIn a b (blockStarts b) (a.size + 1) 0 a.size 0 b.size

/-- The similarity of two texts as a fraction: twice the matched characters, over the summed
length (two empty texts are alike). -/
structure Similarity where
  twiceMatched : Nat
  total : Nat
  deriving DecidableEq, Repr

/-- The similarity of a candidate to a text. -/
def similarity (candidate text : String) : Similarity :=
  let total := candidate.length + text.length
  if total = 0 then ⟨1, 1⟩ else ⟨2 * matchedCount candidate text, total⟩

/-- Whether one similarity is at most another. -/
def Similarity.le (s t : Similarity) : Bool :=
  s.twiceMatched * t.total ≤ t.twiceMatched * s.total

/-- Whether a similarity reaches six tenths. -/
def Similarity.close (s : Similarity) : Bool :=
  10 * s.twiceMatched ≥ 6 * s.total

/-- The at most three candidates most like a text among those at least six tenths alike, the
most alike first; of equally alike candidates, the greater text comes first. -/
def closeMatches (text : String) (candidates : List String) : List String :=
  let scored := (candidates.map fun c => (similarity c text, c)).filter (·.1.close)
  let ordered := scored.mergeSort fun (s, x) (t, y) => !s.le t || (s.le t && t.le s && y ≤ x)
  (ordered.take 3).map (·.2)

example : matchedCount "--debug" "--e" = 3 ∧ matchedCount "abcd" "bcda" = 3 := by
  decide +kernel

example : closeMatches "--jsn-output" ["--json-output", "--debug", "--help"] = ["--json-output"] := by
  decide +kernel

end ConsulLookup.Text
