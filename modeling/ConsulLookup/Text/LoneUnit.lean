/-! Text whose code points may include lone surrogate units. -/

namespace ConsulLookup.Text

/-- One code point of a text: a character, or a lone unit from U+D800 to U+DFFF. -/
inductive CodePoint where
  | char (c : Char)
  | lone (unit : Nat)
  deriving DecidableEq, Repr

/-- Whether a code unit is one half of a surrogate pair. -/
def isSurrogate (u : Nat) : Bool :=
  0xD800 ≤ u && u ≤ 0xDFFF

/-- The character that opens a lone unit, and that stands doubled for itself. -/
def loneMark : Char := '\uFDD0'

/-- Where the carriers of lone units start. -/
def carrierBase : Nat := 0xF0000

/-- The carrier of a lone unit. -/
def carrier (u : Nat) : Char :=
  Char.ofNat (carrierBase + (u - 0xD800))

/-- The lone unit a carrier holds. -/
def carried? (c : Char) : Option Nat :=
  let n := c.toNat
  if carrierBase ≤ n && n < carrierBase + 0x800 then some (n - carrierBase + 0xD800) else none

namespace CodePoint

/-- The number of a code point. -/
def toNat : CodePoint → Nat
  | .char c => c.toNat
  | .lone u => u

/-- Whether a code point is a lone unit. -/
def isLone : CodePoint → Bool
  | .lone _ => true
  | .char _ => false

/-- The characters that hold a code point in text. -/
def chars : CodePoint → List Char
  | .char c => if c = loneMark then [loneMark, loneMark] else [c]
  | .lone u => [loneMark, carrier u]

/-- The code point of a number: a surrogate is a lone unit, anything else its character. -/
def ofNat (n : Nat) : CodePoint :=
  if isSurrogate n then .lone n else .char (Char.ofNat n)

end CodePoint

/-- The code points that characters hold. -/
def points : List Char → List CodePoint
  | [] => []
  | [c] => [.char c]
  | c :: d :: more =>
    if c = loneMark then
      if d = loneMark then .char loneMark :: points more
      else match carried? d with
        | some u => .lone u :: points more
        | none => .char c :: points (d :: more)
    else .char c :: points (d :: more)

/-- The characters that hold code points. -/
def ofPoints (ps : List CodePoint) : List Char :=
  ps.flatMap CodePoint.chars

/-- The characters that hold a character: the mark doubled, any other as itself. -/
def charChars (c : Char) : List Char :=
  (CodePoint.char c).chars

/-- The characters that hold the code point of a number. -/
def unitChars (n : Nat) : List Char :=
  (CodePoint.ofNat n).chars

/-- A text of plain characters in the form that holds them. -/
def ofChars (cs : List Char) : String :=
  String.ofList (cs.flatMap charChars)

/-- Whether a text holds a lone unit. -/
def hasLoneUnit (s : String) : Bool :=
  (points s.toList).any CodePoint.isLone

/-- Whether one list of code point numbers comes before another. -/
def numbersBefore : List Nat → List Nat → Bool
  | [], [] => false
  | [], _ :: _ => true
  | _ :: _, [] => false
  | a :: as, b :: bs => if a = b then numbersBefore as bs else a < b

/-- Whether one text comes before another in the order of their code points. -/
def pointsBefore (a b : String) : Bool :=
  numbersBefore ((points a.toList).map CodePoint.toNat) ((points b.toList).map CodePoint.toNat)

example : points (ofPoints [.char 'a', .lone 0xD800, .char loneMark, .lone 0xDFFF]) =
    [.char 'a', .lone 0xD800, .char loneMark, .lone 0xDFFF] := by
  decide

example : pointsBefore (String.ofList (unitChars 0xDFFF)) "\uE000" = true ∧
    pointsBefore "\uE000" (String.ofList (unitChars 0xDFFF)) = false := by
  decide +kernel

end ConsulLookup.Text
