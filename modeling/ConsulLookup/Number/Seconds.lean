import ConsulLookup.Number.Binary64

/-! Numbers of seconds as a watch holds them: exact integers or binary64 floats. -/

namespace ConsulLookup

/-- A number of seconds: an integer, exact at every size, or a binary64 float. -/
inductive Seconds where
  | int (n : Int)
  | float (x : Float)

/-- The most doublings a float takes: the integer `2 ^ 1024` has no float. -/
def maxDoublings : Nat := 1023

namespace Seconds

/-- Whether the number is a float. -/
def isFloat : Seconds → Bool
  | .int _ => false
  | .float _ => true

/-- The exact rational a number stands for: every integer, and every finite float. -/
def toRat? : Seconds → Option Rat
  | .int n => some n
  | .float x => Binary64.toRat? x

/-- Whether one number is less than another. An integer and a float compare by their exact
values: an infinity lies past every integer on its side, and a NaN is neither less nor greater. -/
def lt : Seconds → Seconds → Bool
  | .int a, .int b => decide (a < b)
  | .float x, .float y => decide (x < y)
  | .int a, .float y =>
    match Binary64.toRat? y with
    | some q => decide ((a : Rat) < q)
    | none => decide (Binary64.decode y = .infinity false)
  | .float x, .int b =>
    match Binary64.toRat? x with
    | some q => decide (q < (b : Rat))
    | none => decide (Binary64.decode x = .infinity true)

/-- The lesser of two numbers: the first unless the second is less, so a NaN first stays. -/
def lesser (a b : Seconds) : Seconds :=
  if b.lt a then b else a

/-- The number times `2 ^ k`. An integer product is exact; a float is multiplied by the float of
`2 ^ k`, and there is none past `maxDoublings`. -/
def doubled? (s : Seconds) (k : Nat) : Option Seconds :=
  match s with
  | .int n => some (.int (n * Int.ofNat (Nat.pow 2 k)))
  | .float x => if k > maxDoublings then none else some (.float (x * Float.ofNat (Nat.pow 2 k)))

end Seconds

end ConsulLookup
