import ConsulLookup.Number.Binary64

/-! The shortest decimal of a binary64 number, by exact comparisons in naturals. -/

namespace ConsulLookup.Shortest

/-- Compares `a · 10 ^ p` with `b · 2 ^ q`. -/
def compareScaled (a : Nat) (p : Int) (b : Nat) (q : Int) : Ordering :=
  compare (a * Nat.pow 10 p.toNat * Nat.pow 2 (-q).toNat) (b * Nat.pow 2 q.toNat * Nat.pow 10 (-p).toNat)

/-- The decimal exponent `n` of a positive `m · 2 ^ e`: `10 ^ (n - 1) ≤ m · 2 ^ e < 10 ^ n`. -/
def decimalExponent (m : Nat) (e : Int) : Int :=
  if e ≥ 0 then Int.ofNat (Binary64.decimalLength (m * Nat.pow 2 e.toNat))
  else Int.ofNat (Binary64.decimalLength (m * Nat.pow 5 (-e).toNat)) + e

/-- `⌊m · 2 ^ e / 10 ^ p⌋`. -/
def floorScaled (m : Nat) (e p : Int) : Nat :=
  m * Nat.pow 2 e.toNat * Nat.pow 10 (-p).toNat / (Nat.pow 2 (-e).toNat * Nat.pow 10 p.toNat)

/-- The interval of reals that read back as `m · 2 ^ e`, in quarter units `2 ^ (e - 2)`: its
lower and upper ends, and whether the ends belong to it (they do for an even mantissa). The
gap below a power of two is half the gap above it, except at the least exponent. -/
structure Interval where
  low : Nat
  high : Nat
  closed : Bool

/-- The rounding interval of a positive finite `m · 2 ^ e`. -/
def interval (m : Nat) (e : Int) : Interval :=
  let low := if m = Nat.pow 2 52 && e > Binary64.minExponent then 4 * m - 1 else 4 * m - 2
  ⟨low, 4 * m + 2, m % 2 == 0⟩

/-- Whether `c · 10 ^ p` lies in the rounding interval of `m · 2 ^ e`. -/
def inInterval (m : Nat) (e : Int) (c : Nat) (p : Int) : Bool :=
  let i := interval m e
  let aboveLow := match compareScaled c p i.low (e - 2) with
    | .gt => true
    | .eq => i.closed
    | .lt => false
  let belowHigh := match compareScaled c p i.high (e - 2) with
    | .lt => true
    | .eq => i.closed
    | .gt => false
  aboveLow && belowHigh

/-- Of the two neighbours `c · 10 ^ p` and `(c + 1) · 10 ^ p` of `m · 2 ^ e`, the nearer that
reads back, an exact tie going to the even one. -/
def pick (m : Nat) (e : Int) (c : Nat) (p : Int) : Option Nat :=
  let lowHit := inInterval m e c p
  let highHit := inInterval m e (c + 1) p
  if lowHit && highHit then
    -- twice the value against the midpoint `(2c + 1) · 10 ^ p`
    match compareScaled (2 * c + 1) p m (e + 1) with
    | .gt => some c
    | .lt => some (c + 1)
    | .eq => some (if c % 2 = 0 then c else c + 1)
  else if lowHit then some c
  else if highHit then some (c + 1)
  else none

/-- Tries `k, k + 1, …` significant digits, `fuel` times at most, for the first that has a
neighbour reading back. -/
def search (m : Nat) (e n : Int) : Nat → Nat → Option (Nat × Int)
  | 0, _ => none
  | fuel + 1, k =>
    let p := n - k
    match pick m e (floorScaled m e p) p with
    | some c => some (c, p)
    | none => search m e n fuel (k + 1)

/-- Removes trailing zeros: `c · 10 ^ p` with `c` not a multiple of ten, unless it is zero. -/
def stripZeros : Nat → Nat → Int → Nat × Int
  | 0, c, p => (c, p)
  | fuel + 1, c, p => if c ≠ 0 && c % 10 = 0 then stripZeros fuel (c / 10) (p + 1) else (c, p)

/-- The shortest decimal `c · 10 ^ p` of a positive finite `m · 2 ^ e`, with `c` not a multiple
of ten. Seventeen digits always suffice; the seventeen-digit truncation stands in otherwise. -/
def digits (m : Nat) (e : Int) : Nat × Int :=
  let n := decimalExponent m e
  let (c, p) := (search m e n 17 1).getD (floorScaled m e (n - 17), n - 17)
  stripZeros 20 c p

example : digits (2 ^ 52) (-52) = (1, 0) := by decide +kernel
example : digits 7205759403792794 (-56) = (1, -1) := by decide +kernel
example : digits 1 (-1074) = (5, -324) := by decide +kernel

end ConsulLookup.Shortest
