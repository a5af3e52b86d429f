import ConsulLookup.Yaml.Data
import ConsulLookup.Number.Binary64

/-! The order a set's members are met in. -/

namespace ConsulLookup.Yaml

namespace SetOrder

/-- The prime that numbers' hashes are taken modulo. -/
def modulus : Nat := Nat.pow 2 61 - 1

/-- The hash of an infinity, with its sign. -/
def infinityHash : Int := 314159

/-- `base ^ exponent % m` by squaring; `fuel` bounds the halvings of the exponent. -/
def powMod (base exponent m : Nat) : Nat → Nat
  | 0 => 1 % m
  | fuel + 1 =>
    if exponent = 0 then 1 % m
    else
      let half := powMod base (exponent / 2) m fuel
      let square := half * half % m
      if exponent % 2 = 1 then square * (base % m) % m else square

/-- A hash other than `-1`, which stands for a failure: `-1` gives way to `-2`. -/
def settle (h : Int) : Int :=
  if h = -1 then -2 else h

/-- The hash of an exact number: its size modulo the prime, times the inverse of its
denominator there, with its sign. A number's denominator is a power of two, so it has one. -/
def ratHash (r : Rat) : Int :=
  let inverse := powMod r.den (modulus - 2) modulus 64
  let size : Int := (r.num.natAbs % modulus * inverse % modulus : Nat)
  settle (if r.num < 0 then -size else size)

/-- The hash of a member, when it is fixed: a boolean's is that of its number, and a number's
that of its exact value. -/
def hash? : Datum → Option Int
  | .bool b => some (if b then 1 else 0)
  | .int n => some (ratHash n)
  | .float x =>
    match Binary64.decode x with
    | .infinity negative => some (if negative then -infinityHash else infinityHash)
    | d => d.toRat?.map ratHash
  | _ => none

/-- Doubles `size` until it is above `least`; `fuel` bounds the doublings. -/
def grow (least : Nat) : Nat → Nat → Nat
  | 0, size => size
  | fuel + 1, size => if size ≤ least then grow least fuel (2 * size) else size

/-- The number of slots of a table filled with `n` members at once. -/
def slotCount (n : Nat) : Nat :=
  if n < 5 then 8 else grow (2 * n) (2 * n) 8

/-- The slots tried from slot `i` before a jump: `i` and the nine after it when they all lie in
the table, else `i` alone. -/
def window (mask i : Nat) : List Nat :=
  if i + 9 ≤ mask then List.range' i 10 else [i]

/-- The first free slot of the probe sequence from slot `i`, where `perturb` holds the hash's
bits still to be mixed in; `fuel` bounds the jumps. The table's size is a power of two, so
taking the next slot modulo it keeps exactly the low bits. -/
def freeSlot (slots : Array (Option Nat)) (mask : Nat) : Nat → Nat → Nat → Option Nat
  | 0, _, _ => none
  | fuel + 1, i, perturb =>
    match (window mask i).find? (fun j => (slots.getD j (some 0)).isNone) with
    | some j => some j
    | none =>
      let perturb := perturb / 32
      freeSlot slots mask fuel ((i * 5 + 1 + perturb) % (mask + 1)) perturb

/-- A table with the member at `index` put in the first free slot of hash `h`'s probe sequence.
After thirteen jumps no bits of the hash are left, and from then on the jumps visit every slot,
so a table with a free slot has one within its size and thirteen more jumps. -/
def place (slots : Array (Option Nat)) (index : Nat) (h : Int) : Option (Array (Option Nat)) :=
  let bits := (h % Int.pow 2 64).toNat
  (freeSlot slots (slots.size - 1) (slots.size + 16) (bits % slots.size) bits).map
    fun j => slots.setIfInBounds j (some index)

end SetOrder

/-- The members of a set in the order its table meets them, or in the order they were added
when the hash of one of them is not fixed. -/
def tableOrder (members : List Datum) : List Datum :=
  match members.mapM SetOrder.hash? with
  | none => members
  | some hashes =>
    let empty : Array (Option Nat) := Array.replicate (SetOrder.slotCount members.length) none
    match (hashes.zipIdx).foldlM (fun slots entry => SetOrder.place slots entry.2 entry.1) empty with
    | none => members
    | some slots => slots.toList.filterMap fun slot => slot.bind fun index => members[index]?

example : ((tableOrder [.int 100, .int 4, .int 1, .int (-1), .int (-2)]).map fun d =>
    match d with
    | .int n => n
    | _ => 0) = [1, 100, 4, -2, -1] := by
  decide +kernel

end ConsulLookup.Yaml
