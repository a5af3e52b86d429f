import ConsulLookup.Value.Mapping
import ConsulLookup.Number.Binary64
import ConsulLookup.Text.LoneUnit

/-! The order keys are sorted in, and the sort itself. -/

namespace ConsulLookup

/-- Two values of kinds that have no order between them. -/
structure OrderFault where
  left : String
  right : String
  deriving DecidableEq, Repr

/-- The message of comparing values of kinds without an order. -/
def OrderFault.message (f : OrderFault) : String :=
  "'<' not supported between instances of '" ++ f.left ++ "' and '" ++ f.right ++ "'"

/-- Where a number stands: at an exact rational, beyond every finite number on either side, or
nowhere (a NaN). -/
inductive NumberPlace where
  | finite (r : Rat)
  | above
  | below
  | nowhere

/-- Whether one place on the line comes before another; nothing comes before or after nowhere. -/
def NumberPlace.before : NumberPlace → NumberPlace → Bool
  | .nowhere, _ => false
  | _, .nowhere => false
  | .below, .below => false
  | .below, _ => true
  | _, .below => false
  | .above, _ => false
  | _, .above => true
  | .finite a, .finite b => decide (a < b)

namespace Value

/-- Where a value stands on the line of numbers, when it is a number or a boolean. -/
def numberPlace? : Value → Option NumberPlace
  | .bool b => some (.finite (if b then 1 else 0))
  | .int n => some (.finite n)
  | .float x =>
    match Binary64.decode x with
    | .infinity negative => some (if negative then .below else .above)
    | .nan => some .nowhere
    | d => d.toRat?.map .finite
  | _ => none

/-- Whether one value comes before another, or the fault of values without an order. -/
def before (a b : Value) : Except OrderFault Bool :=
  match a, b with
  | .str s, .str t => .ok (Text.pointsBefore s t)
  | _, _ =>
    match a.numberPlace?, b.numberPlace? with
    | some x, some y => .ok (x.before y)
    | _, _ => .error ⟨a.kindName, b.kindName⟩

end Value

namespace KeySort

/-- How many values after `prev` go on an ascending run: each is not before the one ahead of it. -/
def ascendingRun : Value → List Value → Except OrderFault Nat
  | _, [] => .ok 0
  | prev, x :: rest => do
    if ← x.before prev then pure 0 else pure (1 + (← ascendingRun x rest))

/-- How many values after `prev` go on a strictly descending run. -/
def descendingRun : Value → List Value → Except OrderFault Nat
  | _, [] => .ok 0
  | prev, x :: rest => do
    if ← x.before prev then pure (1 + (← descendingRun x rest)) else pure 0

/-- Where a value goes among sorted values, searched between `low` and `high` by halving: after
every value it does not come before. `fuel` bounds the halvings. -/
def place (pivot : Value) (sorted : List Value) : Nat → Nat → Nat → Except OrderFault Nat
  | 0, low, _ => .ok low
  | fuel + 1, low, high =>
    if low < high then do
      let middle := low + (high - low) / 2
      if ← pivot.before (sorted.getD middle .null) then place pivot sorted fuel low middle
      else place pivot sorted fuel (middle + 1) high
    else .ok low

/-- Puts each of `rest` into place among sorted values, in turn. -/
def insertAll (sorted : List Value) : List Value → Except OrderFault (List Value)
  | [] => .ok sorted
  | x :: rest => do
    let slot ← place x sorted (sorted.length + 1) 0 sorted.length
    insertAll (sorted.take slot ++ x :: sorted.drop slot) rest

end KeySort

/-- Values sorted, or the first fault of comparing two of them. -/
def sortValues (xs : List Value) : Except OrderFault (List Value) :=
  match xs with
  | a :: b :: rest => do
    let descending ← b.before a
    let more ← if descending then KeySort.descendingRun b rest else KeySort.ascendingRun b rest
    let run := xs.take (2 + more)
    KeySort.insertAll (if descending then run.reverse else run) (xs.drop (2 + more))
  | _ => .ok xs

example : ((sortValues [.int 3, .int 1, .bool true]).toOption.map fun vs =>
    vs.map Value.written) = some ["1", "True", "3"] := by
  decide +kernel

example : (match sortValues [.int 1, .str "bogus"] with
    | .error f => some f.message
    | .ok _ => none) = some "'<' not supported between instances of 'str' and 'int'" := by
  decide +kernel

end ConsulLookup
