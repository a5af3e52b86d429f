import ConsulLookup.Number.Binary64

/-! Values: the data that option bags, responses and settings carry. -/

namespace ConsulLookup

/-- A value read from or written to JSON, with integers and floats kept apart. -/
inductive Value where
  | null
  | bool (b : Bool)
  | int (n : Int)
  | float (x : Float)
  | str (s : String)
  | list (items : List Value)
  | obj (fields : List (String × Value))
  deriving Inhabited

/-- A string-keyed collection of values in insertion order, each key once. -/
abbrev Bag := List (String × Value)

namespace Bag

/-- The value of a key. -/
def get? (b : Bag) (k : String) : Option Value :=
  (b.find? (·.1 == k)).map (·.2)

/-- Whether a key is present. -/
def contains (b : Bag) (k : String) : Bool :=
  b.any (·.1 == k)

/-- Sets a key: in its place when present, at the end otherwise. -/
def insert (b : Bag) (k : String) (v : Value) : Bag :=
  if b.contains k then b.map (fun kv => if kv.1 == k then (k, v) else kv) else b ++ [(k, v)]

/-- Removes a key. -/
def erase (b : Bag) (k : String) : Bag :=
  b.filter (·.1 != k)

/-- The keys in order. -/
def keys (b : Bag) : List String :=
  b.map (·.1)

/-- `b` overridden by `c`: each key of `c` is set in turn. -/
def override (b c : Bag) : Bag :=
  c.foldl (fun acc kv => acc.insert kv.1 kv.2) b

/-- Keeps the entries whose key satisfies `p`. -/
def restrict (b : Bag) (p : String → Bool) : Bag :=
  b.filter (p ·.1)

/-- A bag with one entry per key, the last value of a repeated key standing at its first place. -/
def ofList (kvs : List (String × Value)) : Bag :=
  override [] kvs

end Bag

namespace Value

/-- A number as it takes part in comparisons: booleans count as zero and one. -/
inductive Number where
  | int (n : Int)
  | float (x : Float)

/-- The number a value stands for, if it is a boolean, an integer or a float. -/
def number? : Value → Option Number
  | .bool b => some (.int (if b then 1 else 0))
  | .int n => some (.int n)
  | .float x => some (.float x)
  | _ => none

/-- Numbers are equal when their exact values are: a float equals an integer only when it is
finite and integral, and NaN equals nothing. -/
def Number.equal : Number → Number → Bool
  | .int m, .int n => m == n
  | .int m, .float x | .float x, .int m => Binary64.toRat? x == some (m : Rat)
  | .float x, .float y => x == y

/-- Whether a value is a NaN float. -/
def isNaN : Value → Bool
  | .float x => Binary64.decode x == .nan
  | _ => false

mutual
/-- Equality by value. A NaN compared directly is unequal to everything, itself included. -/
def equal : Value → Value → Bool
  | .null, .null => true
  | .str s, .str t => s == t
  | .list xs, .list ys => equalItems xs ys
  | .obj xs, .obj ys => xs.length == ys.length && equalFields xs ys
  | a, b =>
    match a.number?, b.number? with
    | some m, some n => m.equal n
    | _, _ => false

/-- Lists are equal item by item. Items are equal when they are one and the same value or equal
by value; every NaN read from JSON is the same value, so a NaN item equals a NaN item. -/
def equalItems : List Value → List Value → Bool
  | [], [] => true
  | x :: xs, y :: ys => ((x.isNaN && y.isNaN) || equal x y) && equalItems xs ys
  | _, _ => false

/-- Every field of the first object has an equal value under its key in the second. -/
def equalFields : List (String × Value) → List (String × Value) → Bool
  | [], _ => true
  | (k, v) :: rest, ys =>
    (match Bag.get? ys k with
      | some w => (v.isNaN && w.isNaN) || equal v w
      | none => false) && equalFields rest ys
end

/-- A value is truthy unless it is null, false, a zero, or an empty text, list or object. -/
def truthy : Value → Bool
  | .null => false
  | .bool b => b
  | .int n => n != 0
  | .float x => x != 0
  | .str s => !s.isEmpty
  | .list items => !items.isEmpty
  | .obj fields => !fields.isEmpty

/-- The text of a string value. -/
def str? : Value → Option String
  | .str s => some s
  | _ => none

/-- The fields of an object value. -/
def obj? : Value → Option Bag
  | .obj fields => some fields
  | _ => none

/-- The field of an object value under a key; any other value has none. -/
def field? (v : Value) (k : String) : Option Value :=
  v.obj?.bind (Bag.get? · k)

/-- The exact rational a number stands for; a non-finite float and any other value have none. -/
def rat? (v : Value) : Option Rat :=
  match v.number? with
  | some (.int n) => some n
  | some (.float x) => Binary64.toRat? x
  | none => none

/-- Whether the value is null. -/
def isNull : Value → Bool
  | .null => true
  | _ => false

example : equal (.int 1) (.float 1.0) = true ∧ equal (.bool true) (.int 1) = true ∧
    equal .null (.int 0) = false := by
  decide +kernel

end Value

end ConsulLookup
