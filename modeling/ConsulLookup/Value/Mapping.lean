import ConsulLookup.Value.Display

/-! Mappings keyed by values, as a dictionary keeps them. -/

namespace ConsulLookup

/-- Values under keys that are values, in the order the keys were first set. -/
abbrev Mapping := List (Value × Value)

/-- Why a value gives no mapping. -/
inductive MappingFault where
  | notIterable (typeName : String)
  | notSequence (index : Nat)
  | wrongLength (index length : Nat)
  | unhashable (typeName : String)
  deriving DecidableEq, Repr

/-- The kind of error a fault is reported as. -/
def MappingFault.kind : MappingFault → String
  | .wrongLength _ _ => "ValueError"
  | _ => "TypeError"

/-- The message of a fault. -/
def MappingFault.message : MappingFault → String
  | .notIterable t => "'" ++ t ++ "' object is not iterable"
  | .notSequence i =>
    "cannot convert dictionary update sequence element #" ++ toString i ++ " to a sequence"
  | .wrongLength i n =>
    "dictionary update sequence element #" ++ toString i ++ " has length " ++ toString n ++
      "; 2 is required"
  | .unhashable t => "unhashable type: '" ++ t ++ "'"

namespace Value

/-- The name of a value's kind. -/
def kindName : Value → String
  | .null => "NoneType"
  | .bool _ => "bool"
  | .int _ => "int"
  | .float _ => "float"
  | .str _ => "str"
  | .list _ => "list"
  | .obj _ => "dict"

/-- Whether two values are the same key: equal by value, a NaN being the same key as a NaN. -/
def sameKey (a b : Value) : Bool :=
  (a.isNaN && b.isNaN) || a.equal b

/-- Whether a value can be a key: lists and objects cannot. -/
def keyFault? : Value → Option MappingFault
  | v@(.list _) | v@(.obj _) => some (.unhashable v.kindName)
  | _ => none

end Value

namespace Mapping

/-- The value under a key. -/
def get? (m : Mapping) (k : Value) : Option Value :=
  (m.find? fun (key, _) => key.sameKey k).map (·.2)

/-- Sets a key: an equal key keeps its place and its first form, and takes the new value. -/
def insert (m : Mapping) (k v : Value) : Mapping :=
  if m.any (fun (key, _) => key.sameKey k) then
    m.map fun (key, w) => if key.sameKey k then (key, v) else (key, w)
  else m ++ [(k, v)]

/-- The mapping without the entry of a key. -/
def erase (m : Mapping) (k : Value) : Mapping :=
  m.filter fun (key, _) => !key.sameKey k

/-- `m` with each entry of `n` set in turn. -/
def override (m n : Mapping) : Mapping :=
  n.foldl (fun acc (k, v) => acc.insert k v) m

/-- The mapping of a string-keyed bag. -/
def ofBag (b : Bag) : Mapping :=
  b.map fun (k, v) => (.str k, v)

/-- The entry an item of a list stands for, or why it stands for none. -/
def pairOf (index : Nat) : Value → Except MappingFault (Value × Value)
  | .list [k, v] => .ok (k, v)
  | .list items => .error (.wrongLength index items.length)
  | .str s =>
    match s.toList with
    | [a, b] => .ok (.str (String.singleton a), .str (String.singleton b))
    | cs => .error (.wrongLength index cs.length)
  | .obj [(a, _), (b, _)] => .ok (.str a, .str b)
  | .obj fields => .error (.wrongLength index fields.length)
  | _ => .error (.notSequence index)

/-- The mapping of the items of a list from `index` on, set into `acc`. -/
def ofItems (index : Nat) (acc : Mapping) : List Value → Except MappingFault Mapping
  | [] => .ok acc
  | item :: rest =>
    match pairOf index item with
    | .error e => .error e
    | .ok (k, v) =>
      match k.keyFault? with
      | some e => .error e
      | none => ofItems (index + 1) (acc.insert k v) rest

/-- The mapping a value stands for. -/
def ofValue : Value → Except MappingFault Mapping
  | .obj fields => .ok (ofBag fields)
  | .list items => ofItems 0 [] items
  | .str s => ofItems 0 [] (s.toList.map fun c => .str (String.singleton c))
  | v => .error (.notIterable v.kindName)

/-- The mapping a value stands for when it is given, any false value standing for none. -/
def ofOptional (v : Value) : Except MappingFault Mapping :=
  if v.truthy then ofValue v else .ok []

/-- The entries whose keys are texts, as a bag. -/
def textKeyed (m : Mapping) : Bag :=
  m.filterMap fun (k, v) => k.str?.map (·, v)

end Mapping

example : ((Mapping.ofValue (.list [.list [.str "id", .str "x"], .list [.str "id", .str "y"]]))
      |>.toOption.map fun m => m.map fun (k, v) => (k.written, v.written)) =
    some [("'id'", "'y'")] := by
  decide +kernel

end ConsulLookup
