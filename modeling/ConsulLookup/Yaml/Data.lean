import ConsulLookup.Yaml.Time
import ConsulLookup.Yaml.Binary
import ConsulLookup.Value.Mapping

/-! The data a YAML document stands for. -/

namespace ConsulLookup.Yaml

/-- One datum of a document: a scalar, a pair of an ordered map, or a container of the store. A
NaN is a float of its own: it is the same key only as itself, and `identity` tells NaNs apart. -/
inductive Datum where
  | null
  | bool (b : Bool)
  | int (n : Int)
  | float (x : Float)
  | nan (identity : Nat)
  | str (s : String)
  | bytes (bs : List UInt8)
  | date (d : Date)
  | moment (m : Moment)
  | pair (key value : Datum)
  | ref (place : Nat)
  deriving Inhabited

/-- A container: a sequence, a mapping with its entries in the order their keys were first set,
or a set with its members in the order they were added. -/
inductive Container where
  | list (items : List Datum)
  | map (entries : List (Datum × Datum))
  | set (items : List Datum)
  deriving Inhabited

/-- The containers of a document, by place. -/
abbrev Store := Array Container

/-- The most digits an integer may have to be written. -/
def maxDigits : Nat := 4300

/-- The text of an integer in decimal, unless it has more than `maxDigits` digits. -/
def intText? (n : Int) : Except String String :=
  let digits := Nat.repr n.natAbs
  if digits.length > maxDigits then
    .error ("Exceeds the limit (" ++ toString maxDigits ++ " digits) for integer string " ++
      "conversion; use sys.set_int_max_str_digits() to increase the limit")
  else .ok (if n < 0 then "-" ++ digits else digits)

namespace Datum

/-- The number a scalar stands for when keys are compared: booleans are zero and one. -/
def number? : Datum → Option Value
  | .bool b => some (.int (if b then 1 else 0))
  | .int n => some (.int n)
  | .float x => some (.float x)
  | .nan _ => some (.float (0.0 / 0.0))
  | _ => none

/-- Whether two data are the same key: numbers (booleans among them) by value, a NaN being the
same key as a NaN; texts, bytes and dates by equality; moments when they are the same moment. -/
def sameKey : Datum → Datum → Bool
  | .null, .null => true
  | .nan a, .nan b => a == b
  | .nan _, _ | _, .nan _ => false
  | .str s, .str t => s == t
  | .bytes a, .bytes b => a == b
  | .date a, .date b => a == b
  | .moment a, .moment b => a.same b
  | a, b =>
    match a.number?, b.number? with
    | some m, some n => m.sameKey n
    | _, _ => false

/-- Whether a datum can be a key: containers cannot. -/
def isKey : Datum → Bool
  | .ref _ => false
  | _ => true

end Datum

/-- Sets a key among entries: an equal key keeps its place and its first form, and takes the new
value. -/
def setEntry (entries : List (Datum × Datum)) (k v : Datum) : List (Datum × Datum) :=
  if entries.any (fun (key, _) => key.sameKey k) then
    entries.map fun (key, w) => if key.sameKey k then (key, v) else (key, w)
  else entries ++ [(k, v)]

/-- Adds members to a set: a member equal to one already there is not added again. -/
def addMembers (members : List Datum) (more : List Datum) : List Datum :=
  more.foldl (fun acc m => if acc.any (·.sameKey m) then acc else acc ++ [m]) members

/-- How a container shows when it is met again inside itself. -/
def Container.again : Container → String
  | .list _ => "[...]"
  | .map _ => "\x7b...\x7d"
  | .set _ => "set(...)"

namespace Store

/-- The container at a place; an empty list for a place the store does not have. -/
def get (s : Store) (place : Nat) : Container :=
  s[place]?.getD (.list [])

/-- Adds a container, giving its place. -/
def add (s : Store) (c : Container) : Store × Nat :=
  (s.push c, s.size)

/-- The entries of a datum that is a mapping. -/
def entries? (s : Store) : Datum → Option (List (Datum × Datum))
  | .ref place =>
    match s.get place with
    | .map entries => some entries
    | _ => none
  | _ => none

/-- Whether a datum counts as true: null, false, zeros and empty texts, bytes and containers do
not; a NaN, a date and a moment do. -/
def truthy (s : Store) : Datum → Bool
  | .null => false
  | .bool b => b
  | .int n => n != 0
  | .float x => !(x == 0)
  | .nan _ => true
  | .str t => !t.isEmpty
  | .bytes bs => !bs.isEmpty
  | .date _ | .moment _ | .pair _ _ => true
  | .ref place =>
    match s.get place with
    | .list items => !items.isEmpty
    | .map entries => !entries.isEmpty
    | .set items => !items.isEmpty

/-- The name of a datum's kind. -/
def kindName (s : Store) : Datum → String
  | .null => "NoneType"
  | .bool _ => "bool"
  | .int _ => "int"
  | .float _ | .nan _ => "float"
  | .str _ => "str"
  | .bytes _ => "bytes"
  | .date _ => "datetime.date"
  | .moment _ => "datetime.datetime"
  | .pair _ _ => "tuple"
  | .ref place =>
    match s.get place with
    | .list _ => "list"
    | .map _ => "dict"
    | .set _ => "set"

/-- The written form of a datum inside the containers at the places `opened`, which are being
written; `fuel` bounds the depth. -/
def written (s : Store) : Nat → List Nat → Datum → Except String String
  | 0, _, _ => .ok "..."
  | fuel + 1, opened, d =>
    match d with
    | .null => .ok "None"
    | .bool b => .ok (if b then "True" else "False")
    | .int n => intText? n
    | .float x => .ok (Value.textLayout.render x)
    | .nan _ => .ok "nan"
    | .str t => .ok (Text.quote t)
    | .bytes bs => .ok (bytesWritten bs)
    | .date day => .ok day.written
    | .moment m => .ok m.written
    | .pair k v => do
      let ks ← written s fuel opened k
      let vs ← written s fuel opened v
      pure ("(" ++ ks ++ ", " ++ vs ++ ")")
    | .ref place =>
      let c := s.get place
      let inner := place :: opened
      if opened.contains place then .ok c.again
      else
        match c with
        | .list items => do
          let parts ← items.mapM (written s fuel inner)
          pure ("[" ++ ", ".intercalate parts ++ "]")
        | .map entries => do
          let parts ← entries.mapM fun (k, v) => do
            let ks ← written s fuel inner k
            let vs ← written s fuel inner v
            pure (ks ++ ": " ++ vs)
          pure ("\x7b" ++ ", ".intercalate parts ++ "\x7d")
        | .set [] => .ok "set()"
        | .set items => do
          let parts ← items.mapM (written s fuel inner)
          pure ("\x7b" ++ ", ".intercalate parts ++ "\x7d")

/-- How deep writing a datum of a store may go: each container opens once on a path, and a pair
adds a level. -/
def depth (s : Store) : Nat :=
  2 * s.size + 4

/-- The text of a datum: a text is itself, a date or a moment its calendar text, and any other
datum its written form. -/
def text (s : Store) (d : Datum) : Except String String :=
  match d with
  | .str t => .ok t
  | .date day => .ok day.text
  | .moment m => .ok m.text
  | _ => written s (depth s) [] d

/-- A datum as a JSON value: dates, moments and bytes by their text, pairs and sets as lists,
mapping keys by their text, and a container met again inside itself as null. -/
def toValue (s : Store) : Nat → List Nat → Datum → Value
  | 0, _, _ => .null
  | fuel + 1, opened, d =>
    match d with
    | .null => .null
    | .bool b => .bool b
    | .int n => .int n
    | .float x => .float x
    | .nan _ => .float (0.0 / 0.0)
    | .str t => .str t
    | .bytes bs => .str (bytesWritten bs)
    | .date day => .str day.text
    | .moment m => .str m.text
    | .pair k v => .list [toValue s fuel opened k, toValue s fuel opened v]
    | .ref place =>
      let inner := place :: opened
      if opened.contains place then .null
      else
        match s.get place with
        | .list items => .list (items.map (toValue s fuel inner))
        | .set items => .list (items.map (toValue s fuel inner))
        | .map entries => .obj (entries.map fun (k, v) =>
            let key := match k with
              | .str t => t
              | _ => ((text s k).toOption).getD ""
            (key, toValue s fuel inner v))

/-- A datum as a JSON value, to the depth of the store. -/
def value (s : Store) (d : Datum) : Value :=
  toValue s (depth s) [] d

mutual
/-- A JSON value as data, its lists and objects added to the store. -/
def ofValue (s : Store) : Value → Store × Datum
  | .null => (s, .null)
  | .bool b => (s, .bool b)
  | .int n => (s, .int n)
  | .float x => (s, if Value.isNaN (.float x) then .nan 0 else .float x)
  | .str t => (s, .str t)
  | .list items =>
    let (s, data) := ofItems s items
    let (s, place) := s.add (.list data)
    (s, .ref place)
  | .obj fields =>
    let (s, entries) := ofFields s fields
    let (s, place) := s.add (.map entries)
    (s, .ref place)

/-- JSON items as data. -/
def ofItems (s : Store) : List Value → Store × List Datum
  | [] => (s, [])
  | v :: rest =>
    let (s, d) := ofValue s v
    let (s, ds) := ofItems s rest
    (s, d :: ds)

/-- JSON fields as entries. -/
def ofFields (s : Store) : List (String × Value) → Store × List (Datum × Datum)
  | [] => (s, [])
  | (k, v) :: rest =>
    let (s, d) := ofValue s v
    let (s, es) := ofFields s rest
    (s, (.str k, d) :: es)
end

/-- A mapping of JSON keys and values as a mapping of the store. -/
def ofMapping (s : Store) (m : Mapping) : Store × Datum :=
  let (s, entries) := m.foldl (fun (s, acc) (k, v) =>
    let (s, kd) := ofValue s k
    let (s, vd) := ofValue s v
    (s, acc ++ [(kd, vd)])) (s, [])
  let (s, place) := s.add (.map entries)
  (s, .ref place)

end Store

example : (Store.text #[.list [.ref 0]] (.ref 0)).toOption = some "[[...]]" := by
  decide +kernel

end ConsulLookup.Yaml
