import ConsulLookup.Yaml.Compose
import ConsulLookup.Yaml.Data
import ConsulLookup.Yaml.SetOrder
import ConsulLookup.Number.Text
import ConsulLookup.Text.Case

/-! Constructing the data of a composed YAML document. -/

namespace ConsulLookup.Yaml

/-- A constructor error at a node. -/
def constructorError {α : Type} (problem : String) (n : Node) : Except YamlError α :=
  .error (YamlError.at none none problem (some n.start))

/-- The node at a place of a document. -/
def nodeAt (nodes : Array Node) (place : Nat) : Node :=
  nodes[place]?.getD (.scalar (coreTag "null") "" ⟨0, 0, 0⟩)

/-- The text of a scalar node; a mapping with a `=` key stands for the text of that key's value. -/
def scalarText (nodes : Array Node) : Nat → Node → Except YamlError String
  | _, .scalar _ v _ => .ok v
  | fuel + 1, n@(.mapping _ pairs _) =>
    match pairs.find? fun (k, _) => (nodeAt nodes k).tag == coreTag "value" with
    | some (_, v) => scalarText nodes fuel (nodeAt nodes v)
    | none => constructorError ("expected a scalar node, but found " ++ n.id) n
  | _, n => constructorError ("expected a scalar node, but found " ++ n.id) n

/-- An integer text after its underscores are dropped: an optional sign, then `0`, `0b` binary,
`0x` hex, octal after a leading `0`, sexagesimal parts, or decimal. -/
def constructInt (text : String) : Except YamlError Int :=
  let v := text.toList.filter (· ≠ '_')
  let inBase (base : Nat) (cs : List Char) : Except YamlError Int :=
    let s := String.ofList cs
    match integerInBase base s with
    | .ok n => .ok n
    | .error e => .error (.foreign "ValueError" (e.message base s))
  match v with
  | [] => .error (.foreign "IndexError" "string index out of range")
  | c :: _ =>
    let sign : Int := if c = '-' then -1 else 1
    let body := if c = '-' || c = '+' then v.tail else v
    match body with
    | ['0'] => .ok 0
    | '0' :: 'b' :: rest => (inBase 2 rest).map (sign * ·)
    | '0' :: 'x' :: rest => (inBase 16 rest).map (sign * ·)
    | '0' :: _ => (inBase 8 body).map (sign * ·)
    | [] => .error (.foreign "IndexError" "string index out of range")
    | _ =>
      if body.contains ':' then
        ((body.splitOn ':').mapM (inBase 10)).map fun digits =>
          sign * digits.foldl (fun acc d => 60 * acc + d) 0
      else (inBase 10 body).map (sign * ·)

/-- A float text after its underscores are dropped and its letters lowered: an optional sign,
then `.inf`, `.nan`, sexagesimal parts, or a decimal. The places of sexagesimal parts are exact
powers of sixty, and a place beyond every float fails. -/
def constructFloat (text : String) : Except YamlError Float :=
  let v := (Text.toLower (String.ofList (text.toList.filter (· ≠ '_')))).toList
  let floatOf (cs : List Char) : Except YamlError Float :=
    match floatOfText? (String.ofList cs) with
    | some x => .ok x
    | none => .error (.foreign "ValueError"
        ("could not convert string to float: " ++ Text.quote (String.ofList cs)))
  match v with
  | [] => .error (.foreign "IndexError" "string index out of range")
  | c :: _ =>
    let negative := c = '-'
    let body := if c = '-' || c = '+' then v.tail else v
    let signed (x : Float) : Float := if negative then -x else x
    if body = ".inf".toList then .ok (Binary64.infinity negative)
    else if body = ".nan".toList then .ok (0.0 / 0.0)
    else if body.contains ':' then do
      let digits ← (body.splitOn ':').mapM floatOf
      let (total, _) ← digits.reverse.foldlM (fun (acc : Float × Nat) d =>
        let place := Float.ofNat acc.2
        if place.isInf then .error (.foreign "OverflowError" "int too large to convert to float")
        else .ok (acc.1 + d * place, acc.2 * 60)) (0.0, 1)
      pure (signed total)
    else (floatOf body).map signed

/-- Whether a float text names the one NaN that every `.nan` stands for; any other NaN text
gives a NaN of its own. -/
def isSharedNaN (text : String) : Bool :=
  let v := (Text.toLower (String.ofList (text.toList.filter (· ≠ '_')))).toList
  let body := match v with
    | c :: rest => if c = '-' || c = '+' then rest else v
    | [] => []
  body = ".nan".toList

/-- The booleans of YAML 1.1 by their lower-case words. -/
def boolWord? : String → Option Bool
  | "yes" => some true
  | "no" => some false
  | "true" => some true
  | "false" => some false
  | "on" => some true
  | "off" => some false
  | _ => none

/-! ## Timestamps -/

/-- The parts of a timestamp text: year, month and day, then optionally hour, minute, second,
fraction digits and zone (`Z`, or a sign with hours and optional minutes). -/
structure Stamp where
  year : Nat
  month : Nat
  day : Nat
  time : Option (Nat × Nat × Nat × List Char × Option (Option (Bool × Nat × Nat)))

/-- The number of a run of ASCII digits. -/
def digitsNat (cs : List Char) : Nat :=
  cs.foldl (fun n d => 10 * n + (d.toNat - '0'.toNat)) 0

/-- Splits off one or two leading digits. -/
def takeShort (cs : List Char) : Option (Nat × List Char) :=
  match cs with
  | a :: b :: rest => if a.isDigit && b.isDigit then some (digitsNat [a, b], rest)
      else if a.isDigit then some (digitsNat [a], b :: rest) else none
  | [a] => if a.isDigit then some (digitsNat [a], []) else none
  | [] => none

/-- Whether a character is a blank of a timestamp: a space or a tab. -/
def isStampBlank (c : Char) : Bool :=
  c = ' ' || c = '\t'

/-- Reads the zone of a timestamp: nothing, or blanks and then `Z` or a sign with one or two
digits of hours and optional minutes; the outer option fails on anything else. -/
def readZone : List Char → Option (Option (Option (Bool × Nat × Nat)))
  | [] => some none
  | cs =>
    match cs.dropWhile isStampBlank with
    | ['Z'] => some (some none)
    | sign :: r =>
      if sign = '+' || sign = '-' then
        match takeShort r with
        | some (h, []) => some (some (some (sign = '-', h, 0)))
        | some (h, [':', a, b]) =>
          if a.isDigit && b.isDigit then some (some (some (sign = '-', h, digitsNat [a, b])))
          else none
        | _ => none
      else none
    | [] => none

/-- Reads the time of a timestamp after the hour: `:mm:ss`, an optional fraction and a zone. -/
def readTime (hour : Nat) : List Char →
    Option (Nat × Nat × Nat × List Char × Option (Option (Bool × Nat × Nat)))
  | ':' :: m1 :: m2 :: ':' :: s1 :: s2 :: more =>
    if [m1, m2, s1, s2].all Char.isDigit then
      let (fraction, more) := match more with
        | '.' :: r => (r.takeWhile Char.isDigit, r.dropWhile Char.isDigit)
        | r => ([], r)
      (readZone more).map fun zone =>
        (hour, digitsNat [m1, m2], digitsNat [s1, s2], fraction, zone)
    else none
  | _ => none

/-- Reads a timestamp text into its parts; one final line feed is allowed. -/
def readStamp (s : String) : Option Stamp := do
  let cs := if s.toList.getLast? = some '\n' then s.toList.dropLast else s.toList
  let year := cs.take 4
  if !(year.length = 4 && year.all Char.isDigit) then none
  let rest ← match cs.drop 4 with
    | '-' :: r => some r
    | _ => none
  let (month, rest) ← takeShort rest
  let rest ← match rest with
    | '-' :: r => some r
    | _ => none
  let (day, rest) ← takeShort rest
  if rest.isEmpty then return ⟨digitsNat year, month, day, none⟩
  let rest ← match rest with
    | 'T' :: r => some r
    | 't' :: r => some r
    | c :: r => if isStampBlank c then some (r.dropWhile isStampBlank) else none
    | [] => none
  let (hour, rest) ← takeShort rest
  let time ← readTime hour rest
  pure ⟨digitsNat year, month, day, some time⟩

/-- The datum of a timestamp text: a date, or a moment whose fraction is cut or padded to six
digits and whose zone's hours and minutes make its offset. -/
def constructTimestamp (s : String) : Except YamlError Datum :=
  let fault (e : TimeFault) : YamlError := .foreign "ValueError" e.message
  match readStamp s with
  | none => .error (.foreign "AttributeError" "'NoneType' object has no attribute 'groupdict'")
  | some st =>
    match st.time with
    | none => (Date.make st.year st.month st.day).map Datum.date |>.mapError fault
    | some (hour, minute, second, fraction, zone) =>
      let micro := digitsNat ((fraction.take 6) ++ List.replicate (6 - (fraction.take 6).length) '0')
      let offset := zone.bind fun z => some (match z with
        | none => 0
        | some (negative, h, m) => (if negative then -1 else 1) * ((h * 3600 + m * 60 : Nat) : Int))
      (Moment.make st.year st.month st.day hour minute second micro offset).map Datum.moment
        |>.mapError fault

/-! ## Scalars -/

/-- The bytes of a `!!binary` scalar's text: ASCII, read as base64. -/
def constructBinary (text : String) (n : Node) : Except YamlError Datum :=
  match asciiFault? text.toList with
  | some reason => constructorError ("failed to convert base64 data into ascii: " ++ reason) n
  | none =>
    match decodeBase64 text.toList with
    | .ok bs => .ok (.bytes bs)
    | .error e => constructorError ("failed to decode base64 data: " ++ e.message) n

/-- Whether a tag is built as a collection: it starts empty and is filled later. -/
def isCollectionTag (tag : String) : Bool :=
  [coreTag "seq", coreTag "map", coreTag "omap", coreTag "pairs", coreTag "set"].contains tag

/-- The datum of a node whose tag is a scalar's, built at once. -/
def constructScalar (nodes : Array Node) (fuel : Nat) (place : Nat) (n : Node) :
    Except YamlError Datum := do
  let tag := n.tag
  if tag = coreTag "null" then
    discard (scalarText nodes fuel n)
    pure .null
  else if tag = coreTag "bool" then
    let t := Text.toLower (← scalarText nodes fuel n)
    match boolWord? t with
    | some b => pure (.bool b)
    | none => throw (.foreign "KeyError" (Text.quote t))
  else if tag = coreTag "int" then pure (.int (← constructInt (← scalarText nodes fuel n)))
  else if tag = coreTag "float" then
    let text ← scalarText nodes fuel n
    let x ← constructFloat text
    pure (if Value.isNaN (.float x) then .nan (if isSharedNaN text then 0 else place + 1)
      else .float x)
  else if tag = coreTag "str" then pure (.str (← scalarText nodes fuel n))
  else if tag = coreTag "binary" then constructBinary (← scalarText nodes fuel n) n
  else if tag = coreTag "timestamp" then
    discard (scalarText nodes fuel n)
    match n with
    | .scalar _ v _ => constructTimestamp v
    | _ => throw (.foreign "TypeError" "expected string or bytes-like object, got 'list'")
  else constructorError ("could not determine a constructor for the tag " ++ Text.quote tag) n

/-! ## Collections -/

/-- What constructing has done so far: the nodes (flattening rewrites mappings and the tags of
`=` keys), the datum of each node built, the store of containers, and the collections still to
be filled with the places of their containers, first in, first out. -/
structure Building where
  nodes : Array Node
  built : List (Nat × Datum)
  store : Store
  pending : List (Nat × Nat)

/-- Constructing, with the first fault. -/
abbrev BuildM := StateT Building (Except YamlError)

/-- The node at a place. -/
def node (place : Nat) : BuildM Node := do
  pure (nodeAt (← get).nodes place)

/-- Puts a node in a place. -/
def setNode (place : Nat) (n : Node) : BuildM Unit :=
  modify fun b => { b with nodes := b.nodes.setIfInBounds place n }

/-- The pairs of a mapping node. -/
def pairsOf : Node → List (Nat × Nat)
  | .mapping _ pairs _ => pairs
  | _ => []

/-- A mapping node with other pairs. -/
def withPairs (n : Node) (pairs : List (Nat × Nat)) : Node :=
  match n with
  | .mapping t _ m => .mapping t pairs m
  | n => n

/-- The number of pairs of the document's mappings, which bounds the work of flattening. -/
def pairCount (nodes : Array Node) : Nat :=
  nodes.foldl (fun n node => n + (pairsOf node).length) 0

/-- Folds the merge keys of the mapping at a place into it, as the mapping is about to be
filled: the pairs of a merged mapping (flattened first), or of each mapping of a merged list,
the later ones first, come before the mapping's own pairs; a `=` key becomes a string. The
merge pairs leave the mapping as they are met, so a mapping merged into itself adds its other
pairs once. -/
def flatten : Nat → Nat → Nat → BuildM Unit
  | 0, _, _ => pure ()
  | fuel + 1, bound, place => do
    let start := (← node place).start
    let mut merge : List (Nat × Nat) := []
    let mut index := 0
    for _ in [0:bound] do
      let pairs := pairsOf (← node place)
      match pairs[index]? with
      | none => break
      | some (k, v) =>
        let key ← node k
        if key.tag = coreTag "merge" then
          setNode place (withPairs (← node place) (pairs.eraseIdx index))
          match ← node v with
          | .mapping _ _ _ =>
            flatten fuel bound v
            merge := merge ++ pairsOf (← node v)
          | .sequence _ items _ =>
            let mut sub : List (List (Nat × Nat)) := []
            for item in items do
              match ← node item with
              | .mapping _ _ _ =>
                flatten fuel bound item
                sub := sub ++ [pairsOf (← node item)]
              | other => throw (YamlError.at (some "while constructing a mapping") (some start)
                  ("expected a mapping for merging, but found " ++ other.id) (some other.start))
            for value in sub.reverse do
              merge := merge ++ value
          | other => throw (YamlError.at (some "while constructing a mapping") (some start)
              ("expected a mapping or list of mappings for merging, but found " ++ other.id)
              (some other.start))
        else
          if key.tag = coreTag "value" then setNode k (key.withTag (coreTag "str"))
          index := index + 1
    if !merge.isEmpty then
      setNode place (withPairs (← node place) (merge ++ pairsOf (← node place)))

/-- The datum of the node at a place: the one built before, a new empty container whose filling
waits its turn, or a scalar built at once. -/
def construct (fuel place : Nat) : BuildM Datum := do
  let b ← get
  match b.built.lookup place with
  | some d => pure d
  | none =>
    let n := nodeAt b.nodes place
    let tag := n.tag
    if isCollectionTag tag then
      let empty : Container :=
        if tag = coreTag "map" then .map [] else if tag = coreTag "set" then .set [] else .list []
      let (store, c) := b.store.add empty
      set { b with store, built := (place, .ref c) :: b.built, pending := b.pending ++ [(place, c)] }
      pure (.ref c)
    else
      let d ← liftM (constructScalar b.nodes fuel place n)
      modify fun b => { b with built := (place, d) :: b.built }
      pure d

/-- Puts a container in its place of the store. -/
def fillContainer (c : Nat) (container : Container) : BuildM Unit :=
  modify fun b => { b with store := b.store.setIfInBounds c container }

/-- Fills the container of the collection at a place: the items of a sequence; the keys and
values of a mapping (merged first), a key that is a container being refused; the keys alone for a
set; the single pairs of an ordered map or a list of pairs. -/
def fill (fuel place c : Nat) : BuildM Unit := do
  let n ← node place
  let tag := n.tag
  if tag = coreTag "seq" then
    match n with
    | .sequence _ items _ =>
      let mut data : List Datum := []
      for item in items do
        data := data ++ [← construct fuel item]
      fillContainer c (.list data)
    | _ => liftM (constructorError (α := Unit) ("expected a sequence node, but found " ++ n.id) n)
  else if tag = coreTag "map" || tag = coreTag "set" then
    match n with
    | .mapping _ _ _ =>
      flatten (pairCount (← get).nodes + 1) (pairCount (← get).nodes + 2) place
      let mut entries : List (Datum × Datum) := []
      for (k, v) in pairsOf (← node place) do
        let key ← construct fuel k
        if !key.isKey then
          throw (YamlError.at (some "while constructing a mapping") (some n.start)
            "found unhashable key" (some (← node k).start))
        let value ← construct fuel v
        entries := setEntry entries key value
      fillContainer c (if tag = coreTag "map" then .map entries
        else .set (tableOrder (addMembers [] (entries.map (·.1)))))
    | _ => liftM (constructorError (α := Unit) ("expected a mapping node, but found " ++ n.id) n)
  else
    let context := if tag = coreTag "omap" then "while constructing an ordered map"
      else "while constructing pairs"
    match n with
    | .sequence _ items _ =>
      let mut data : List Datum := []
      for item in items do
        match ← node item with
        | .mapping _ [(k, v)] _ =>
          let key ← construct fuel k
          let value ← construct fuel v
          data := data ++ [.pair key value]
        | .mapping _ ps m =>
          throw (YamlError.at (some context) (some n.start)
            ("expected a single mapping item, but found " ++ toString ps.length ++ " items")
            (some m))
        | other =>
          throw (YamlError.at (some context) (some n.start)
            ("expected a mapping of length 1, but found " ++ other.id) (some other.start))
      fillContainer c (.list data)
    | _ => throw (YamlError.at (some context) (some n.start)
        ("expected a sequence, but found " ++ n.id) (some n.start))

/-- Fills the waiting collections in turn until none waits; each is filled once. -/
def fillPending (fuel : Nat) : Nat → BuildM Unit
  | 0 => pure ()
  | rounds + 1 => do
    match (← get).pending with
    | [] => pure ()
    | (place, c) :: rest =>
      modify fun b => { b with pending := rest }
      fill fuel place c
      fillPending fuel rounds

/-- The data of a composed document, or its first fault. -/
def Graph.construct (g : Graph) : Except YamlError (Store × Datum) := do
  let fuel := g.nodes.size + 2
  let run : BuildM Datum := do
    let root ← Yaml.construct fuel g.root
    fillPending fuel (g.nodes.size + 1)
    pure root
  let (root, b) ← run.run ⟨g.nodes, [], #[], []⟩
  pure (b.store, root)

end ConsulLookup.Yaml
