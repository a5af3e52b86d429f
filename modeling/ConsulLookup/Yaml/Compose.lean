import ConsulLookup.Yaml.Parser

/-! Composing a YAML document: its events become a graph of nodes. -/

namespace ConsulLookup.Yaml

/-- A node of a document: a scalar with its text, a sequence, or a mapping of key and value
nodes; each with its tag and its start. Nodes refer to the nodes they hold by their place in the
document, so that an alias is the very node its anchor names and a collection may hold itself. -/
inductive Node where
  | scalar (tag : String) (value : String) (start : Mark)
  | sequence (tag : String) (items : List Nat) (start : Mark)
  | mapping (tag : String) (pairs : List (Nat × Nat)) (start : Mark)
  deriving Inhabited

namespace Node

/-- The tag of a node. -/
def tag : Node → String
  | .scalar t _ _ => t
  | .sequence t _ _ => t
  | .mapping t _ _ => t

/-- Where a node starts. -/
def start : Node → Mark
  | .scalar _ _ m => m
  | .sequence _ _ m => m
  | .mapping _ _ m => m

/-- The kind of a node, as messages name it. -/
def id : Node → String
  | .scalar _ _ _ => "scalar"
  | .sequence _ _ _ => "sequence"
  | .mapping _ _ _ => "mapping"

/-- The node with another tag. -/
def withTag (n : Node) (t : String) : Node :=
  match n with
  | .scalar _ v m => .scalar t v m
  | .sequence _ items m => .sequence t items m
  | .mapping _ pairs m => .mapping t pairs m

end Node

/-- A composed document: its nodes, and the place of its root. -/
structure Graph where
  nodes : Array Node
  root : Nat

/-- The full tag of a core type. -/
def coreTag (name : String) : String :=
  "tag:yaml.org,2002:" ++ name

/-- Whether a text is from `least` to `most` ASCII digits. -/
def asciiDigits (least most : Nat) (cs : List Char) : Bool :=
  least ≤ cs.length && cs.length ≤ most && cs.all Char.isDigit

/-- The text after an optional sign. -/
def unsigned : List Char → List Char
  | '-' :: rest => rest
  | '+' :: rest => rest
  | cs => cs

/-- Whether the text after some digits and underscores is a run of sexagesimal parts `:d` or
`:dd` (the first of two digits at most 5), one part at least. -/
def sexagesimalParts (cs : List Char) : Bool :=
  let parts := (cs.splitOn ':' ).drop 1
  cs.head? = some ':' && !parts.isEmpty && parts.all fun p =>
    match p with
    | [d] => d.isDigit
    | [a, b] => '0' ≤ a && a ≤ '5' && b.isDigit
    | _ => false

/-- Whether a text is a YAML 1.1 boolean. -/
def isBoolText (s : String) : Bool :=
  ["yes", "Yes", "YES", "no", "No", "NO", "true", "True", "TRUE", "false", "False", "FALSE",
    "on", "On", "ON", "off", "Off", "OFF"].contains s

/-- Whether a text is a null. -/
def isNullText (s : String) : Bool :=
  ["~", "null", "Null", "NULL", ""].contains s

/-- Whether the rest of a float text is empty or an exponent with a sign: `e+12`. -/
def isSignedExponent : List Char → Bool
  | [] => true
  | m :: s :: ds => (m = 'e' || m = 'E') && (s = '+' || s = '-') && asciiDigits 1 ds.length ds
  | _ => false

/-- Whether a text is a YAML 1.1 float: a decimal with a point (and a signed exponent), a
sexagesimal with a fraction, or an infinity or NaN after a point. -/
def isFloatText (s : String) : Bool :=
  let cs := s.toList
  let body := unsigned cs
  let digitOrUnderscore := fun c => c.isDigit || c = '_'
  let decimal := match body with
    | d :: rest =>
      d.isDigit &&
        (let afterInt := rest.dropWhile digitOrUnderscore
         match afterInt with
         | '.' :: frac => isSignedExponent (frac.dropWhile digitOrUnderscore)
         | _ => false)
    | [] => false
  let pointFirst := match cs with
    | '.' :: d :: rest => d.isDigit && isSignedExponent (rest.dropWhile digitOrUnderscore)
    | _ => false
  let sexagesimal := match body with
    | d :: rest =>
      d.isDigit &&
        (let afterInt := rest.dropWhile digitOrUnderscore
         let parts := afterInt.takeWhile (· ≠ '.')
         match afterInt.dropWhile (· ≠ '.') with
         | '.' :: frac => sexagesimalParts parts && frac.all digitOrUnderscore
         | _ => false)
    | [] => false
  let infinity := ["inf", "Inf", "INF"].any fun w => String.ofList body = "." ++ w
  let nan := ["nan", "NaN", "NAN"].any fun w => s = "." ++ w
  decimal || pointFirst || sexagesimal || infinity || nan

/-- Whether a text is a YAML 1.1 integer: binary `0b`, octal with a leading `0`, decimal, hex
`0x` or sexagesimal, with an optional sign and underscores. -/
def isIntText (s : String) : Bool :=
  let body := unsigned s.toList
  match body with
  | '0' :: 'b' :: rest => !rest.isEmpty && rest.all fun c => c = '0' || c = '1' || c = '_'
  | '0' :: 'x' :: rest =>
    !rest.isEmpty && rest.all fun c => c.isDigit || ('a' ≤ c && c ≤ 'f') || ('A' ≤ c && c ≤ 'F') ||
      c = '_'
  | ['0'] => true
  | '0' :: rest => !rest.isEmpty && rest.all fun c => ('0' ≤ c && c ≤ '7') || c = '_'
  | d :: rest =>
    '1' ≤ d && d ≤ '9' &&
      (let afterInt := rest.dropWhile fun c => c.isDigit || c = '_'
       afterInt.isEmpty || sexagesimalParts afterInt)
  | [] => false

/-- Whether a text is a YAML 1.1 timestamp: a date `yyyy-mm-dd`, or a date with one- or
two-digit month and day followed by a time, an optional fraction and an optional zone. -/
def isTimestampText (s : String) : Bool :=
  let cs := s.toList
  let dateOnly := match cs with
    | [y1, y2, y3, y4, '-', m1, m2, '-', d1, d2] =>
      [y1, y2, y3, y4, m1, m2, d1, d2].all Char.isDigit
    | _ => false
  let year := cs.take 4
  let rest := cs.drop 4
  let withTime := asciiDigits 4 4 year &&
    (match rest with
     | '-' :: more =>
       let month := more.takeWhile Char.isDigit
       let afterMonth := more.dropWhile Char.isDigit
       asciiDigits 1 2 month &&
         (match afterMonth with
          | '-' :: more =>
            let day := more.takeWhile Char.isDigit
            let afterDay := more.dropWhile Char.isDigit
            asciiDigits 1 2 day &&
              (let afterSep := match afterDay with
                 | 'T' :: r => some r
                 | 't' :: r => some r
                 | c :: r => if c = ' ' || c = '\t' then some (r.dropWhile fun c => c = ' ' || c = '\t')
                   else none
                 | [] => none
               match afterSep with
               | some r =>
                 let hour := r.takeWhile Char.isDigit
                 let afterHour := r.dropWhile Char.isDigit
                 asciiDigits 1 2 hour &&
                   (match afterHour with
                    | ':' :: m1 :: m2 :: ':' :: s1 :: s2 :: zone =>
                      [m1, m2, s1, s2].all Char.isDigit &&
                        (let zone := match zone with
                           | '.' :: r => r.dropWhile Char.isDigit
                           | r => r
                         zone.isEmpty ||
                         match zone.dropWhile fun c => c = ' ' || c = '\t' with
                         | [] => false
                         | ['Z'] => true
                         | sign :: hz =>
                           (sign = '+' || sign = '-') &&
                             (let zh := hz.takeWhile Char.isDigit
                              let afterZh := hz.dropWhile Char.isDigit
                              asciiDigits 1 2 zh &&
                                (match afterZh with
                                 | [] => true
                                 | [':', a, b] => a.isDigit && b.isDigit
                                 | _ => false)))
                    | _ => false)
               | none => false)
          | _ => false)
     | _ => false)
  dateOnly || withTime

/-- The tag a plain scalar's text resolves to, trying the resolvers that its first character
selects in order: booleans, floats, integers, merge keys, nulls, timestamps, value keys and
YAML indicators; a text that none takes is a string. A resolver also takes a text that it would
take without its one final line feed. -/
def resolveScalar (value : String) : String :=
  let first := value.toList.head?
  let candidates : List (String × (String → Bool)) :=
    match first with
    | none => [("null", isNullText)]
    | some c =>
      (if "yYnNtTfFoO".toList.contains c then [("bool", isBoolText)] else []) ++
      (if "-+0123456789.".toList.contains c then [("float", isFloatText)] else []) ++
      (if "-+0123456789".toList.contains c then [("int", isIntText)] else []) ++
      (if c = '<' then [("merge", fun s => s == "<<")] else []) ++
      (if "~nN".toList.contains c then [("null", isNullText)] else []) ++
      (if "0123456789".toList.contains c then [("timestamp", isTimestampText)] else []) ++
      (if c = '=' then [("value", fun s => s == "=")] else []) ++
      (if "!&*".toList.contains c then [("yaml", fun s => s == "!" || s == "&" || s == "*")] else [])
  let chars := value.toList
  let withoutNewline := if chars.getLast? = some '\n' then some (String.ofList chars.dropLast)
    else none
  let accepts (test : String → Bool) : Bool :=
    test value || (withoutNewline.map test).getD false
  match candidates.find? fun (_, test) => accepts test with
  | some (name, _) => coreTag name
  | none => coreTag "str"

/-! ## Composing -/

/-- What composing has built so far: the nodes, and the anchors with the places they name. An
anchor names its node from the moment the node starts, so a collection can hold itself. -/
structure Composing where
  nodes : Array Node
  anchors : List (String × Nat)

namespace Composing

/-- Adds a node under an optional anchor, giving its place. -/
def add (c : Composing) (n : Node) (anchor : Option String) : Composing × Nat :=
  let place := c.nodes.size
  let anchors := match anchor with
    | some a => c.anchors ++ [(a, place)]
    | none => c.anchors
  (⟨c.nodes.push n, anchors⟩, place)

/-- Puts a node in the place of another. -/
def put (c : Composing) (place : Nat) (n : Node) : Composing :=
  { c with nodes := c.nodes.setIfInBounds place n }

end Composing

/-- Takes an event that must be there. -/
def takeEvent : ParseM Event := do
  match ← Parser.getEvent with
  | some e => pure e
  | none => throw (YamlError.at none none "unexpected end of events" none)

/-- The next event, which must be there. -/
def nextEvent : ParseM Event := do
  match ← Parser.peekEvent with
  | some e => pure e
  | none => throw (YamlError.at none none "unexpected end of events" none)

/-- Whether the next event ends a collection. -/
def atEnd (sequence : Bool) : ParseM Bool := do
  match (← nextEvent).kind with
  | .sequenceEnd => pure sequence
  | .mappingEnd => pure !sequence
  | _ => pure false

/-- Refuses an anchor that already names a node. -/
def checkAnchor (c : Composing) (anchor : Option String) (at_ : Mark) : ParseM Unit := do
  if let some a := anchor then
    if let some place := c.anchors.lookup a then
      let first := (c.nodes[place]?.map Node.start).getD at_
      throw (YamlError.at (some ("found duplicate anchor " ++ Text.quote a ++ "; first occurrence"))
        (some first) "second occurrence" (some at_))

/-- The tag of a collection: the written one, or the core one of its kind. -/
def collectionTag (tag : Option String) (core : String) : String :=
  match tag with
  | some t => if t = "!" then coreTag core else t
  | none => coreTag core

/-- The calls below the one that composes a node that reading the node's first event takes.
In flow context the scanner has read the whole line ahead, so only the parser's calls count; in
block context the scanner reads the node's tokens at that depth, four calls further down. -/
def parseCalls (flow : Bool) : Nat :=
  if flow then 6 else 10

/-- The fault of composing deeper than the calls left allow. -/
def tooDeep : YamlError :=
  .foreign "RecursionError" "maximum recursion depth exceeded"

/-- Composes the node that starts at the next event, giving its place. `room` is the calls left
for this node and all below it: each level of nesting takes two, one for the node and one for its
collection, and reading the node's first event needs `parseCalls` of them, in the context of the
collection it stands in (`flow`). `fuel` bounds the nesting. -/
def composeNode : Nat → Nat → Bool → Composing → ParseM (Nat × Composing)
  | 0, _, _, _ => throw (YamlError.at none none "document nested too deeply" none)
  | fuel + 1, room, flow, c => do
    if room < parseCalls flow then throw tooDeep
    let event ← nextEvent
    match event.kind with
    | .alias name =>
      discard takeEvent
      match c.anchors.lookup name with
      | some place => pure (place, c)
      | none => throw (YamlError.at none none ("found undefined alias " ++ Text.quote name)
          (some event.start))
    | .scalar anchor tag implicit value _ =>
      checkAnchor c anchor event.start
      discard takeEvent
      let resolved := match tag with
        | some t => if t = "!" then (if implicit.1 then resolveScalar value else coreTag "str") else t
        | none => if implicit.1 then resolveScalar value else coreTag "str"
      let (c, place) := c.add (.scalar resolved value event.start) anchor
      pure (place, c)
    | .sequenceStart anchor tag _ inFlow =>
      checkAnchor c anchor event.start
      discard takeEvent
      let tag := collectionTag tag "seq"
      let (opened, place) := c.add (.sequence tag [] event.start) anchor
      let mut inner := opened
      let mut items : List Nat := []
      for _ in [0:(← Parse.scan Scan.budget) + 2] do
        if ← atEnd true then break
        let (item, next) ← composeNode fuel (room - 2) inFlow inner
        items := items ++ [item]
        inner := next
      discard takeEvent
      pure (place, inner.put place (.sequence tag items event.start))
    | .mappingStart anchor tag _ inFlow =>
      checkAnchor c anchor event.start
      discard takeEvent
      let tag := collectionTag tag "map"
      let (opened, place) := c.add (.mapping tag [] event.start) anchor
      let mut inner := opened
      let mut pairs : List (Nat × Nat) := []
      for _ in [0:(← Parse.scan Scan.budget) + 2] do
        if ← atEnd false then break
        let (key, afterKey) ← composeNode fuel (room - 2) inFlow inner
        let (value, afterValue) ← composeNode fuel (room - 2) inFlow afterKey
        pairs := pairs ++ [(key, value)]
        inner := afterValue
      discard takeEvent
      pure (place, inner.put place (.mapping tag pairs event.start))
    | _ => throw (YamlError.at none none "unexpected event" (some event.start))

/-- The single document of a stream, or none for an empty stream; a second document is an
error. The root node is composed with `room` calls left. -/
def composeSingle (depth room : Nat) : ParseM (Option Graph) := do
  discard takeEvent
  let mut document : Option Graph := none
  match (← nextEvent).kind with
  | .streamEnd => pure ()
  | _ =>
    discard takeEvent
    let (root, c) ← composeNode depth room false ⟨#[], []⟩
    discard takeEvent
    document := some ⟨c.nodes, root⟩
  let next ← nextEvent
  match next.kind with
  | .streamEnd => pure document
  | _ =>
    let e ← takeEvent
    throw (YamlError.at (some "expected a single document in the stream")
      (document.bind fun g => g.nodes[g.root]?.map Node.start) "but found another document"
      (some e.start))

end ConsulLookup.Yaml
