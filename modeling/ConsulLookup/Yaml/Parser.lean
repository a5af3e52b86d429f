import ConsulLookup.Yaml.Scanner

/-! The YAML parser: tokens into events, by a state machine over the grammar. -/

namespace ConsulLookup.Yaml

/-- The kinds of events. An implicit scalar may be resolved by its text: the first flag is for a
plain scalar, the second for a quoted one. -/
inductive EventKind where
  | streamStart
  | streamEnd
  | documentStart (explicit : Bool)
  | documentEnd (explicit : Bool)
  | alias (anchor : String)
  | scalar (anchor tag : Option String) (implicit : Bool × Bool) (value : String)
      (style : Option Char)
  | sequenceStart (anchor tag : Option String) (implicit : Bool) (flow : Bool)
  | sequenceEnd
  | mappingStart (anchor tag : Option String) (implicit : Bool) (flow : Bool)
  | mappingEnd
  deriving Repr

/-- An event with where it starts and ends. -/
structure Event where
  kind : EventKind
  start : Mark
  stop : Mark
  deriving Repr

/-- The states of the parser: what it expects next. -/
inductive ParseState where
  | streamStart
  | implicitDocumentStart
  | documentStart
  | documentEnd
  | documentContent
  | blockNode
  | blockSequenceFirstEntry
  | blockSequenceEntry
  | indentlessSequenceEntry
  | blockMappingFirstKey
  | blockMappingKey
  | blockMappingValue
  | flowSequenceFirstEntry
  | flowSequenceEntry
  | flowSequenceEntryMappingKey
  | flowSequenceEntryMappingValue
  | flowSequenceEntryMappingEnd
  | flowMappingFirstKey
  | flowMappingKey
  | flowMappingValue
  | flowMappingEmptyValue
  deriving DecidableEq, Repr

/-- The parser: the scanner under it, the state and the stack of states to return to, the
start positions of the open collections, the tag handles in force, and the event read ahead. -/
structure Parser where
  scanner : Scanner
  state : Option ParseState
  states : List ParseState
  marks : List Mark
  tagHandles : List (String × String)
  current : Option Event

/-- The parser at the start of a text. -/
def Parser.start (text : Array Char) : Parser :=
  ⟨Scanner.start text, some .streamStart, [], [], [], none⟩

/-- Parsing steps. -/
abbrev ParseM := StateT Parser (Except YamlError)

/-- The tag handles every document knows. -/
def defaultTagHandles : List (String × String) :=
  [("!", "!"), ("!!", "tag:yaml.org,2002:")]

namespace Parse

/-- Runs a scanning step on the parser's scanner. -/
def scan {α : Type} (m : ScanM α) : ParseM α := do
  let p ← get
  match m.run p.scanner with
  | .ok (a, s) =>
    set { p with scanner := s }
    pure a
  | .error e => throw e

/-- The next token; the end of the stream when there is none. -/
def peekToken : ParseM Token := do
  match ← scan Scanner.peekToken with
  | some t => pure t
  | none =>
    let m : Mark := ⟨(← get).scanner.index, (← get).scanner.line, (← get).scanner.column⟩
    pure ⟨.streamEnd, m, m⟩

/-- Takes the next token. -/
def getToken : ParseM Token := do
  let t ← peekToken
  discard (scan Scanner.getToken)
  pure t

/-- Whether the next token is of a kind `p` accepts. -/
def checkToken (p : TokenKind → Bool) : ParseM Bool := do
  match ← scan Scanner.peekToken with
  | some t => pure (p t.kind)
  | none => pure false

/-- Token kind tests. -/
def isDirective : TokenKind → Bool
  | .directive _ _ => true
  | _ => false

/-- Whether a token is of one of the given simple kinds. -/
def isOneOf (kinds : List TokenKind) (k : TokenKind) : Bool :=
  kinds.contains k

/-- Fails with a problem at a position. -/
def fail {α : Type} (context : Option String) (contextMark : Option Mark) (problem : String)
    (problemMark : Mark) : ParseM α :=
  throw (YamlError.at context contextMark problem (some problemMark))

/-- Sets the state. -/
def goto (s : ParseState) : ParseM Unit :=
  modify fun p => { p with state := some s }

/-- Pushes a state to return to. -/
def push (s : ParseState) : ParseM Unit :=
  modify fun p => { p with states := s :: p.states }

/-- Returns to the state on top of the stack. -/
def pop : ParseM Unit :=
  modify fun p => match p.states with
    | s :: rest => { p with state := some s, states := rest }
    | [] => { p with state := none }

/-- Opens a collection at a position. -/
def pushMark (m : Mark) : ParseM Unit :=
  modify fun p => { p with marks := m :: p.marks }

/-- Closes the innermost collection. -/
def popMark : ParseM Unit :=
  modify fun p => { p with marks := p.marks.tail }

/-- The start of the innermost open collection. -/
def topMark : ParseM Mark := do
  pure ((← get).marks.headD ⟨0, 0, 0⟩)

/-- An empty plain scalar at a position. -/
def emptyScalar (m : Mark) : Event :=
  ⟨.scalar none none (true, false) "" none, m, m⟩

/-- Reads the directives before a document: at most one `%YAML 1.x` and distinct `%TAG`
handles; the default handles are added where not redefined. -/
def processDirectives : ParseM Unit := do
  modify fun p => { p with tagHandles := [] }
  let mut version : Option (Nat × Nat) := none
  for _ in [0:(← scan Scan.budget)] do
    if !(← checkToken isDirective) then break
    let token ← getToken
    match token.kind with
    | .directive "YAML" (.version major minor) =>
      if version.isSome then fail none none "found duplicate YAML directive" token.start
      if major ≠ 1 then
        fail none none "found incompatible YAML document (version 1.* is required)" token.start
      version := some (major, minor)
    | .directive "TAG" (.tagPrefix handle pfx) =>
      if ((← get).tagHandles.lookup handle).isSome then
        fail none none ("duplicate tag handle " ++ Text.quote handle) token.start
      modify fun p => { p with tagHandles := p.tagHandles ++ [(handle, pfx)] }
    | _ => pure ()
  for (handle, pfx) in defaultTagHandles do
    if ((← get).tagHandles.lookup handle).isNone then
      modify fun p => { p with tagHandles := p.tagHandles ++ [(handle, pfx)] }

/-- A node: an alias, or a scalar or collection start with an optional anchor and tag. In block
context a block collection may start here, and where `indentless` a sequence of `-` entries at
the mapping's own indentation. -/
def parseNode (block indentless : Bool) : ParseM Event := do
  if ← checkToken fun | .alias _ => true | _ => false then
    let token ← getToken
    pop
    match token.kind with
    | .alias name => return ⟨.alias name, token.start, token.stop⟩
    | _ => return ⟨.alias "", token.start, token.stop⟩
  let mut anchor : Option String := none
  let mut tag : Option (Option String × String) := none
  let mut start : Option Mark := none
  let mut stop : Option Mark := none
  let mut tagMark : Option Mark := none
  let isAnchor : TokenKind → Bool := fun | .anchor _ => true | _ => false
  let isTag : TokenKind → Bool := fun | .tag _ _ => true | _ => false
  if ← checkToken isAnchor then
    let token ← getToken
    start := some token.start
    stop := some token.stop
    if let .anchor a := token.kind then anchor := some a
    if ← checkToken isTag then
      let t ← getToken
      tagMark := some t.start
      stop := some t.stop
      if let .tag h s := t.kind then tag := some (h, s)
  else if ← checkToken isTag then
    let token ← getToken
    start := some token.start
    tagMark := some token.start
    stop := some token.stop
    if let .tag h s := token.kind then tag := some (h, s)
    if ← checkToken isAnchor then
      let a ← getToken
      stop := some a.stop
      if let .anchor name := a.kind then anchor := some name
  let mut resolved : Option String := none
  match tag with
  | some (some handle, suffix) =>
    match (← get).tagHandles.lookup handle with
    | some pfx => resolved := some (pfx ++ suffix)
    | none =>
      fail (some "while parsing a node") start ("found undefined tag handle " ++ Text.quote handle)
        (tagMark.getD ⟨0, 0, 0⟩)
  | some (none, suffix) => resolved := some suffix
  | none => pure ()
  let first ← peekToken
  let from_ := start.getD first.start
  let upTo := stop.getD first.start
  let implicit := resolved.isNone || resolved = some "!"
  if indentless && (← checkToken (· == .blockEntry)) then
    goto .indentlessSequenceEntry
    return ⟨.sequenceStart anchor resolved implicit false, from_, first.stop⟩
  match first.kind with
  | .scalar value plain style =>
    let token ← getToken
    let flags :=
      if (plain && resolved.isNone) || resolved = some "!" then (true, false)
      else if resolved.isNone then (false, true)
      else (false, false)
    pop
    return ⟨.scalar anchor resolved flags value style, from_, token.stop⟩
  | .flowSequenceStart =>
    goto .flowSequenceFirstEntry
    return ⟨.sequenceStart anchor resolved implicit true, from_, first.stop⟩
  | .flowMappingStart =>
    goto .flowMappingFirstKey
    return ⟨.mappingStart anchor resolved implicit true, from_, first.stop⟩
  | .blockSequenceStart =>
    if block then
      goto .blockSequenceFirstEntry
      return ⟨.sequenceStart anchor resolved implicit false, from_, first.start⟩
  | .blockMappingStart =>
    if block then
      goto .blockMappingFirstKey
      return ⟨.mappingStart anchor resolved implicit false, from_, first.start⟩
  | _ => pure ()
  if anchor.isSome || resolved.isSome then
    pop
    return ⟨.scalar anchor resolved (implicit, false) "" none, from_, upTo⟩
  fail (some ("while parsing a " ++ (if block then "block" else "flow") ++ " node")) (some from_)
    ("expected the node content, but found " ++ Text.quote first.kind.id) first.start

/-- The first event of the stream. -/
def parseStreamStart : ParseM Event := do
  let token ← getToken
  goto .implicitDocumentStart
  pure ⟨.streamStart, token.start, token.stop⟩

/-- An explicit document start, or the end of the stream. -/
def parseDocumentStart : ParseM Event := do
  for _ in [0:(← scan Scan.budget)] do
    if ← checkToken (· == .documentEnd) then discard getToken else break
  if !(← checkToken (· == .streamEnd)) then
    let token ← peekToken
    processDirectives
    if !(← checkToken (· == .documentStart)) then
      let t ← peekToken
      fail none none ("expected '<document start>', but found " ++ Text.quote t.kind.id) t.start
    let startToken ← getToken
    push .documentEnd
    goto .documentContent
    pure ⟨.documentStart true, token.start, startToken.stop⟩
  else
    let token ← getToken
    modify fun p => { p with state := none }
    pure ⟨.streamEnd, token.start, token.stop⟩

/-- A document without `---`, or the start of an explicit one. -/
def parseImplicitDocumentStart : ParseM Event := do
  if !(← checkToken fun k => isDirective k || k == .documentStart || k == .streamEnd) then
    modify fun p => { p with tagHandles := defaultTagHandles }
    let token ← peekToken
    push .documentEnd
    goto .blockNode
    pure ⟨.documentStart false, token.start, token.start⟩
  else parseDocumentStart

/-- The end of a document, with or without `...`. -/
def parseDocumentEnd : ParseM Event := do
  let token ← peekToken
  let mut stop := token.start
  let mut explicit := false
  if ← checkToken (· == .documentEnd) then
    let t ← getToken
    stop := t.stop
    explicit := true
  goto .documentStart
  pure ⟨.documentEnd explicit, token.start, stop⟩

/-- The content of an explicit document, empty when a marker follows at once. -/
def parseDocumentContent : ParseM Event := do
  if ← checkToken fun k => isDirective k || isOneOf [.documentStart, .documentEnd, .streamEnd] k then
    let t ← peekToken
    pop
    pure (emptyScalar t.start)
  else parseNode true false

/-- An entry of a block sequence, or its end. -/
def parseBlockSequenceEntry : ParseM Event := do
  if ← checkToken (· == .blockEntry) then
    let token ← getToken
    if !(← checkToken (isOneOf [.blockEntry, .blockEnd])) then
      push .blockSequenceEntry
      return ← parseNode true false
    else
      goto .blockSequenceEntry
      return emptyScalar token.stop
  if !(← checkToken (· == .blockEnd)) then
    let t ← peekToken
    fail (some "while parsing a block collection") (some (← topMark))
      ("expected <block end>, but found " ++ Text.quote t.kind.id) t.start
  let token ← getToken
  pop
  popMark
  pure ⟨.sequenceEnd, token.start, token.stop⟩

/-- An entry of a sequence of `-` entries inside a mapping, or its end. -/
def parseIndentlessSequenceEntry : ParseM Event := do
  if ← checkToken (· == .blockEntry) then
    let token ← getToken
    if !(← checkToken (isOneOf [.blockEntry, .key, .value, .blockEnd])) then
      push .indentlessSequenceEntry
      return ← parseNode true false
    else
      goto .indentlessSequenceEntry
      return emptyScalar token.stop
  let token ← peekToken
  pop
  pure ⟨.sequenceEnd, token.start, token.start⟩

/-- A key of a block mapping, or its end. -/
def parseBlockMappingKey : ParseM Event := do
  if ← checkToken (· == .key) then
    let token ← getToken
    if !(← checkToken (isOneOf [.key, .value, .blockEnd])) then
      push .blockMappingValue
      return ← parseNode true true
    else
      goto .blockMappingValue
      return emptyScalar token.stop
  if !(← checkToken (· == .blockEnd)) then
    let t ← peekToken
    fail (some "while parsing a block mapping") (some (← topMark))
      ("expected <block end>, but found " ++ Text.quote t.kind.id) t.start
  let token ← getToken
  pop
  popMark
  pure ⟨.mappingEnd, token.start, token.stop⟩

/-- A value of a block mapping, empty when none is given. -/
def parseBlockMappingValue : ParseM Event := do
  if ← checkToken (· == .value) then
    let token ← getToken
    if !(← checkToken (isOneOf [.key, .value, .blockEnd])) then
      push .blockMappingKey
      parseNode true true
    else
      goto .blockMappingKey
      pure (emptyScalar token.stop)
  else
    goto .blockMappingKey
    let t ← peekToken
    pure (emptyScalar t.start)

/-- An entry of a flow sequence, or its end; `first` for the entry after `[`. -/
def parseFlowSequenceEntry (first : Bool) : ParseM Event := do
  if !(← checkToken (· == .flowSequenceEnd)) then
    if !first then
      if ← checkToken (· == .flowEntry) then discard getToken
      else
        let t ← peekToken
        fail (some "while parsing a flow sequence") (some (← topMark))
          ("expected ',' or ']', but got " ++ Text.quote t.kind.id) t.start
    if ← checkToken (· == .key) then
      let t ← peekToken
      goto .flowSequenceEntryMappingKey
      return ⟨.mappingStart none none true true, t.start, t.stop⟩
    else if !(← checkToken (· == .flowSequenceEnd)) then
      push .flowSequenceEntry
      return ← parseNode false false
  let token ← getToken
  pop
  popMark
  pure ⟨.sequenceEnd, token.start, token.stop⟩

/-- The key of a one-pair mapping inside a flow sequence. -/
def parseFlowSequenceEntryMappingKey : ParseM Event := do
  let token ← getToken
  if !(← checkToken (isOneOf [.value, .flowEntry, .flowSequenceEnd])) then
    push .flowSequenceEntryMappingValue
    parseNode false false
  else
    goto .flowSequenceEntryMappingValue
    pure (emptyScalar token.stop)

/-- The value of a one-pair mapping inside a flow sequence. -/
def parseFlowSequenceEntryMappingValue : ParseM Event := do
  if ← checkToken (· == .value) then
    let token ← getToken
    if !(← checkToken (isOneOf [.flowEntry, .flowSequenceEnd])) then
      push .flowSequenceEntryMappingEnd
      parseNode false false
    else
      goto .flowSequenceEntryMappingEnd
      pure (emptyScalar token.stop)
  else
    goto .flowSequenceEntryMappingEnd
    let t ← peekToken
    pure (emptyScalar t.start)

/-- The end of a one-pair mapping inside a flow sequence. -/
def parseFlowSequenceEntryMappingEnd : ParseM Event := do
  goto .flowSequenceEntry
  let t ← peekToken
  pure ⟨.mappingEnd, t.start, t.start⟩

/-- A key of a flow mapping, or its end; `first` for the key after the opening brace. -/
def parseFlowMappingKey (first : Bool) : ParseM Event := do
  if !(← checkToken (· == .flowMappingEnd)) then
    if !first then
      if ← checkToken (· == .flowEntry) then discard getToken
      else
        let t ← peekToken
        fail (some "while parsing a flow mapping") (some (← topMark))
          ("expected ',' or '\x7d', but got " ++ Text.quote t.kind.id) t.start
    if ← checkToken (· == .key) then
      let token ← getToken
      if !(← checkToken (isOneOf [.value, .flowEntry, .flowMappingEnd])) then
        push .flowMappingValue
        return ← parseNode false false
      else
        goto .flowMappingValue
        return emptyScalar token.stop
    else if !(← checkToken (· == .flowMappingEnd)) then
      push .flowMappingEmptyValue
      return ← parseNode false false
  let token ← getToken
  pop
  popMark
  pure ⟨.mappingEnd, token.start, token.stop⟩

/-- A value of a flow mapping, empty when none is given. -/
def parseFlowMappingValue : ParseM Event := do
  if ← checkToken (· == .value) then
    let token ← getToken
    if !(← checkToken (isOneOf [.flowEntry, .flowMappingEnd])) then
      push .flowMappingKey
      parseNode false false
    else
      goto .flowMappingKey
      pure (emptyScalar token.stop)
  else
    goto .flowMappingKey
    let t ← peekToken
    pure (emptyScalar t.start)

/-- The next event, by the state. -/
def step : ParseState → ParseM Event
  | .streamStart => parseStreamStart
  | .implicitDocumentStart => parseImplicitDocumentStart
  | .documentStart => parseDocumentStart
  | .documentEnd => parseDocumentEnd
  | .documentContent => parseDocumentContent
  | .blockNode => parseNode true false
  | .blockSequenceFirstEntry => do
    pushMark (← getToken).start
    parseBlockSequenceEntry
  | .blockSequenceEntry => parseBlockSequenceEntry
  | .indentlessSequenceEntry => parseIndentlessSequenceEntry
  | .blockMappingFirstKey => do
    pushMark (← getToken).start
    parseBlockMappingKey
  | .blockMappingKey => parseBlockMappingKey
  | .blockMappingValue => parseBlockMappingValue
  | .flowSequenceFirstEntry => do
    pushMark (← getToken).start
    parseFlowSequenceEntry true
  | .flowSequenceEntry => parseFlowSequenceEntry false
  | .flowSequenceEntryMappingKey => parseFlowSequenceEntryMappingKey
  | .flowSequenceEntryMappingValue => parseFlowSequenceEntryMappingValue
  | .flowSequenceEntryMappingEnd => parseFlowSequenceEntryMappingEnd
  | .flowMappingFirstKey => do
    pushMark (← getToken).start
    parseFlowMappingKey true
  | .flowMappingKey => parseFlowMappingKey false
  | .flowMappingValue => parseFlowMappingValue
  | .flowMappingEmptyValue => do
    goto .flowMappingKey
    pure (emptyScalar (← peekToken).start)

end Parse

/-- The next event, without taking it; none after the end of the stream. -/
def Parser.peekEvent : ParseM (Option Event) := do
  let p ← get
  match p.current, p.state with
  | some e, _ => pure (some e)
  | none, some s =>
    let e ← Parse.step s
    modify fun p => { p with current := some e }
    pure (some e)
  | none, none => pure none

/-- Takes the next event. -/
def Parser.getEvent : ParseM (Option Event) := do
  let e ← Parser.peekEvent
  modify fun p => { p with current := none }
  pure e

end ConsulLookup.Yaml
