import ConsulLookup.Yaml.Token
import ConsulLookup.Text.Utf8
import ConsulLookup.Text.LoneUnit
import ConsulLookup.Number.Text

/-! The YAML scanner: the text cut into tokens on demand. -/

namespace ConsulLookup.Yaml

/-- Where a simple key could start: the number of its token, whether it is required, and its
position. -/
structure SimpleKey where
  tokenNumber : Nat
  required : Bool
  mark : Mark
  deriving Repr

/-- Whether a character may stand in a YAML stream: tab, line feed, carriage return, the
printable ASCII characters, next line, and the rest of Unicode from U+00A0 except the surrogates
and U+FFFE and U+FFFF. -/
def isPrintable (c : Char) : Bool :=
  let n := c.toNat
  n = 0x09 || n = 0x0A || n = 0x0D || (0x20 ≤ n && n ≤ 0x7E) || n = 0x85 ||
    (0xA0 ≤ n && n ≤ 0xD7FF) || (0xE000 ≤ n && n ≤ 0xFFFD) || (0x10000 ≤ n && n ≤ 0x10FFFF)

/-- How many characters of a stream are read before scanning starts. -/
def firstRead : Nat := 8192

/-- How many characters of a stream are read at a time once scanning has started. -/
def blockSize : Nat := 4096

/-- A character that may not stand in the stream, and the first position whose reading meets
it. -/
structure Refusal where
  point : Nat
  position : Nat
  code : Nat
  deriving DecidableEq, Repr

/-- Where reading a text meets its first character that may not stand in a stream. A stream is
read in blocks, each checked as a whole when it is read: the first `firstRead` characters before
any scanning, and then a block of `blockSize` characters whenever scanning looks past what has
been read. So a character in the first read is refused at once, and a later one when scanning
first looks at its block; a fault that scanning meets before that wins. -/
def Refusal.of? (text : Array Char) : Option Refusal :=
  match (text.toList.zip (List.range text.size)).find? fun (c, _) => !isPrintable c with
  | some (c, p) => some ⟨if p < firstRead then 0 else p - p % blockSize, p, c.toNat⟩
  | none => none

/-- The scanner: the text and the position in it, the tokens found but not yet taken, the
indentation levels of the open block collections, the possible simple keys by flow level, and
where reading the text is refused. -/
structure Scanner where
  text : Array Char
  index : Nat
  line : Nat
  column : Nat
  done : Bool
  flowLevel : Int
  tokens : List Token
  tokensTaken : Nat
  indent : Int
  indents : List Int
  allowSimpleKey : Bool
  simpleKeys : List (Int × SimpleKey)
  refusal : Option Refusal

/-- The scanner at the start of a text, with the stream start token ready. -/
def Scanner.start (text : Array Char) : Scanner :=
  let origin : Mark := ⟨0, 0, 0⟩
  ⟨text, 0, 0, 0, false, 0, [⟨.streamStart, origin, origin⟩], 0, -1, [], true, [],
    Refusal.of? text⟩

/-- Scanning steps: they read and change the scanner, and may fail. -/
abbrev ScanM := StateT Scanner (Except YamlError)

namespace Scan

/-- Whether a character breaks a line. -/
def isBreak (c : Char) : Bool :=
  c = '\r' || c = '\n' || c = '\x85' || c = '\u2028' || c = '\u2029'

/-- A line break or the end of the text. -/
def isBreakZ (c : Char) : Bool :=
  c = '\x00' || isBreak c

/-- A blank, a line break or the end of the text. -/
def isBlankZ (c : Char) : Bool :=
  c = ' ' || c = '\t' || isBreakZ c

/-- A line break, the end of the text or a space (but not a tab). -/
def isSpaceZ (c : Char) : Bool :=
  c = ' ' || isBreakZ c

/-- A character of a name: an ASCII letter or digit, `-` or `_`. -/
def isWordChar (c : Char) : Bool :=
  ('0' ≤ c && c ≤ '9') || ('A' ≤ c && c ≤ 'Z') || ('a' ≤ c && c ≤ 'z') || c = '-' || c = '_'

/-- An ASCII hex digit. -/
def isHex (c : Char) : Bool :=
  ('0' ≤ c && c ≤ '9') || ('A' ≤ c && c ≤ 'F') || ('a' ≤ c && c ≤ 'f')

/-- The value of a hex digit. -/
def hexValue (c : Char) : Nat :=
  if c ≤ '9' then c.toNat - '0'.toNat
  else if c ≤ 'F' then c.toNat - 'A'.toNat + 10
  else c.toNat - 'a'.toNat + 10

/-- A character of a tag URI. -/
def isUriChar (c : Char) : Bool :=
  isWordChar c || "-;/?:@&=+$,_.!~*'()[]%".toList.contains c

/-- Reads the text up to a position: fails when that reaches a refused block. -/
def reach (position : Nat) : ScanM Unit := do
  match (← get).refusal with
  | some r => if r.point ≤ position then throw (.unprintable r.position r.code)
  | none => pure ()

/-- The character `k` places ahead; past the end of the text it is `\x00`. -/
def peekAt (k : Nat) : ScanM Char := do
  let s ← get
  reach (s.index + k)
  pure (s.text.getD (s.index + k) '\x00')

/-- The character at the position. -/
def peek : ScanM Char :=
  peekAt 0

/-- The next `n` characters (fewer at the end of the text). -/
def prefixText (n : Nat) : ScanM String := do
  let s ← get
  reach (s.index + n - 1)
  pure (String.ofList (s.text.extract s.index (s.index + n)).toList)

/-- The current position. -/
def getMark : ScanM Mark := do
  let s ← get
  pure ⟨s.index, s.line, s.column⟩

/-- How many steps a loop over the rest of the text may take. -/
def budget : ScanM Nat := do
  let s ← get
  pure (s.text.size - s.index + 2)

/-- Moves one character on. A line break starts a new line (a carriage return only when no line
feed follows it); a byte order mark takes no column. -/
def forwardOne : ScanM Unit := do
  reach ((← get).index + 1)
  modify fun s =>
    let ch := s.text.getD s.index '\x00'
    let next := s.text.getD (s.index + 1) '\x00'
    if ch = '\n' || ch = '\x85' || ch = '\u2028' || ch = '\u2029' || (ch = '\r' && next ≠ '\n') then
      { s with index := s.index + 1, line := s.line + 1, column := 0 }
    else if ch ≠ '\uFEFF' then { s with index := s.index + 1, column := s.column + 1 }
    else { s with index := s.index + 1 }

/-- Moves `n` characters on. -/
def forward (n : Nat) : ScanM Unit := do
  for _ in [0:n] do
    forwardOne

/-- Fails with a problem at the current position. -/
def fail {α : Type} (context : Option String) (contextMark : Option Mark) (problem : String) :
    ScanM α := do
  let m ← getMark
  throw (YamlError.at context contextMark problem (some m))

/-- Appends a token. -/
def addToken (t : Token) : ScanM Unit :=
  modify fun s => { s with tokens := s.tokens ++ [t] }

/-- Puts a token at a place among the tokens not yet taken. -/
def insertToken (at_ : Nat) (t : Token) : ScanM Unit :=
  modify fun s => { s with tokens := s.tokens.take at_ ++ t :: s.tokens.drop at_ }

/-- Counts the characters from the position on that satisfy `p`. -/
def countWhile (p : Char → Bool) (from_ : Nat) : ScanM Nat := do
  let mut length := from_
  for _ in [0:(← budget)] do
    if p (← peekAt length) then length := length + 1 else break
  pure length

/-- Skips the characters that satisfy `p`. -/
def skipWhile (p : Char → Bool) : ScanM Unit := do
  for _ in [0:(← budget)] do
    if p (← peek) then forwardOne else break

/-- Reads a line break: `\r\n`, `\r`, `\n` and `\x85` read as `\n`, the Unicode line and
paragraph separators as themselves; anything else reads as nothing. -/
def scanLineBreak : ScanM String := do
  let ch ← peek
  if ch = '\r' || ch = '\n' || ch = '\x85' then
    if (← prefixText 2) = "\r\n" then forward 2 else forward 1
    pure "\n"
  else if ch = '\u2028' || ch = '\u2029' then
    forward 1
    pure (String.singleton ch)
  else pure ""

/-! ## Simple keys and indentation -/

/-- The possible simple keys without the one of a flow level. -/
def dropLevel (level : Int) (keys : List (Int × SimpleKey)) : List (Int × SimpleKey) :=
  keys.filter fun kv => kv.1 != level

/-- The smallest token number of a possible simple key. -/
def nextPossibleSimpleKey : ScanM (Option Nat) := do
  let s ← get
  pure (s.simpleKeys.foldl (fun acc (_, k) => match acc with
    | none => some k.tokenNumber
    | some m => some (min m k.tokenNumber)) none)

/-- The error of a required simple key without its `:`. -/
def keyWithoutValue {α : Type} (key : SimpleKey) : ScanM α :=
  fail (some "while scanning a simple key") (some key.mark) "could not find expected ':'"

/-- Forgets the possible simple keys that can no longer be keys: those on an earlier line or more
than 1024 characters back. -/
def staleSimpleKeys : ScanM Unit := do
  for (level, key) in (← get).simpleKeys do
    let s ← get
    if key.mark.line ≠ s.line || s.index - key.mark.index > 1024 then
      if key.required then keyWithoutValue key
      modify fun s => { s with simpleKeys := dropLevel level s.simpleKeys }

/-- Forgets the possible simple key of the current flow level; a required one is an error. -/
def removeSimpleKey : ScanM Unit := do
  let s ← get
  match s.simpleKeys.lookup s.flowLevel with
  | some key =>
    if key.required then keyWithoutValue key
    modify fun s => { s with simpleKeys := dropLevel s.flowLevel s.simpleKeys }
  | none => pure ()

/-- Remembers that a simple key could start here, when one may. -/
def saveSimpleKey : ScanM Unit := do
  let s ← get
  let required := s.flowLevel = 0 && s.indent = (s.column : Int)
  if s.allowSimpleKey then
    removeSimpleKey
    let s ← get
    let key : SimpleKey := ⟨s.tokensTaken + s.tokens.length, required, ⟨s.index, s.line, s.column⟩⟩
    set { s with simpleKeys := dropLevel s.flowLevel s.simpleKeys ++ [(s.flowLevel, key)] }

/-- Closes the block collections indented deeper than a column. -/
def unwindIndent (column : Int) : ScanM Unit := do
  if (← get).flowLevel = 0 then
    for _ in [0:(← get).indents.length] do
      let s ← get
      match s.indents with
      | previous :: rest =>
        if s.indent > column then
          let m ← getMark
          set { s with indent := previous, indents := rest }
          addToken ⟨.blockEnd, m, m⟩
        else break
      | [] => break

/-- Opens an indentation level at a column deeper than the current one; says whether it did. -/
def addIndent (column : Int) : ScanM Bool := do
  let s ← get
  if s.indent < column then
    set { s with indents := s.indent :: s.indents, indent := column }
    pure true
  else pure false

/-- Sets whether a simple key may start next. -/
def setAllow (b : Bool) : ScanM Unit :=
  modify fun s => { s with allowSimpleKey := b }

/-! ## Skipping to a token -/

/-- Skips spaces, comments and line breaks up to the next token; a line break in block context
allows a simple key again. A byte order mark at the very start is skipped too. -/
def scanToNextToken : ScanM Unit := do
  if (← get).index = 0 && (← peek) = '\uFEFF' then forward 1
  for _ in [0:(← budget)] do
    skipWhile (· = ' ')
    if (← peek) = '#' then skipWhile fun c => !isBreakZ c
    if (← scanLineBreak) ≠ "" then
      if (← get).flowLevel = 0 then setAllow true
    else break

/-! ## Directives -/

/-- The error of a malformed directive. -/
def directiveError {α : Type} (start : Mark) (problem : String) : ScanM α :=
  fail (some "while scanning a directive") (some start) problem

/-- The name of a directive. -/
def scanDirectiveName (start : Mark) : ScanM String := do
  let length ← countWhile isWordChar 0
  if length = 0 then
    directiveError start ("expected alphabetic or numeric character, but found " ++
      showChar (← peekAt 0))
  let value ← prefixText length
  forward length
  let ch ← peek
  if !isSpaceZ ch then
    directiveError start ("expected alphabetic or numeric character, but found " ++ showChar ch)
  pure value

/-- One number of a version; a number of more than 4300 digits is not read. -/
def scanVersionNumber (start : Mark) : ScanM Nat := do
  let ch ← peek
  if !('0' ≤ ch && ch ≤ '9') then directiveError start ("expected a digit, but found " ++ showChar ch)
  let length ← countWhile (fun c => '0' ≤ c && c ≤ '9') 0
  let digits ← prefixText length
  if length > 4300 then
    throw (.foreign "ValueError" ((IntegerTextError.tooLong length).message 10 digits))
  forward length
  pure (digits.toList.foldl (fun n d => 10 * n + (d.toNat - '0'.toNat)) 0)

/-- The version of a `%YAML` directive. -/
def scanVersion (start : Mark) : ScanM DirectiveValue := do
  skipWhile (· = ' ')
  let major ← scanVersionNumber start
  if (← peek) ≠ '.' then
    directiveError start ("expected a digit or '.', but found " ++ showChar (← peek))
  forward 1
  let minor ← scanVersionNumber start
  if !isSpaceZ (← peek) then
    directiveError start ("expected a digit or ' ', but found " ++ showChar (← peek))
  pure (.version major minor)

/-- A tag handle: `!`, `!!` or `!name!`. -/
def scanTagHandle (name : String) (start : Mark) : ScanM String := do
  let ch ← peek
  if ch ≠ '!' then
    fail (some ("while scanning a " ++ name)) (some start) ("expected '!', but found " ++ showChar ch)
  let mut length := 1
  let mut ch ← peekAt 1
  if ch ≠ ' ' then
    length ← countWhile isWordChar 1
    ch ← peekAt length
    if ch ≠ '!' then
      forward length
      fail (some ("while scanning a " ++ name)) (some start) ("expected '!', but found " ++ showChar ch)
    length := length + 1
  let value ← prefixText length
  forward length
  pure value

/-- A run of `%` escapes in a tag, decoded as UTF-8. -/
def scanUriEscapes (name : String) (start : Mark) : ScanM String := do
  let m ← getMark
  let mut codes : List Nat := []
  for _ in [0:(← budget)] do
    if (← peek) ≠ '%' then break
    forward 1
    for k in [0:2] do
      let c ← peekAt k
      if !isHex c then
        fail (some ("while scanning a " ++ name)) (some start)
          ("expected URI escape sequence of 2 hexadecimal numbers, but found " ++ showChar c)
    codes := codes ++ [16 * hexValue (← peekAt 0) + hexValue (← peekAt 1)]
    forward 2
  match Utf8.decodeStrictFrom 0 codes with
  | .ok cs => pure (Text.ofChars cs)
  | .error e => throw (YamlError.at (some ("while scanning a " ++ name)) (some start)
      (e.message codes) (some m))

/-- The URI of a tag or a tag prefix, with its `%` escapes decoded. -/
def scanTagUri (name : String) (start : Mark) : ScanM String := do
  let mut chunks := ""
  let mut any := false
  let mut length := 0
  for _ in [0:(← budget)] do
    let ch ← peekAt length
    if !isUriChar ch then break
    if ch = '%' then
      chunks := chunks ++ (← prefixText length)
      forward length
      length := 0
      chunks := chunks ++ (← scanUriEscapes name start)
      any := true
    else length := length + 1
  if length > 0 then
    chunks := chunks ++ (← prefixText length)
    forward length
    any := true
  if !any then
    fail (some ("while parsing a " ++ name)) (some start)
      ("expected URI, but found " ++ showChar (← peekAt 0))
  pure chunks

/-- The handle and prefix of a `%TAG` directive. -/
def scanTagDirective (start : Mark) : ScanM DirectiveValue := do
  skipWhile (· = ' ')
  let handle ← scanTagHandle "directive" start
  if (← peek) ≠ ' ' then directiveError start ("expected ' ', but found " ++ showChar (← peek))
  skipWhile (· = ' ')
  let pfx ← scanTagUri "directive" start
  if !isSpaceZ (← peek) then directiveError start ("expected ' ', but found " ++ showChar (← peek))
  pure (.tagPrefix handle pfx)

/-- The rest of a directive line: spaces and a comment. -/
def scanDirectiveIgnoredLine (start : Mark) : ScanM Unit := do
  skipWhile (· = ' ')
  if (← peek) = '#' then skipWhile fun c => !isBreakZ c
  let ch ← peek
  if !isBreakZ ch then
    directiveError start ("expected a comment or a line break, but found " ++ showChar ch)
  discard scanLineBreak

/-- A directive: `%YAML`, `%TAG`, or another whose line is ignored. -/
def scanDirective : ScanM Token := do
  let start ← getMark
  forward 1
  let name ← scanDirectiveName start
  let (value, stop) ← if name = "YAML" then do
      let v ← scanVersion start
      pure (v, ← getMark)
    else if name = "TAG" then do
      let v ← scanTagDirective start
      pure (v, ← getMark)
    else do
      let m ← getMark
      skipWhile fun c => !isBreakZ c
      pure (DirectiveValue.none, m)
  scanDirectiveIgnoredLine start
  pure ⟨.directive name value, start, stop⟩

/-! ## Anchors, aliases and tags -/

/-- An anchor `&name` or an alias `*name`. -/
def scanAnchor (isAlias : Bool) : ScanM Token := do
  let start ← getMark
  let name := if isAlias then "alias" else "anchor"
  forward 1
  let length ← countWhile isWordChar 0
  if length = 0 then
    fail (some ("while scanning an " ++ name)) (some start)
      ("expected alphabetic or numeric character, but found " ++ showChar (← peekAt 0))
  let value ← prefixText length
  forward length
  let ch ← peek
  if !(isBlankZ ch || "?:,]\x7d%@`".toList.contains ch) then
    fail (some ("while scanning an " ++ name)) (some start)
      ("expected alphabetic or numeric character, but found " ++ showChar ch)
  let stop ← getMark
  pure ⟨if isAlias then .alias value else .anchor value, start, stop⟩

/-- A tag: `!<uri>`, a lone `!`, or a handle and a suffix. -/
def scanTag : ScanM Token := do
  let start ← getMark
  let ch ← peekAt 1
  let (handle, suffix) ← if ch = '<' then do
      forward 2
      let suffix ← scanTagUri "tag" start
      if (← peek) ≠ '>' then
        fail (some "while parsing a tag") (some start) ("expected '>', but found " ++ showChar (← peek))
      forward 1
      pure (none, suffix)
    else if isBlankZ ch then do
      forward 1
      pure (none, "!")
    else do
      let mut length := 1
      let mut useHandle := false
      let mut c := ch
      for _ in [0:(← budget)] do
        if isSpaceZ c then break
        if c = '!' then
          useHandle := true
          break
        length := length + 1
        c ← peekAt length
      let handle ← if useHandle then scanTagHandle "tag" start else do
        forward 1
        pure "!"
      let suffix ← scanTagUri "tag" start
      pure (some handle, suffix)
  let c ← peek
  if !isSpaceZ c then
    fail (some "while scanning a tag") (some start) ("expected ' ', but found " ++ showChar c)
  let stop ← getMark
  pure ⟨.tag handle suffix, start, stop⟩

/-! ## Block scalars -/

/-- The chomping (`+` keep, `-` strip, none clip) and indentation indicators of a block scalar. -/
def scanBlockScalarIndicators (start : Mark) : ScanM (Option Bool × Option Nat) := do
  let err {α : Type} (problem : String) : ScanM α :=
    fail (some "while scanning a block scalar") (some start) problem
  let zero := "expected indentation indicator in the range 1-9, but found 0"
  let mut chomping : Option Bool := none
  let mut increment : Option Nat := none
  let ch ← peek
  if ch = '+' || ch = '-' then
    chomping := some (ch = '+')
    forward 1
    let c ← peek
    if c.isDigit then
      if c = '0' then err zero
      increment := some (c.toNat - '0'.toNat)
      forward 1
  else if ch.isDigit then
    if ch = '0' then err zero
    increment := some (ch.toNat - '0'.toNat)
    forward 1
    let c ← peek
    if c = '+' || c = '-' then
      chomping := some (c = '+')
      forward 1
  let c ← peek
  if !isSpaceZ c then
    err ("expected chomping or indentation indicators, but found " ++ showChar c)
  pure (chomping, increment)

/-- The rest of the indicator line of a block scalar: spaces and a comment. -/
def scanBlockScalarIgnoredLine (start : Mark) : ScanM Unit := do
  skipWhile (· = ' ')
  if (← peek) = '#' then skipWhile fun c => !isBreakZ c
  let ch ← peek
  if !isBreakZ ch then
    fail (some "while scanning a block scalar") (some start)
      ("expected a comment or a line break, but found " ++ showChar ch)
  discard scanLineBreak

/-- The empty lines before the first line of a block scalar without an indentation indicator,
and the deepest column they reach. -/
def scanBlockScalarIndentation : ScanM (List String × Nat × Mark) := do
  let mut chunks : List String := []
  let mut maxIndent := 0
  let mut stop ← getMark
  for _ in [0:(← budget)] do
    let ch ← peek
    if !(ch = ' ' || isBreak ch) then break
    if ch ≠ ' ' then
      chunks := chunks ++ [← scanLineBreak]
      stop ← getMark
    else
      forward 1
      let col := (← get).column
      if col > maxIndent then maxIndent := col
  pure (chunks, maxIndent, stop)

/-- The line breaks before the next line of a block scalar, with the indentation skipped. -/
def scanBlockScalarBreaks (indent : Nat) : ScanM (List String × Mark) := do
  let mut chunks : List String := []
  let mut stop ← getMark
  for _ in [0:(← budget)] do
    if (← get).column < indent && (← peek) = ' ' then forwardOne else break
  for _ in [0:(← budget)] do
    if !isBreak (← peek) then break
    chunks := chunks ++ [← scanLineBreak]
    stop ← getMark
    for _ in [0:(← budget)] do
      if (← get).column < indent && (← peek) = ' ' then forwardOne else break
  pure (chunks, stop)

/-- A literal (`|`) or folded (`>`) block scalar. -/
def scanBlockScalar (folded : Bool) : ScanM Token := do
  let start ← getMark
  forward 1
  let (chomping, increment) ← scanBlockScalarIndicators start
  scanBlockScalarIgnoredLine start
  let minIndent := ((← get).indent + 1).toNat.max 1
  let (indent, firstBreaks, firstStop) ← match increment with
    | none => do
      let (breaks, maxIndent, stop) ← scanBlockScalarIndentation
      pure (minIndent.max maxIndent, breaks, stop)
    | some inc => do
      let indent := minIndent + inc - 1
      let (breaks, stop) ← scanBlockScalarBreaks indent
      pure (indent, breaks, stop)
  let mut chunks : List String := []
  let mut breaks := firstBreaks
  let mut stop := firstStop
  let mut lineBreak := ""
  for _ in [0:(← budget)] do
    if !((← get).column = indent && (← peek) ≠ '\x00') then break
    chunks := chunks ++ breaks
    let leadingNonSpace := !((← peek) = ' ' || (← peek) = '\t')
    let length ← countWhile (fun c => !isBreakZ c) 0
    chunks := chunks ++ [← prefixText length]
    forward length
    lineBreak ← scanLineBreak
    let (bs, m) ← scanBlockScalarBreaks indent
    breaks := bs
    stop := m
    if (← get).column = indent && (← peek) ≠ '\x00' then
      if folded && lineBreak = "\n" && leadingNonSpace && !((← peek) = ' ' || (← peek) = '\t') then
        if breaks.isEmpty then chunks := chunks ++ [" "]
      else chunks := chunks ++ [lineBreak]
    else break
  if chomping != some false then chunks := chunks ++ [lineBreak]
  if chomping = some true then chunks := chunks ++ breaks
  pure ⟨.scalar (String.join chunks) false (some (if folded then '>' else '|')), start, stop⟩

/-! ## Quoted scalars -/

/-- The character a one-letter escape of a double-quoted scalar stands for. -/
def escapeReplacement? : Char → Option Char
  | '0' => some '\x00'
  | 'a' => some '\x07'
  | 'b' => some '\x08'
  | 't' => some '\t'
  | '\t' => some '\t'
  | 'n' => some '\n'
  | 'v' => some '\x0b'
  | 'f' => some '\x0c'
  | 'r' => some '\r'
  | 'e' => some '\x1b'
  | ' ' => some ' '
  | '"' => some '"'
  | '\\' => some '\\'
  | '/' => some '/'
  | 'N' => some '\x85'
  | '_' => some '\xa0'
  | 'L' => some '\u2028'
  | 'P' => some '\u2029'
  | _ => none

/-- The number of hex digits of a numeric escape. -/
def escapeLength? : Char → Option Nat
  | 'x' => some 2
  | 'u' => some 4
  | 'U' => some 8
  | _ => none

/-- The line breaks inside a quoted scalar, with the blanks around them; a document marker
there is an error. -/
def scanFlowScalarBreaks (start : Mark) : ScanM (List String) := do
  let mut chunks : List String := []
  for _ in [0:(← budget)] do
    let p ← prefixText 3
    if (p = "---" || p = "...") && isBlankZ (← peekAt 3) then
      fail (some "while scanning a quoted scalar") (some start) "found unexpected document separator"
    skipWhile fun c => c = ' ' || c = '\t'
    if isBreak (← peek) then chunks := chunks ++ [← scanLineBreak] else break
  pure chunks

/-- A run of a quoted scalar without blanks, escapes and quoted quotes read. -/
def scanFlowScalarNonSpaces (double : Bool) (start : Mark) : ScanM (List String) := do
  let mut chunks : List String := []
  let err {α : Type} (problem : String) : ScanM α :=
    fail (some "while scanning a double-quoted scalar") (some start) problem
  for _ in [0:(← budget)] do
    let length ← countWhile (fun c => !("'\"\\".toList.contains c || isBlankZ c)) 0
    if length > 0 then
      chunks := chunks ++ [← prefixText length]
      forward length
    let ch ← peek
    if !double && ch = '\'' && (← peekAt 1) = '\'' then
      chunks := chunks ++ ["'"]
      forward 2
    else if (double && ch = '\'') || (!double && (ch = '"' || ch = '\\')) then
      chunks := chunks ++ [String.singleton ch]
      forward 1
    else if double && ch = '\\' then
      forward 1
      let c ← peek
      match escapeReplacement? c, escapeLength? c with
      | some r, _ =>
        chunks := chunks ++ [String.singleton r]
        forward 1
      | none, some n =>
        forward 1
        for k in [0:n] do
          let d ← peekAt k
          if !isHex d then
            err ("expected escape sequence of " ++ toString n ++
              " hexadecimal numbers, but found " ++ showChar d)
        let digits ← prefixText n
        let code := digits.toList.foldl (fun acc d => 16 * acc + hexValue d) 0
        if code > 0x10FFFF then
          throw (YamlError.foreign "ValueError" "chr() arg not in range(0x110000)")
        chunks := chunks ++ [String.ofList (Text.unitChars code)]
        forward n
      | none, none =>
        if isBreak c then
          discard scanLineBreak
          chunks := chunks ++ (← scanFlowScalarBreaks start)
        else err ("found unknown escape character " ++ showChar c)
    else break
  pure chunks

/-- The blanks and line breaks inside a quoted scalar, folded: a single line feed becomes a
space, more line breaks stand for themselves. -/
def scanFlowScalarSpaces (start : Mark) : ScanM (List String) := do
  let length ← countWhile (fun c => c = ' ' || c = '\t') 0
  let whitespaces ← prefixText length
  forward length
  let ch ← peek
  if ch = '\x00' then
    fail (some "while scanning a quoted scalar") (some start) "found unexpected end of stream"
  else if isBreak ch then
    let lineBreak ← scanLineBreak
    let breaks ← scanFlowScalarBreaks start
    let first := if lineBreak ≠ "\n" then [lineBreak] else if breaks.isEmpty then [" "] else []
    pure (first ++ breaks)
  else pure [whitespaces]

/-- A single- or double-quoted scalar. -/
def scanFlowScalar (double : Bool) : ScanM Token := do
  let start ← getMark
  let quote ← peek
  forward 1
  let mut chunks ← scanFlowScalarNonSpaces double start
  for _ in [0:(← budget)] do
    if (← peek) = quote then break
    chunks := chunks ++ (← scanFlowScalarSpaces start)
    chunks := chunks ++ (← scanFlowScalarNonSpaces double start)
  forward 1
  let stop ← getMark
  pure ⟨.scalar (String.join chunks) false (some (if double then '"' else '\'')), start, stop⟩

/-! ## Plain scalars -/

/-- The blanks and line breaks after a run of a plain scalar, folded; `none` when a document
marker follows a line break. -/
def scanPlainSpaces : ScanM (Option (List String)) := do
  let length ← countWhile (· = ' ') 0
  let whitespaces ← prefixText length
  forward length
  let ch ← peek
  if isBreak ch then
    let lineBreak ← scanLineBreak
    setAllow true
    let atMarker : ScanM Bool := do
      let p ← prefixText 3
      pure ((p = "---" || p = "...") && isBlankZ (← peekAt 3))
    if ← atMarker then return none
    let mut breaks : List String := []
    for _ in [0:(← budget)] do
      let c ← peek
      if c = ' ' then forwardOne
      else if isBreak c then
        breaks := breaks ++ [← scanLineBreak]
        if ← atMarker then return none
      else break
    let first := if lineBreak ≠ "\n" then [lineBreak] else if breaks.isEmpty then [" "] else []
    pure (some (first ++ breaks))
  else if whitespaces ≠ "" then pure (some [whitespaces])
  else pure (some [])

/-- A plain scalar: runs of characters that cannot end it, folded over line breaks while the
lines stay indented past the enclosing block. -/
def scanPlain : ScanM Token := do
  let start ← getMark
  let mut stop := start
  let indent := (← get).indent + 1
  let mut chunks : List String := []
  let mut spaces : List String := []
  for _ in [0:(← budget)] do
    if (← peek) = '#' then break
    let flow := (← get).flowLevel ≠ 0
    let mut length := 0
    for _ in [0:(← budget)] do
      let ch ← peekAt length
      let after ← peekAt (length + 1)
      if isBlankZ ch || (ch = ':' && (isBlankZ after || (flow && ",[]\x7b\x7d".toList.contains after))) ||
          (flow && ",?[]\x7b\x7d".toList.contains ch) then break
      length := length + 1
    if length = 0 then break
    setAllow false
    chunks := chunks ++ spaces ++ [← prefixText length]
    forward length
    stop ← getMark
    match ← scanPlainSpaces with
    | none => break
    | some more =>
      spaces := more
      if more.isEmpty || (← peek) = '#' || ((← get).flowLevel = 0 && ((← get).column : Int) < indent) then
        break
  pure ⟨.scalar (String.join chunks) true none, start, stop⟩

/-! ## Fetching tokens -/

/-- The token of a one-character indicator. -/
def indicatorToken (kind : TokenKind) : ScanM Unit := do
  let start ← getMark
  forward 1
  let stop ← getMark
  addToken ⟨kind, start, stop⟩

/-- The end of the text: every block collection closes. -/
def fetchStreamEnd : ScanM Unit := do
  unwindIndent (-1)
  removeSimpleKey
  modify fun s => { s with allowSimpleKey := false, simpleKeys := [] }
  let m ← getMark
  addToken ⟨.streamEnd, m, m⟩
  modify fun s => { s with done := true }

/-- A directive line. -/
def fetchDirective : ScanM Unit := do
  unwindIndent (-1)
  removeSimpleKey
  setAllow false
  addToken (← scanDirective)

/-- A document marker `---` or `...`. -/
def fetchDocumentIndicator (kind : TokenKind) : ScanM Unit := do
  unwindIndent (-1)
  removeSimpleKey
  setAllow false
  let start ← getMark
  forward 3
  let stop ← getMark
  addToken ⟨kind, start, stop⟩

/-- `[` or `{`. -/
def fetchFlowCollectionStart (kind : TokenKind) : ScanM Unit := do
  saveSimpleKey
  modify fun s => { s with flowLevel := s.flowLevel + 1, allowSimpleKey := true }
  indicatorToken kind

/-- `]` or `}`. -/
def fetchFlowCollectionEnd (kind : TokenKind) : ScanM Unit := do
  removeSimpleKey
  modify fun s => { s with flowLevel := s.flowLevel - 1, allowSimpleKey := false }
  indicatorToken kind

/-- `,` in a flow collection. -/
def fetchFlowEntry : ScanM Unit := do
  setAllow true
  removeSimpleKey
  indicatorToken .flowEntry

/-- `-` before a block sequence entry. -/
def fetchBlockEntry : ScanM Unit := do
  if (← get).flowLevel = 0 then
    if !(← get).allowSimpleKey then fail none none "sequence entries are not allowed here"
    if ← addIndent (← get).column then
      let m ← getMark
      addToken ⟨.blockSequenceStart, m, m⟩
  setAllow true
  removeSimpleKey
  indicatorToken .blockEntry

/-- `?` before a complex key. -/
def fetchKey : ScanM Unit := do
  if (← get).flowLevel = 0 then
    if !(← get).allowSimpleKey then fail none none "mapping keys are not allowed here"
    if ← addIndent (← get).column then
      let m ← getMark
      addToken ⟨.blockMappingStart, m, m⟩
  setAllow ((← get).flowLevel = 0)
  removeSimpleKey
  indicatorToken .key

/-- `:` after a key: a possible simple key becomes a key token in its place, opening a block
mapping when it starts a deeper column. -/
def fetchValue : ScanM Unit := do
  let s ← get
  match s.simpleKeys.lookup s.flowLevel with
  | some key =>
    modify fun s => { s with simpleKeys := dropLevel s.flowLevel s.simpleKeys }
    let at_ := key.tokenNumber - s.tokensTaken
    insertToken at_ ⟨.key, key.mark, key.mark⟩
    if s.flowLevel = 0 then
      if ← addIndent key.mark.column then
        insertToken at_ ⟨.blockMappingStart, key.mark, key.mark⟩
    setAllow false
  | none =>
    if s.flowLevel = 0 then
      if !s.allowSimpleKey then fail none none "mapping values are not allowed here"
      if ← addIndent s.column then
        let m ← getMark
        addToken ⟨.blockMappingStart, m, m⟩
    setAllow ((← get).flowLevel = 0)
    removeSimpleKey
  indicatorToken .value

/-- Whether a document marker of three `c` stands at the start of a line. -/
def checkMarker (c : Char) : ScanM Bool := do
  if (← get).column = 0 then
    pure ((← prefixText 3) = String.ofList [c, c, c] && isBlankZ (← peekAt 3))
  else pure false

/-- Whether the character can start a plain scalar. -/
def checkPlain : ScanM Bool := do
  let ch ← peek
  let next ← peekAt 1
  let flow := (← get).flowLevel ≠ 0
  pure (!(isBlankZ ch || "-?:,[]\x7b\x7d#&*!|>'\"%@`".toList.contains ch) ||
    (!isBlankZ next && (ch = '-' || (!flow && (ch = '?' || ch = ':')))))

/-- Scans the next token or tokens. -/
def fetchMoreTokens : ScanM Unit := do
  scanToNextToken
  staleSimpleKeys
  unwindIndent (← get).column
  let ch ← peek
  let flow := (← get).flowLevel ≠ 0
  let blankNext := isBlankZ (← peekAt 1)
  if ch = '\x00' then fetchStreamEnd
  else if ch = '%' && (← get).column = 0 then fetchDirective
  else if ch = '-' && (← checkMarker '-') then fetchDocumentIndicator .documentStart
  else if ch = '.' && (← checkMarker '.') then fetchDocumentIndicator .documentEnd
  else if ch = '[' then fetchFlowCollectionStart .flowSequenceStart
  else if ch = '{' then fetchFlowCollectionStart .flowMappingStart
  else if ch = ']' then fetchFlowCollectionEnd .flowSequenceEnd
  else if ch = '}' then fetchFlowCollectionEnd .flowMappingEnd
  else if ch = ',' then fetchFlowEntry
  else if ch = '-' && blankNext then fetchBlockEntry
  else if ch = '?' && (flow || blankNext) then fetchKey
  else if ch = ':' && (flow || blankNext) then fetchValue
  else if ch = '*' || ch = '&' then do
    saveSimpleKey
    setAllow false
    addToken (← scanAnchor (ch = '*'))
  else if ch = '!' then do
    saveSimpleKey
    setAllow false
    addToken (← scanTag)
  else if (ch = '|' || ch = '>') && !flow then do
    setAllow true
    removeSimpleKey
    addToken (← scanBlockScalar (ch = '>'))
  else if ch = '\'' || ch = '"' then do
    saveSimpleKey
    setAllow false
    addToken (← scanFlowScalar (ch = '"'))
  else if ← checkPlain then do
    saveSimpleKey
    setAllow false
    addToken (← scanPlain)
  else
    fail (some "while scanning for the next token") none
      ("found character " ++ showChar ch ++ " that cannot start any token")

/-- Whether more tokens must be scanned before the first one can be handed out: when there is
none, or when it could still turn out to be the start of a simple key. -/
def needMoreTokens : ScanM Bool := do
  let s ← get
  if s.done then pure false
  else if s.tokens.isEmpty then pure true
  else
    staleSimpleKeys
    pure ((← nextPossibleSimpleKey) = some (← get).tokensTaken)

/-- Scans until the first token can be handed out. -/
def ensureTokens : ScanM Unit := do
  for _ in [0:(← budget) + 1] do
    if ← needMoreTokens then fetchMoreTokens else break

end Scan

/-- The next token, without taking it. -/
def Scanner.peekToken : ScanM (Option Token) := do
  Scan.ensureTokens
  pure (← get).tokens.head?

/-- Takes the next token. -/
def Scanner.getToken : ScanM (Option Token) := do
  Scan.ensureTokens
  let s ← get
  match s.tokens with
  | t :: rest =>
    set { s with tokens := rest, tokensTaken := s.tokensTaken + 1 }
    pure (some t)
  | [] => pure none

end ConsulLookup.Yaml
