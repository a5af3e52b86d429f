import ConsulLookup.Text.Quoted

/-! The vocabulary of YAML reading: positions, tokens and errors. -/

namespace ConsulLookup.Yaml

/-- A position in the text: the index of the character, and its line and column from zero. -/
structure Mark where
  index : Nat
  line : Nat
  column : Nat
  deriving DecidableEq, Repr, Inhabited

/-- The value of a directive: a `%YAML` version, a `%TAG` handle and prefix, or nothing for a
directive of another name. -/
inductive DirectiveValue where
  | version (major minor : Nat)
  | tagPrefix (handle pfx : String)
  | none
  deriving DecidableEq, Repr

/-- The kinds of tokens. -/
inductive TokenKind where
  | streamStart
  | streamEnd
  | directive (name : String) (value : DirectiveValue)
  | documentStart
  | documentEnd
  | blockSequenceStart
  | blockMappingStart
  | blockEnd
  | flowSequenceStart
  | flowMappingStart
  | flowSequenceEnd
  | flowMappingEnd
  | key
  | value
  | blockEntry
  | flowEntry
  | alias (name : String)
  | anchor (name : String)
  | tag (handle : Option String) (suffix : String)
  | scalar (text : String) (plain : Bool) (style : Option Char)
  deriving DecidableEq, Repr

/-- The name of a token kind, as messages show it. -/
def TokenKind.id : TokenKind → String
  | .streamStart => "<stream start>"
  | .streamEnd => "<stream end>"
  | .directive _ _ => "<directive>"
  | .documentStart => "<document start>"
  | .documentEnd => "<document end>"
  | .blockSequenceStart => "<block sequence start>"
  | .blockMappingStart => "<block mapping start>"
  | .blockEnd => "<block end>"
  | .flowSequenceStart => "["
  | .flowMappingStart => "\x7b"
  | .flowSequenceEnd => "]"
  | .flowMappingEnd => "\x7d"
  | .key => "?"
  | .value => ":"
  | .blockEntry => "-"
  | .flowEntry => ","
  | .alias _ => "<alias>"
  | .anchor _ => "<anchor>"
  | .tag _ _ => "<tag>"
  | .scalar _ _ _ => "<scalar>"

/-- A token with where it starts and ends. -/
structure Token where
  kind : TokenKind
  start : Mark
  stop : Mark
  deriving Repr

/-- An error at a position: what was being read and from where, and what went wrong and where. -/
structure MarkedError where
  context : Option String
  contextMark : Option Mark
  problem : String
  problemMark : Option Mark
  deriving DecidableEq, Repr

/-- Why a text is no YAML document: a marked error, a character that may not stand in YAML at
all, or a failure of another kind while building a value (such as a number too long to read). -/
inductive YamlError where
  | marked (e : MarkedError)
  | unprintable (position code : Nat)
  | foreign (kind message : String)
  deriving DecidableEq, Repr

/-- A marked error from its parts. -/
def YamlError.at (context : Option String) (contextMark : Option Mark) (problem : String)
    (problemMark : Option Mark) : YamlError :=
  .marked ⟨context, contextMark, problem, problemMark⟩

/-- A position as a line of a message about the stream `name`. -/
def Mark.render (m : Mark) (name : String) : String :=
  "  in \"" ++ name ++ "\", line " ++ toString (m.line + 1) ++ ", column " ++
    toString (m.column + 1)

/-- A marked error as a message: the context, its position unless the problem stands at the
same line and column, the problem and its position, one per line. -/
def MarkedError.render (e : MarkedError) (name : String) : String :=
  let contextLine := e.context.toList
  let samePlace := match e.contextMark, e.problemMark with
    | some c, some p => c.line = p.line && c.column = p.column
    | _, _ => false
  let contextMarkLine := match e.contextMark with
    | some c => if samePlace then [] else [c.render name]
    | none => []
  let problemMarkLine := (e.problemMark.map (·.render name)).toList
  "\n".intercalate (contextLine ++ contextMarkLine ++ [e.problem] ++ problemMarkLine)

/-- A code point as four or more lower-case hex digits. -/
def hex4 (n : Nat) : String :=
  let ds := Nat.toDigits 16 n
  String.ofList (List.replicate (4 - ds.length) '0' ++ ds)

/-- An error as a message about the stream `name`. -/
def YamlError.render (e : YamlError) (name : String) : String :=
  match e with
  | .marked m => m.render name
  | .unprintable position code =>
    "unacceptable character #x" ++ hex4 code ++ ": special characters are not allowed\n  in \"" ++
      name ++ "\", position " ++ toString position
  | .foreign _ message => message

/-- A character as messages show it: quoted. -/
def showChar (c : Char) : String :=
  Text.quote (String.singleton c)

end ConsulLookup.Yaml
