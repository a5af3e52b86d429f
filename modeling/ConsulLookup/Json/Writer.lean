import ConsulLookup.Value.Display
import ConsulLookup.Text.Hex
import ConsulLookup.Text.LoneUnit

/-! Writing values as JSON text in ASCII, on one line or indented. -/

namespace ConsulLookup.Json

/-- Floats in JSON are written as in text, with `NaN`, `Infinity` and `-Infinity` for the values
that have no numeral. -/
def floatLayout : FloatLayout :=
  { Value.textLayout with infinityText := "Infinity", nanText := "NaN" }

/-- The escape `\uXXXX` of a code unit. -/
def unitEscape (u : Nat) : List Char :=
  '\\' :: 'u' :: Text.hexPadded 4 u

/-- The written form of one character of a string. -/
def escapeChar (c : Char) : List Char :=
  if c = '"' then ['\\', '"']
  else if c = '\\' then ['\\', '\\']
  else if c = '\n' then ['\\', 'n']
  else if c = '\r' then ['\\', 'r']
  else if c = '\t' then ['\\', 't']
  else if c = '\x08' then ['\\', 'b']
  else if c = '\x0c' then ['\\', 'f']
  else if 0x20 ≤ c.toNat && c.toNat ≤ 0x7E then [c]
  else if c.toNat < 0x10000 then unitEscape c.toNat
  else
    let v := c.toNat - 0x10000
    unitEscape (0xD800 + v / 0x400) ++ unitEscape (0xDC00 + v % 0x400)

/-- The written form of one code point of a string: a lone unit as its escape. -/
def escapePoint : Text.CodePoint → List Char
  | .char c => escapeChar c
  | .lone u => unitEscape u

/-- A string written between double quotes. -/
def quoteString (s : String) : String :=
  String.ofList ('"' :: (Text.points s.toList).flatMap escapePoint ++ ['"'])

/-- The text of a value that has no members. -/
def scalarText : Value → String
  | .null => "null"
  | .bool b => if b then "true" else "false"
  | .int n => Value.intText n
  | .float x => floatLayout.render x
  | .str s => quoteString s
  | .list _ => "[]"
  | .obj _ => "\x7b\x7d"

mutual
/-- A value on one line, with no blanks. -/
def render : Value → String
  | .list items => "[" ++ ",".intercalate (renderItems items) ++ "]"
  | .obj fields => "\x7b" ++ ",".intercalate (renderFields fields) ++ "\x7d"
  | v => scalarText v

/-- The items of a list on one line. -/
def renderItems : List Value → List String
  | [] => []
  | v :: rest => render v :: renderItems rest

/-- The fields of an object on one line. -/
def renderFields : List (String × Value) → List String
  | [] => []
  | (k, v) :: rest => (quoteString k ++ ":" ++ render v) :: renderFields rest
end

/-- The blanks before a member at a depth. -/
def indentation (depth : Nat) : String :=
  String.ofList (List.replicate (2 * depth) ' ')

mutual
/-- A value with its members on lines of their own, at a depth. -/
def pretty (depth : Nat) : Value → String
  | .list [] => "[]"
  | .obj [] => "\x7b\x7d"
  | .list items =>
    "[\n" ++ ",\n".intercalate (prettyItems (depth + 1) items) ++ "\n" ++ indentation depth ++ "]"
  | .obj fields =>
    "\x7b\n" ++ ",\n".intercalate (prettyFields (depth + 1) fields) ++ "\n" ++ indentation depth ++
      "\x7d"
  | v => scalarText v

/-- The items of a list, each on its own line. -/
def prettyItems (depth : Nat) : List Value → List String
  | [] => []
  | v :: rest => (indentation depth ++ pretty depth v) :: prettyItems depth rest

/-- The fields of an object, each on its own line. -/
def prettyFields (depth : Nat) : List (String × Value) → List String
  | [] => []
  | (k, v) :: rest =>
    (indentation depth ++ quoteString k ++ ": " ++ pretty depth v) :: prettyFields depth rest
end

/-- A value with its members on lines of their own, two spaces deeper per level. -/
def renderIndented (v : Value) : String :=
  pretty 0 v

example : render (.obj [("a", .list [.int 1, .str "é"])]) = "\x7b\"a\":[1,\"\\u00e9\"]\x7d" := by
  decide +kernel

example : renderIndented (.obj [("a", .list [.int 1]), ("b", .list [])]) =
    "\x7b\n  \"a\": [\n    1\n  ],\n  \"b\": []\n\x7d" := by
  decide +kernel

end ConsulLookup.Json
