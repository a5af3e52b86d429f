import ConsulLookup.Text.Hex
import ConsulLookup.Text.Printable
import ConsulLookup.Text.LoneUnit

/-! Quoted texts, as error messages show a name or an expression. -/

namespace ConsulLookup.Text

/-- The quote a text is written between: `"` when it holds `'` and no `"`, else `'`. -/
def quoteFor (cs : List Char) : Char :=
  if cs.contains '\'' && !cs.contains '"' then '"' else '\''

/-- The written form of one character inside quotes `q`. -/
def escapeChar (q c : Char) : List Char :=
  if c = q || c = '\\' then ['\\', c]
  else if c = '\t' then ['\\', 't']
  else if c = '\n' then ['\\', 'n']
  else if c = '\r' then ['\\', 'r']
  else if c.toNat < 0x20 || c.toNat = 0x7F then '\\' :: 'x' :: hexPadded 2 c.toNat
  else if c.toNat < 0x7F || isPrintable c then [c]
  else if c.toNat ≤ 0xFF then '\\' :: 'x' :: hexPadded 2 c.toNat
  else if c.toNat ≤ 0xFFFF then '\\' :: 'u' :: hexPadded 4 c.toNat
  else '\\' :: 'U' :: hexPadded 8 c.toNat

/-- The written form of one code point inside quotes `q`: a lone unit as its `\u` escape. -/
def escapePoint (q : Char) : CodePoint → List Char
  | .char c => escapeChar q c
  | .lone u => '\\' :: 'u' :: hexPadded 4 u

/-- The quoted form of the code points a list of characters holds. -/
def quoteChars (cs : List Char) : List Char :=
  let q := quoteFor cs
  q :: (points cs).flatMap (escapePoint q) ++ [q]

/-- The quoted form of a text. -/
def quote (s : String) : String :=
  String.ofList (quoteChars s.toList)

example : quote "kv " = "'kv '" ∧ quote "it's" = "\"it's\"" ∧ quote "a'\"" = "'a\\'\"'" ∧
    quote "a\nb\x00" = "'a\\nb\\x00'" := by
  decide +kernel

end ConsulLookup.Text
