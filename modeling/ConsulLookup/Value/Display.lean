import ConsulLookup.Value.Basic
import ConsulLookup.Number.Layout
import ConsulLookup.Text.Quoted

/-! The text of a value, as settings and messages show it. -/

namespace ConsulLookup

namespace Value

/-- Floats shown in text have the fewest digits that read back; the notation is positional when
the decimal point falls from four places after the first digit to sixteen places before it, an
integral value keeps `.0`, and an exponent has a sign and at least two digits. -/
def textLayout : FloatLayout :=
  { positionalAbove := -4, positionalUpTo := 16, pointZero := true, exponentMark := 'e',
    exponentPlus := true, exponentDigits := 2, infinityText := "inf", nanText := "nan" }

/-- The text of an integer in decimal. -/
def intText (n : Int) : String :=
  if n < 0 then "-" ++ Nat.repr n.natAbs else Nat.repr n.natAbs

mutual
/-- The form of a value inside a list or an object: strings are quoted. -/
def written : Value → String
  | .null => "None"
  | .bool b => if b then "True" else "False"
  | .int n => intText n
  | .float x => textLayout.render x
  | .str s => Text.quote s
  | .list items => "[" ++ ", ".intercalate (writtenItems items) ++ "]"
  | .obj fields => "\x7b" ++ ", ".intercalate (writtenFields fields) ++ "\x7d"

/-- The written forms of list items. -/
def writtenItems : List Value → List String
  | [] => []
  | v :: rest => written v :: writtenItems rest

/-- The written forms of object fields, `key: value`. -/
def writtenFields : List (String × Value) → List String
  | [] => []
  | (k, v) :: rest => (Text.quote k ++ ": " ++ written v) :: writtenFields rest
end

/-- The text of a value: a string is itself, any other value its written form. -/
def text : Value → String
  | .str s => s
  | v => written v

example : text (.list [.str "x"]) = "['x']" ∧ text (.bool true) = "True" ∧
    text (.int (-0)) = "0" := by
  decide +kernel

end Value

end ConsulLookup
