import ConsulLookup.Value.Basic
import ConsulLookup.Text.LoneUnit

/-! Reading JSON text into values, with `NaN` and the infinities as floats. -/

namespace ConsulLookup.Json

/-- The blanks allowed between tokens. -/
def isBlank (c : Char) : Bool :=
  c = ' ' || c = '\t' || c = '\n' || c = '\r'

/-- The text after the blanks at its front. -/
def skipBlanks (cs : List Char) : List Char :=
  cs.dropWhile isBlank

/-- The value of a hexadecimal digit. -/
def hexValue? (c : Char) : Option Nat :=
  if '0' ≤ c && c ≤ '9' then some (c.toNat - '0'.toNat)
  else if 'a' ≤ c && c ≤ 'f' then some (c.toNat - 'a'.toNat + 10)
  else if 'A' ≤ c && c ≤ 'F' then some (c.toNat - 'A'.toNat + 10)
  else none

/-- The code unit of four hexadecimal digits. -/
def hexUnit? (a b c d : Char) : Option Nat := do
  let a ← hexValue? a
  let b ← hexValue? b
  let c ← hexValue? c
  let d ← hexValue? d
  pure (((a * 16 + b) * 16 + c) * 16 + d)

/-- Whether a code unit is a leading surrogate. -/
def isHighSurrogate (u : Nat) : Bool := 0xD800 ≤ u && u ≤ 0xDBFF

/-- Whether a code unit is a trailing surrogate. -/
def isLowSurrogate (u : Nat) : Bool := 0xDC00 ≤ u && u ≤ 0xDFFF

/-- The character a surrogate pair encodes. -/
def pairChar (high low : Nat) : Char :=
  Char.ofNat (0x10000 + (high - 0xD800) * 0x400 + (low - 0xDC00))

/-- The character of a simple escape `\c`. -/
def simpleEscape? : Char → Option Char
  | '"' => some '"'
  | '\\' => some '\\'
  | '/' => some '/'
  | 'b' => some '\x08'
  | 'f' => some '\x0c'
  | 'n' => some '\n'
  | 'r' => some '\r'
  | 't' => some '\t'
  | _ => none

/-- The characters of a code unit pushed onto reversed text. -/
def lonePush (u : Nat) (acc : List Char) : List Char :=
  (Text.unitChars u).reverse ++ acc

/-- A character pushed onto reversed text. -/
def charPush (c : Char) (acc : List Char) : List Char :=
  (Text.charChars c).reverse ++ acc

/-- The body of a string after its opening quote, read into `acc` (reversed): the text and the
rest after the closing quote. Control characters may not stand in it unescaped, a leading
surrogate escape joins a trailing one that follows it at once, and a surrogate escape left alone
is a lone unit of the text. -/
def stringBody : List Char → List Char → Option (String × List Char)
  | [], _ => none
  | '"' :: rest, acc => some (String.ofList acc.reverse, rest)
  | '\\' :: 'u' :: a :: b :: c :: d :: rest, acc =>
    match hexUnit? a b c d with
    | none => none
    | some u =>
      if isHighSurrogate u then
        match _hr : rest with
        | '\\' :: 'u' :: e :: f :: g :: h :: more =>
          match hexUnit? e f g h with
          | some low =>
            if isLowSurrogate low then
              stringBody more (charPush (pairChar u low) acc)
            else stringBody rest (lonePush u acc)
          | none => stringBody rest (lonePush u acc)
        | _ => stringBody rest (lonePush u acc)
      else stringBody rest (lonePush u acc)
  | '\\' :: c :: rest, acc =>
    match simpleEscape? c with
    | some e => stringBody rest (e :: acc)
    | none => none
  | c :: rest, acc =>
    if c.toNat < 0x20 then none else stringBody rest (charPush c acc)
termination_by cs => cs.length
decreasing_by all_goals simp_all <;> omega

/-- The decimal digits at the front of a text, and the rest. -/
def splitDigits (cs : List Char) : List Char × List Char :=
  (cs.takeWhile Char.isDigit, cs.dropWhile Char.isDigit)

/-- The natural number of a list of decimal digits. -/
def digitsValue (ds : List Char) : Nat :=
  ds.foldl (fun n d => 10 * n + (d.toNat - '0'.toNat)) 0

/-- The integer part of a number: `0`, or a digit from one to nine and more digits. -/
def integerPart? : List Char → Option (List Char × List Char)
  | '0' :: rest => some (['0'], rest)
  | d :: rest =>
    if '1' ≤ d && d ≤ '9' then
      let (more, after) := splitDigits rest
      some (d :: more, after)
    else none
  | [] => none

/-- The fraction digits after a point, when a point and at least one digit follow. -/
def fractionPart : List Char → List Char × List Char
  | '.' :: d :: rest =>
    if d.isDigit then
      let (more, after) := splitDigits rest
      (d :: more, after)
    else ([], '.' :: d :: rest)
  | cs => ([], cs)

/-- The exponent after `e` or `E` with an optional sign, when at least one digit follows. -/
def exponentPart : List Char → Option Int × List Char
  | m :: rest =>
    if m = 'e' || m = 'E' then
      let (negative, body) := match rest with
        | '-' :: r => (true, r)
        | '+' :: r => (false, r)
        | r => (false, r)
      match splitDigits body with
      | ([], _) => (none, m :: rest)
      | (ds, after) =>
        let n := (digitsValue ds : Int)
        (some (if negative then -n else n), after)
    else (none, m :: rest)
  | [] => (none, [])

/-- A number at the front of a text, and the rest. -/
def number? (cs : List Char) : Option (Value × List Char) := do
  let (negative, body) := match cs with
    | '-' :: r => (true, r)
    | r => (false, r)
  let (whole, afterWhole) ← integerPart? body
  let (fraction, afterFraction) := fractionPart afterWhole
  let (exponent, rest) := exponentPart afterFraction
  if fraction.isEmpty && exponent.isNone then
    if whole.length > 4300 then none else
    let n := (digitsValue whole : Int)
    pure (.int (if negative then -n else n), rest)
  else
    let exp10 := exponent.getD 0 - fraction.length
    pure (.float (Binary64.ofDecimal negative (digitsValue (whole ++ fraction)) exp10), rest)

/-- What nests too deeply: a list or an object. -/
inductive Nesting where
  | list
  | object
  deriving DecidableEq, Repr

/-- Why a text gives no value: it is no JSON text, or its lists and objects nest deeper than the
reader goes. -/
inductive ReadFault where
  | malformed
  | tooDeep (n : Nesting)
  deriving DecidableEq, Repr

/-- The message of a text that nests too deeply. -/
def Nesting.message : Nesting → String
  | .list => "maximum recursion depth exceeded while decoding a JSON array from a unicode string"
  | .object => "maximum recursion depth exceeded while decoding a JSON object from a unicode string"

/-- A result that is no JSON text when it is none. -/
def orMalformed {α : Type} : Option α → Except ReadFault α
  | some a => .ok a
  | none => .error .malformed

mutual
/-- A value at the front of a text (after blanks), and the rest, when at most `room` more lists
and objects may open inside one another; `fuel` bounds the steps. -/
def value : Nat → Nat → List Char → Except ReadFault (Value × List Char)
  | 0, _, _ => .error .malformed
  | fuel + 1, room, cs =>
    match skipBlanks cs with
    | '"' :: rest => orMalformed ((stringBody rest []).map fun (s, after) => (.str s, after))
    | '{' :: rest =>
      match room with
      | 0 => .error (.tooDeep .object)
      | room + 1 =>
        match skipBlanks rest with
        | '}' :: after => .ok (.obj [], after)
        | body => fields fuel room body []
    | '[' :: rest =>
      match room with
      | 0 => .error (.tooDeep .list)
      | room + 1 =>
        match skipBlanks rest with
        | ']' :: after => .ok (.list [], after)
        | body => items fuel room body []
    | 'n' :: 'u' :: 'l' :: 'l' :: rest => .ok (.null, rest)
    | 't' :: 'r' :: 'u' :: 'e' :: rest => .ok (.bool true, rest)
    | 'f' :: 'a' :: 'l' :: 's' :: 'e' :: rest => .ok (.bool false, rest)
    | 'N' :: 'a' :: 'N' :: rest => .ok (.float (0.0 / 0.0), rest)
    | 'I' :: 'n' :: 'f' :: 'i' :: 'n' :: 'i' :: 't' :: 'y' :: rest =>
      .ok (.float (Binary64.infinity false), rest)
    | '-' :: 'I' :: 'n' :: 'f' :: 'i' :: 'n' :: 'i' :: 't' :: 'y' :: rest =>
      .ok (.float (Binary64.infinity true), rest)
    | other => orMalformed (number? other)

/-- The items of a list from its first, read into `acc` (reversed), through the closing bracket. -/
def items : Nat → Nat → List Char → List Value → Except ReadFault (Value × List Char)
  | 0, _, _, _ => .error .malformed
  | fuel + 1, room, cs, acc => do
    let (v, rest) ← value fuel room cs
    match skipBlanks rest with
    | ',' :: more => items fuel room more (v :: acc)
    | ']' :: after => pure (.list (v :: acc).reverse, after)
    | _ => .error .malformed

/-- The fields of an object from its first, read into `acc`, through the closing brace. -/
def fields : Nat → Nat → List Char → Bag → Except ReadFault (Value × List Char)
  | 0, _, _, _ => .error .malformed
  | fuel + 1, room, cs, acc =>
    match skipBlanks cs with
    | '"' :: rest => do
      let (k, afterKey) ← orMalformed (stringBody rest [])
      match skipBlanks afterKey with
      | ':' :: afterColon => do
        let (v, afterValue) ← value fuel room afterColon
        let acc := acc.insert k v
        match skipBlanks afterValue with
        | ',' :: more => fields fuel room more acc
        | '}' :: after => pure (.obj acc, after)
        | _ => .error .malformed
      | _ => .error .malformed
    | _ => .error .malformed
end

/-- The value a whole JSON text stands for, blanks allowed around it, when its lists and objects
nest at most `room` deep. -/
def read (room : Nat) (s : String) : Except ReadFault Value :=
  let cs := s.toList
  match value (cs.length + 1) room cs with
  | .ok (v, rest) => if (skipBlanks rest).isEmpty then .ok v else .error .malformed
  | .error e => .error e

/-- The value a whole JSON text stands for, blanks allowed around it, however deep it nests. -/
def parse (s : String) : Option Value :=
  (read (s.length + 1) s).toOption

example : (parse " [1, \"a\\u00e9\", \x7b\"k\": null\x7d] ").map
    (Value.equal · (.list [.int 1, .str "aé", .obj [("k", .null)]])) = some true := by
  decide +kernel

end ConsulLookup.Json
