import ConsulLookup.Options.Issue
import ConsulLookup.Value.Basic
import ConsulLookup.Text.Blank
import ConsulLookup.Text.LoneUnit

/-! Lax coercion of option values to flags, integers, texts and choices. -/

namespace ConsulLookup.Coerce

/-- The words a flag reads as false. -/
def falseWords : List String := ["f", "n", "no", "off", "false"]

/-- The words a flag reads as true. -/
def trueWords : List String := ["t", "y", "on", "yes", "true"]

/-- A text in ASCII lower case. -/
def asciiLower (s : String) : String :=
  String.ofList (s.toList.map Char.toLower)

/-- The flag a text reads as. -/
def flagOfText? (s : String) : Option Bool :=
  if s = "0" || falseWords.contains (asciiLower s) then some false
  else if s = "1" || trueWords.contains (asciiLower s) then some true
  else none


/-- The natural number of a list of ASCII digits. -/
def digitsValue (ds : List Char) : Nat :=
  ds.foldl (fun n d => 10 * n + (d.toNat - '0'.toNat)) 0

/-- The text after its leading zeros and the underscores among them, when it starts with a digit.
A text of zeros and underscores keeps its last character, and a point after the zeros keeps the
character before it, so that `000` stays `0` and `00.0` stays `0.0`. -/
def dropLeadingZeros? : List Char → Option (List Char)
  | '0' :: rest => some (afterZeros '0' rest)
  | c :: rest => if '1' ≤ c && c ≤ '9' then some (c :: rest) else none
  | [] => none
where
  /-- The rest of the text after zeros and underscores, the last of them being `last`. -/
  afterZeros (last : Char) : List Char → List Char
    | [] => [last]
    | c :: rest =>
      if c = '0' || c = '_' then afterZeros c rest
      else if c = '.' then last :: c :: rest
      else c :: rest

/-- The text without a point that is followed by one or more zeros and nothing else. -/
def dropPointZeros (cs : List Char) : List Char :=
  match cs.span (· ≠ '.') with
  | (before, '.' :: after) => if !after.isEmpty && after.all (· = '0') then before else cs
  | _ => cs

/-- The text without its underscores, when each stands alone and neither starts nor ends it. -/
def dropUnderscores? (cs : List Char) : Option (List Char) :=
  let doubled := (cs.zip cs.tail).any fun (a, b) => a = '_' && b = '_'
  if cs.head? = some '_' || cs.getLast? = some '_' || doubled then none
  else some (cs.filter (· ≠ '_'))

/-- The most characters, a minus among them, that the digits of an integer may take. -/
def maxIntegerLength : Nat := 4300

/-- A whole text as a JSON integer: an optional `-`, then `0` or a digit from one to nine and more
digits, and nothing after. Digits that with the minus run longer than `maxIntegerLength` are too
many, whatever follows them. -/
def jsonInteger (cs : List Char) : Except Problem Int :=
  let (negative, body) := match cs with
    | '-' :: rest => (true, rest)
    | _ => (false, cs)
  let signed (n : Nat) : Int := if negative then -(n : Int) else n
  match body with
  | '0' :: [] => .ok 0
  | d :: _ =>
    if '1' ≤ d && d ≤ '9' then
      let (digits, after) := body.span Char.isDigit
      if (if negative then 1 else 0) + digits.length > maxIntegerLength then .error .integerSize
      else if after.isEmpty then .ok (signed (digitsValue digits))
      else .error .integerText
    else .error .integerText
  | [] => .error .integerText

/-- The integer of a text. It is trimmed of `White_Space` and one leading sign is taken off; the
leading zeros go with the underscores among them, then a point followed by zeros only, then the
single underscores; what is left is read as a JSON integer (which may carry a minus of its own),
and the sign taken off applies to it. -/
def integerOfText (s : String) : Except Problem Int :=
  let cs := (Text.trimWhiteSpace s).toList
  let (negative, number) := match cs with
    | '-' :: rest => (true, rest)
    | '+' :: rest => (false, rest)
    | _ => (false, cs)
  match dropLeadingZeros? number with
  | none => .error .integerText
  | some number =>
    let number := dropPointZeros number
    let cleaned := if number.contains '_' then dropUnderscores? number else some number
    match cleaned with
    | none => .error .integerText
    | some number => (jsonInteger number).map fun n => if negative then -n else n

/-- The integer of a float: finite, integral and strictly between `-2 ^ 63` and `2 ^ 63`. -/
def integerOfFloat (x : Float) : Except Problem Int :=
  match Binary64.decode x with
  | .finite negative m e =>
    match (Binary64.Decoded.finite negative m e).toRat? with
    | some r =>
      if r.den ≠ 1 then .error .integerFraction
      else if -Int.pow 2 63 < r.num && r.num < Int.pow 2 63 then .ok r.num
      else .error .integerSize
    | none => .error .notFinite
  | _ => .error .notFinite

/-- The flag an integer reads as: zero and one only. -/
def flagOfInteger (n : Int) : Except Problem Bool :=
  if n = 0 then .ok false else if n = 1 then .ok true else .error .flagText

/-- A value as a flag. An integer outside the 64-bit range and a float that is no 64-bit integer
are of no kind a flag reads. -/
def flag : Value → Except Problem Bool
  | .bool b => .ok b
  | .int n =>
    if -Int.pow 2 63 ≤ n && n < Int.pow 2 63 then flagOfInteger n else .error .notFlag
  | .float x =>
    match integerOfFloat x with
    | .ok n => flagOfInteger n
    | .error _ => .error .notFlag
  | .str s =>
    if Text.hasLoneUnit s then .error .textEncoding
    else match flagOfText? s with
      | some b => .ok b
      | none => .error .flagText
  | _ => .error .notFlag

/-- A value as an integer. -/
def integer : Value → Except Problem Int
  | .bool b => .ok (if b then 1 else 0)
  | .int n => .ok n
  | .float x => integerOfFloat x
  | .str s => if Text.hasLoneUnit s then .error .textEncoding else integerOfText s
  | _ => .error .notInteger

/-- A value as a text. -/
def text : Value → Except Problem String
  | .str s => .ok s
  | _ => .error .notText

/-- A value as one of the texts of a choice. -/
def choice (choices : List String) : Value → Except Problem String
  | .str s =>
    if Text.hasLoneUnit s then .error .textEncoding
    else if choices.contains s then .ok s else .error (.notChoice choices)
  | _ => .error (.notChoice choices)

example : (integerOfText "1_000").toOption = some 1000 ∧
    (integerOfText "0-5").toOption = some (-5) ∧ (integerOfText "-0__5").toOption = some (-5) ∧
    (integerOfText "12.00").toOption = some 12 ∧ (integerOfText "1__0").toOption = none ∧
    (integerOfText "5.").toOption = none ∧ (integerOfText "_5").toOption = none := by
  decide +kernel

end ConsulLookup.Coerce
