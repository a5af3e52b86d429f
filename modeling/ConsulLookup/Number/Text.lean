import ConsulLookup.Number.Binary64
import ConsulLookup.Text.Blank
import ConsulLookup.Text.Digit
import ConsulLookup.Text.Quoted

/-! Integers and floats read from text the way settings files and indexes write them. -/

namespace ConsulLookup

/-- Why a text is no integer: it is malformed, or it has more decimal digits than are read. -/
inductive IntegerTextError where
  | invalid
  | tooLong (digits : Nat)
  deriving DecidableEq, Repr

/-- The value of a digit in a base: a decimal digit of any script, or an ASCII letter for the
values from ten on. -/
def baseDigit? (base : Nat) (c : Char) : Option Nat :=
  let v := match Text.digitValue? c with
    | some d => some d
    | none =>
      if 'a' ≤ c && c ≤ 'z' then some (c.toNat - 'a'.toNat + 10)
      else if 'A' ≤ c && c ≤ 'Z' then some (c.toNat - 'A'.toNat + 10)
      else none
  v.bind fun d => if d < base then some d else none

/-- The digits of a text with single underscores between them (one may also follow a base
prefix, `afterPrefix`), or none when an underscore stands at an end or next to another. -/
def digitsWithoutUnderscores (afterPrefix : Bool) (cs : List Char) : Option (List Char) :=
  let body := if afterPrefix then (match cs with | '_' :: rest => rest | _ => cs) else cs
  let doubled := (body.zip body.tail).any fun (a, b) => a = '_' && b = '_'
  if body.head? = some '_' || body.getLast? = some '_' || doubled then none
  else some (body.filter (· ≠ '_'))

/-- The text of an integer in a base from 2 to 36: trimmed of blanks, with an optional sign and,
in base 2, 8 or 16, an optional prefix. -/
def integerInBase (base : Nat) (s : String) : Except IntegerTextError Int :=
  let cs := Text.trimWith Text.isBlank s.toList
  let (negative, body) := match cs with
    | '-' :: rest => (true, rest)
    | '+' :: rest => (false, rest)
    | rest => (false, rest)
  let (prefixed, body) := match body with
    | '0' :: m :: rest =>
      if (base = 16 && (m = 'x' || m = 'X')) || (base = 8 && (m = 'o' || m = 'O')) ||
          (base = 2 && (m = 'b' || m = 'B')) then (true, rest)
      else (false, body)
    | _ => (false, body)
  match digitsWithoutUnderscores prefixed body with
  | none => .error .invalid
  | some digits =>
    let values := digits.map (baseDigit? base)
    if digits.isEmpty || !values.all Option.isSome then .error .invalid
    else if base = 10 && digits.length > 4300 then .error (.tooLong digits.length)
    else
      let n : Nat := (values.filterMap id).foldl (fun n d => base * n + d) 0
      .ok (if negative then -(n : Int) else n)

/-- The integer of a decimal text, when it is one that is read. -/
def integerOfText? (s : String) : Option Int :=
  (integerInBase 10 s).toOption

/-- The message of an integer text that is not read. -/
def IntegerTextError.message (e : IntegerTextError) (base : Nat) (s : String) : String :=
  match e with
  | .invalid => "invalid literal for int() with base " ++ toString base ++ ": " ++ Text.quote s
  | .tooLong digits =>
    "Exceeds the limit (4300 digits) for integer string conversion: value has " ++
      toString digits ++ " digits; use sys.set_int_max_str_digits() to increase the limit"

/-- The value of a run of decimal digits of any script. -/
def decimalDigits? (cs : List Char) : Option Nat :=
  let values := cs.map Text.digitValue?
  if values.all Option.isSome then some ((values.filterMap id).foldl (fun n d => 10 * n + d) 0)
  else none

/-- The float of a decimal text: digits with an optional point (at least one digit on either
side) and an optional exponent, rounded to the nearest binary64. -/
def decimalFloat? (negative : Bool) (cs : List Char) : Option Float := do
  let isDigit := fun c => (Text.digitValue? c).isSome
  let whole := cs.takeWhile isDigit
  let afterWhole := cs.dropWhile isDigit
  let (fraction, afterFraction) := match afterWhole with
    | '.' :: rest => (rest.takeWhile isDigit, rest.dropWhile isDigit)
    | rest => ([], rest)
  if whole.isEmpty && fraction.isEmpty then none
  let exponent ← match afterFraction with
    | [] => some (0 : Int)
    | m :: rest =>
      if m = 'e' || m = 'E' then
        let (sign, ds) := match rest with
          | '-' :: r => (-1, r)
          | '+' :: r => (1, r)
          | r => (1, r)
        if ds.isEmpty then none else (decimalDigits? ds).map fun n => sign * (n : Int)
      else none
  let mantissa ← decimalDigits? (whole ++ fraction)
  pure (Binary64.ofDecimal negative mantissa (exponent - fraction.length))

/-- The float of a text: trimmed of blanks, an optional sign, then `inf`, `infinity` or `nan` in
any case, or a decimal. -/
def floatOfText? (s : String) : Option Float :=
  let cs := Text.trimWith Text.isBlank s.toList
  let (negative, body) := match cs with
    | '-' :: rest => (true, rest)
    | '+' :: rest => (false, rest)
    | rest => (false, rest)
  let lower := String.ofList (body.map Char.toLower)
  if lower = "inf" || lower = "infinity" then some (Binary64.infinity negative)
  else if lower = "nan" then some (0.0 / 0.0)
  else decimalFloat? negative body

end ConsulLookup
