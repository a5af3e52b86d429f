import ConsulLookup.Text.Hex
import ConsulLookup.Text.LoneUnit

/-! Binary data of `!!binary` scalars, read as lenient base64. -/

namespace ConsulLookup.Yaml

/-- Why a text is no base64 data. -/
inductive Base64Fault where
  | loneCharacter (characters : Nat)
  | padding
  deriving DecidableEq, Repr

/-- The message of a text that is no base64 data. -/
def Base64Fault.message : Base64Fault → String
  | .loneCharacter n =>
    "Invalid base64-encoded string: number of data characters (" ++ toString n ++
      ") cannot be 1 more than a multiple of 4"
  | .padding => "Incorrect padding"

/-- The value of a character of the base64 alphabet. -/
def base64Value? (c : Char) : Option Nat :=
  let n := c.toNat
  if 'A'.toNat ≤ n && n ≤ 'Z'.toNat then some (n - 'A'.toNat)
  else if 'a'.toNat ≤ n && n ≤ 'z'.toNat then some (n - 'a'.toNat + 26)
  else if '0'.toNat ≤ n && n ≤ '9'.toNat then some (n - '0'.toNat + 52)
  else if c = '+' then some 62
  else if c = '/' then some 63
  else none

/-- Where decoding stands: the characters read of the current group, the bits carried to the
next byte, the padding characters seen, and the bytes so far (last first). -/
structure Base64State where
  position : Nat
  carry : Nat
  pads : Nat
  bytes : List UInt8

/-- Decodes the rest of a text from a state. -/
def base64Loop : Base64State → List Char → Except Base64Fault (List UInt8)
  | s, [] =>
    match s.position with
    | 0 => .ok s.bytes.reverse
    | 1 => .error (.loneCharacter (s.bytes.length / 3 * 4 + 1))
    | _ => .error .padding
  | s, c :: rest =>
    if c = '=' then
      if s.position ≥ 2 then
        if s.position + (s.pads + 1) ≥ 4 then .ok s.bytes.reverse
        else base64Loop { s with pads := s.pads + 1 } rest
      else base64Loop s rest
    else
      match base64Value? c with
      | none => base64Loop s rest
      | some v =>
        let byte (n : Nat) := UInt8.ofNat n
        let s' : Base64State := match s.position with
          | 0 => ⟨1, v, 0, s.bytes⟩
          | 1 => ⟨2, v % 16, 0, byte (s.carry * 4 + v / 16) :: s.bytes⟩
          | 2 => ⟨3, v % 4, 0, byte (s.carry * 16 + v / 4) :: s.bytes⟩
          | _ => ⟨0, 0, 0, byte (s.carry * 64 + v) :: s.bytes⟩
        base64Loop s' rest

/-- The bytes a base64 text stands for. -/
def decodeBase64 (cs : List Char) : Except Base64Fault (List UInt8) :=
  base64Loop ⟨0, 0, 0, []⟩ cs

/-- A code point outside ASCII as an escape: `\x` with two hex digits up to U+00FF, `\u` with
four up to U+FFFF, `\U` with eight beyond. -/
def pointEscape (n : Nat) : String :=
  if n ≤ 0xFF then "\\x" ++ String.ofList (Text.hexPadded 2 n)
  else if n ≤ 0xFFFF then "\\u" ++ String.ofList (Text.hexPadded 4 n)
  else "\\U" ++ String.ofList (Text.hexPadded 8 n)

/-- Why a text is not ASCII: the first run of code points beyond it, with its positions. -/
def asciiFault? (cs : List Char) : Option String :=
  let ns := (Text.points cs).map Text.CodePoint.toNat
  let indexed := ns.zip (List.range ns.length)
  match indexed.dropWhile fun (n, _) => n < 128 with
  | (n, start) :: more =>
    let run := (more.takeWhile fun (m, _) => m ≥ 128).length
    some ("'ascii' codec can't encode " ++
      (if run = 0 then "character '" ++ pointEscape n ++ "' in position " ++ toString start
       else "characters in position " ++ toString start ++ "-" ++ toString (start + run)) ++
      ": ordinal not in range(128)")
  | [] => none

/-- The written form of bytes: `b` and the bytes between single quotes, or double quotes when
they hold a single quote and no double one. -/
def bytesWritten (bs : List UInt8) : String :=
  let quote := if bs.contains 39 && !bs.contains 34 then '"' else '\''
  let escape (b : UInt8) : String :=
    let n := b.toNat
    if n = quote.toNat || n = 92 then String.ofList ['\\', Char.ofNat n]
    else if n = 9 then "\\t"
    else if n = 10 then "\\n"
    else if n = 13 then "\\r"
    else if n < 32 || n ≥ 127 then "\\x" ++ String.ofList (Text.hexPadded 2 n)
    else String.singleton (Char.ofNat n)
  "b" ++ String.singleton quote ++ String.join (bs.map escape) ++ String.singleton quote

/-- The fault of a decoding, if it failed. -/
def base64Fault? (cs : List Char) : Option Base64Fault :=
  match decodeBase64 cs with
  | .error e => some e
  | .ok _ => none

example : (decodeBase64 "aGk=".toList).toOption = some [104, 105] ∧
    base64Fault? "a$$".toList = some (.loneCharacter 1) ∧
    base64Fault? "aGk".toList = some .padding := by
  decide +kernel

example : bytesWritten [255] = "b'\\xff'" ∧ bytesWritten [39] = "b\"'\"" := by
  decide +kernel

end ConsulLookup.Yaml
