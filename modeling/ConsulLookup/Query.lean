import ConsulLookup.Value.Basic
import ConsulLookup.Text.Utf8
import ConsulLookup.Json.Reader
import ConsulLookup.Text.LoneUnit

/-! Query strings decoded into a bag of names and values. -/

namespace ConsulLookup.Query

/-- The octets an ASCII run stands for: `%` and two hexadecimal digits give one octet, any
other character (a `%` included) its own code. -/
def runOctets : List Char → List Nat
  | '%' :: a :: b :: rest =>
    match Json.hexValue? a, Json.hexValue? b with
    | some x, some y => (16 * x + y) :: runOctets rest
    | _, _ => '%'.toNat :: runOctets (a :: b :: rest)
  | c :: rest => c.toNat :: runOctets rest
  | [] => []

/-- Percent-decodes a text after an ASCII run `run` (reversed) read so far: a character past
ASCII ends the run and stands as it is. -/
def unquoteAfter : List Char → List Char → List Char
  | run, [] => decodeRun run
  | run, c :: rest =>
    if c.toNat < 0x80 then unquoteAfter (c :: run) rest
    else decodeRun run ++ c :: unquoteAfter [] rest
where
  /-- The characters an ASCII run (reversed) stands for, in the form text holds them. -/
  decodeRun (run : List Char) : List Char :=
    (Utf8.decodeLossy (runOctets run.reverse)).flatMap Text.charChars

/-- Percent-decodes a text, one ASCII run at a time. -/
def unquote (cs : List Char) : List Char :=
  unquoteAfter [] cs

/-- One name or value: `+` is a space, then percent-decoding. -/
def decodePart (s : List Char) : String :=
  String.ofList (unquote (s.map fun c => if c = '+' then ' ' else c))

/-- The name and value of one segment, split at its first `=`; `none` when there is no `=`. -/
def splitPair (segment : List Char) : List Char × Option (List Char) :=
  match segment.span (· ≠ '=') with
  | (name, []) => (name, none)
  | (name, _ :: value) => (name, some value)

/-- The decoded pairs of a query. With `keepBlank` a segment without `=` has an empty value and
an empty value is kept; without it both are skipped. -/
def pairs (keepBlank : Bool) (query : String) : List (String × String) :=
  let segments := if query.isEmpty then [] else query.toList.splitOn '&'
  segments.filterMap fun segment =>
    if segment.isEmpty then none
    else match splitPair segment with
      | (name, some value) =>
        if value.isEmpty && !keepBlank then none else some (decodePart name, decodePart value)
      | (name, none) => if keepBlank then some (decodePart name, "") else none

/-- The option bag of a query: each decoded pair as a text value, the last of a name winning,
blank values kept. -/
def decode (query : String) : Bag :=
  Bag.ofList ((pairs true query).map fun (k, v) => (k, .str v))

example : runOctets ['%', 'e', '6', '%', '%', '4', '1', '%', 'z'] = [0xE6, 0x25, 0x41, 0x25, 0x7A] := by
  decide

end ConsulLookup.Query
