/-! Textual IPv4 and IPv6 addresses. -/

namespace ConsulLookup.Address

/-- The pieces of a text between the occurrences of a separator. -/
def splitAt (sep : Char) : List Char → List (List Char)
  | [] => [[]]
  | c :: rest =>
    match splitAt sep rest with
    | [] => [[c]]
    | piece :: pieces => if c = sep then [] :: piece :: pieces else (c :: piece) :: pieces

/-- The text before the first occurrence of a separator, and whether there is one and what
follows it. -/
def partition (sep : Char) (cs : List Char) : List Char × Option (List Char) :=
  match cs.span (· ≠ sep) with
  | (before, _ :: after) => (before, some after)
  | (before, []) => (before, none)

/-- The value of a decimal octet. -/
def octet? (cs : List Char) : Option Nat :=
  if cs.isEmpty || !cs.all Char.isDigit || cs.length > 3 || (cs.length > 1 && cs.head? = some '0')
  then none
  else
    let n := cs.foldl (fun n d => 10 * n + (d.toNat - '0'.toNat)) 0
    if n > 255 then none else some n

/-- The 32-bit value of an IPv4 address. -/
def ipv4? (cs : List Char) : Option Nat :=
  if cs.contains '/' then none
  else match splitAt '.' cs with
    | [a, b, c, d] => do
      let a ← octet? a
      let b ← octet? b
      let c ← octet? c
      let d ← octet? d
      pure (((a * 256 + b) * 256 + c) * 256 + d)
    | _ => none

/-- Whether a character is an ASCII hex digit. -/
def isHexDigit (c : Char) : Bool :=
  c.isDigit || ('a' ≤ c && c ≤ 'f') || ('A' ≤ c && c ≤ 'F')

/-- Whether a text is a hextet: one to four hex digits. -/
def isHextet (cs : List Char) : Bool :=
  !cs.isEmpty && cs.all isHexDigit && cs.length ≤ 4

/-- A 16-bit number as a hextet. -/
def hextetOf (n : Nat) : List Char :=
  Nat.toDigits 16 n

/-- The hextets of an address with its IPv4 tail written out, when that tail is an address. -/
def expandTail (parts : List (List Char)) : Option (List (List Char)) :=
  match parts.getLast? with
  | some last =>
    if last.contains '.' then
      (ipv4? last).map fun v => parts.dropLast ++ [hextetOf (v / 65536), hextetOf (v % 65536)]
    else some parts
  | none => some parts

/-- Whether the hextets of an address without a zone form an IPv6 address. -/
def validHextets (parts : List (List Char)) : Bool :=
  let n := parts.length
  let inner := (List.range n).filter fun i => 0 < i && i + 1 < n && (parts.getD i []).isEmpty
  let firstEmpty := (parts.headD []).isEmpty
  let lastEmpty := (parts.getLastD []).isEmpty
  if n > 9 then false
  else match inner with
    | [] => n = 8 && !firstEmpty && !lastEmpty && parts.all isHextet
    | [skip] =>
      let high := skip
      let low := n - skip - 1
      if firstEmpty && high ≠ 1 then false
      else if lastEmpty && low ≠ 1 then false
      else
        let high := if firstEmpty then 0 else high
        let low := if lastEmpty then 0 else low
        high + low < 8 && (parts.take high).all isHextet && (parts.drop (n - low)).all isHextet
    | _ => false

/-- Whether a text is an IPv6 address, with an optional zone after `%`. -/
def isIpv6 (cs : List Char) : Bool :=
  if cs.contains '/' then false
  else
    let (addr, zone) := partition '%' cs
    let zoneOk := match zone with
      | some z => !z.isEmpty && !z.contains '%'
      | none => true
    if !zoneOk || addr.isEmpty then false
    else
      let parts := splitAt ':' addr
      if parts.length < 3 then false
      else match expandTail parts with
        | some parts => validHextets parts
        | none => false

example : (ipv4? "10.0.0.1".toList).isSome ∧ (ipv4? "01.0.0.1".toList).isNone ∧
    isIpv6 "::1".toList ∧ isIpv6 "fe80::1%eth0".toList ∧ isIpv6 "::ffff:1.2.3.4".toList ∧
    !isIpv6 "1::2::3".toList ∧ !isIpv6 ":1:2:3:4:5:6:7".toList := by
  decide +kernel

end ConsulLookup.Address
