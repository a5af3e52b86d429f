import ConsulLookup.Url.Address
import ConsulLookup.Text.Case
import ConsulLookup.Text.Quoted

/-! Splitting a URL into its parts, and the host and port of its network location. -/

namespace ConsulLookup.Url

/-- The parts of a URL. -/
structure Parts where
  scheme : String
  netloc : String
  path : String
  query : String
  fragment : String

/-- Why a URL, its host or its port is refused. -/
inductive UrlError where
  | invalidIpv6
  | ipvFuture
  | ipv4InBrackets
  | notAddress (host : String)
  | normalization (netloc : String)
  | portText (port : String)
  | portDigits (count : Nat)
  | portRange
  deriving DecidableEq, Repr

/-- The message of a refusal. -/
def UrlError.message : UrlError → String
  | .invalidIpv6 => "Invalid IPv6 URL"
  | .ipvFuture => "IPvFuture address is invalid"
  | .ipv4InBrackets => "An IPv4 address cannot be in brackets"
  | .notAddress host => Text.quote host ++ " does not appear to be an IPv4 or IPv6 address"
  | .normalization netloc =>
    "netloc '" ++ netloc ++ "' contains invalid characters under NFKC normalization"
  | .portText port => "Port could not be cast to integer value as " ++ Text.quote port
  | .portDigits count =>
    "Exceeds the limit (4300 digits) for integer string conversion: value has " ++
      toString count ++ " digits; use sys.set_int_max_str_digits() to increase the limit"
  | .portRange => "Port out of range 0-65535"

/-- Whether a character may stand in a scheme. -/
def isSchemeChar (c : Char) : Bool :=
  (c.isAlpha && c.toNat < 128) || c.isDigit || c = '+' || c = '-' || c = '.'

/-- The characters whose compatibility form holds one of `/ ? # @ :`, so that they could stand
for a delimiter once a network location is normalized. -/
def delimiterLookalikes : List Nat :=
  [0x2047, 0x2048, 0x2049, 0x2100, 0x2101, 0x2105, 0x2106, 0x2A74, 0xFE13, 0xFE16, 0xFE55,
    0xFE56, 0xFE5F, 0xFE6B, 0xFF03, 0xFF0F, 0xFF1A, 0xFF1F, 0xFF20]

/-- Whether an `IPvFuture` host is well formed: `v`, hex digits, a point and at least one more
character. -/
def isIpvFuture : List Char → Bool
  | 'v' :: rest =>
    let (hex, after) := rest.span Address.isHexDigit
    match after with
    | '.' :: tail => !hex.isEmpty && !tail.isEmpty && !tail.contains '\n'
    | _ => false
  | _ => false

/-- Checks the host between brackets: an `IPvFuture` host when it starts with `v`, else an IPv6
address (an IPv4 address is refused there). -/
def checkBracketed (host : List Char) : Except UrlError Unit :=
  if host.head? = some 'v' then
    if isIpvFuture host then .ok () else .error .ipvFuture
  else if (Address.ipv4? host).isSome then .error .ipv4InBrackets
  else if Address.isIpv6 host then .ok ()
  else .error (.notAddress (String.ofList host))

/-- Checks the brackets of a network location: they come in pairs, and when there are any, the
host after the user information is checked as an address. A bracket opening the host must stand
first and its closing one be followed by nothing or a port; a host with no bracket runs to the
first colon. -/
def checkBrackets (netloc : List Char) : Except UrlError Unit :=
  let opens := netloc.contains '['
  let closes := netloc.contains ']'
  if opens != closes then .error .invalidIpv6
  else if opens then
    let info := (Address.partition '@' netloc.reverse).1.reverse
    match Address.partition '[' info with
    | (before, some bracketed) =>
      let (host, after) := Address.partition ']' bracketed
      let port := after.getD []
      if !before.isEmpty then .error .invalidIpv6
      else if !port.isEmpty && port.head? != some ':' then .error .invalidIpv6
      else checkBracketed host
    | (_, none) => checkBracketed (Address.partition ':' info).1
  else .ok ()

/-- Checks that no character of a network location stands for a delimiter once normalized. -/
def checkNormalized (netloc : List Char) : Except UrlError Unit :=
  if netloc.all (·.toNat < 128) then .ok ()
  else if netloc.any fun c => delimiterLookalikes.contains c.toNat then
    .error (.normalization (String.ofList netloc))
  else .ok ()

/-- The scheme at the front of a URL and the rest, when there is one. -/
def schemeOf? (cs : List Char) : Option (List Char × List Char) :=
  match Address.partition ':' cs with
  | (first :: more, some rest) =>
    if first.isAlpha && first.toNat < 128 && more.all isSchemeChar then
      some ((first :: more).map Char.toLower, rest)
    else none
  | _ => none

/-- Splits a URL into its parts. -/
def split (url : String) : Except UrlError Parts :=
  let cs := (url.toList.dropWhile (·.toNat ≤ 0x20)).filter fun c => c ≠ '\t' && c ≠ '\r' && c ≠ '\n'
  let (scheme, rest) := (schemeOf? cs).getD ([], cs)
  let located : Except UrlError (List Char × List Char) :=
    match rest with
    | '/' :: '/' :: after =>
      let (netloc, remaining) := after.span fun c => c ≠ '/' && c ≠ '?' && c ≠ '#'
      (checkBrackets netloc).map fun _ => (netloc, remaining)
    | _ => .ok ([], rest)
  match located with
  | .error e => .error e
  | .ok (netloc, remaining) =>
    let (beforeFragment, fragment) := Address.partition '#' remaining
    let (path, query) := Address.partition '?' beforeFragment
    match checkNormalized netloc with
    | .error e => .error e
    | .ok () => .ok ⟨String.ofList scheme, String.ofList netloc, String.ofList path,
        String.ofList (query.getD []), String.ofList (fragment.getD [])⟩

/-- The text after the last occurrence of a character, or all of it when there is none. -/
def afterLast (sep : Char) (cs : List Char) : List Char :=
  (Address.partition sep cs.reverse).1.reverse

/-- The host and port texts of a network location, after any user information; a host in
brackets loses them, and an empty port is none. -/
def hostInfo (netloc : String) : List Char × Option (List Char) :=
  let info := afterLast '@' netloc.toList
  let (host, port) := match Address.partition '[' info with
    | (_, some bracketed) =>
      let (host, after) := Address.partition ']' bracketed
      (host, (Address.partition ':' (after.getD [])).2.getD [])
    | (_, none) =>
      let (host, port) := Address.partition ':' info
      (host, port.getD [])
  (host, if port.isEmpty then none else some port)

/-- The host of a URL's parts in lower case, a zone after `%` kept as it is; none when empty. -/
def Parts.hostname (p : Parts) : Option String :=
  let host := (hostInfo p.netloc).1
  if host.isEmpty then none
  else
    let (name, zone) := Address.partition '%' host
    some (Text.toLower (String.ofList name) ++
      match zone with
      | some z => "%" ++ String.ofList z
      | none => "")

/-- The port of a URL's parts: ASCII digits (at most 4300 of them) of a number up to 65535, or
none. -/
def Parts.port (p : Parts) : Except UrlError (Option Nat) :=
  match (hostInfo p.netloc).2 with
  | none => .ok none
  | some cs =>
    if cs.all Char.isDigit then
      if cs.length > 4300 then .error (.portDigits cs.length) else
      let n := cs.foldl (fun n d => 10 * n + (d.toNat - '0'.toNat)) 0
      if n ≤ 65535 then .ok (some n) else .error .portRange
    else .error (.portText (String.ofList cs))

example : (split "HTTP://h:81/p?q=1#f").toOption.map (fun p => (p.scheme, p.netloc, p.query)) =
    some ("http", "h:81", "q=1") := by
  decide +kernel

end ConsulLookup.Url
