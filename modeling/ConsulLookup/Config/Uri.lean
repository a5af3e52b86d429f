import ConsulLookup.Config.Model
import ConsulLookup.Url.Split
import ConsulLookup.Query
import ConsulLookup.Json.Reader

/-! Connection settings from a bootstrap URI, its query values read as JSON. -/

namespace ConsulLookup

/-- Why a bootstrap URI gives no settings. -/
inductive UriError where
  | url (e : Url.UrlError)
  | noHost (uri : String)
  | tooDeep (n : Json.Nesting)
  | config (e : ConfigError)
  deriving DecidableEq, Repr

/-- The kind of a refusal. -/
def UriError.kind : UriError → String
  | .tooDeep _ => "RecursionError"
  | .config (.issues _) => "PydanticValidationError"
  | .config (.notMergeable _) => "TypeError"
  | _ => "ValueError"

/-- The message of a refusal. -/
def UriError.message : UriError → String
  | .url e => e.message
  | .noHost uri => "Consul URI has no host: " ++ uri
  | .tooDeep n => n.message
  | .config e => e.message

/-- The levels of nesting that reading a query value shares with the calls it is read under:
every call between the outermost one and the reading takes one level, and the lists and objects
of the value take the rest. -/
def nestingBudget : Nat := 999

/-- How deep the lists and objects of a query value may nest when it is read `calls` calls deep. -/
def queryRoom (calls : Nat) : Nat :=
  nestingBudget - calls

/-- A query value: the JSON value it spells, or else the text itself; a value whose lists and
objects nest deeper than `room` is refused. -/
def queryValue (room : Nat) (s : String) : Except UriError Value :=
  match Json.read room s with
  | .ok v => .ok v
  | .error .malformed => .ok (.str s)
  | .error (.tooDeep n) => .error (.tooDeep n)

/-- The port to use: the given one unless it is missing or zero, else the scheme's own. -/
def effectivePort (secure : Bool) : Option Nat → Nat
  | some p => if p = 0 then (if secure then 443 else 80) else p
  | none => if secure then 443 else 80

/-- The settings a bootstrap URI gives, its query values nesting at most `room` deep. -/
def ConnectionConfig.ofUri (room : Nat) (uri : String) : Except UriError ConnectionConfig :=
  match Url.split uri with
  | .error e => .error (.url e)
  | .ok parts =>
    match parts.hostname with
    | none => .error (.noHost uri)
    | some host =>
      match parts.port with
      | .error e => .error (.url e)
      | .ok port => do
        let secure := parts.scheme == "https"
        let pairs ← (Query.pairs false parts.query).mapM fun (k, v) => (k, ·) <$> queryValue room v
        let settings : Value := .obj [("host", .str host),
          ("port", .int (effectivePort secure port)), ("secure", .bool secure),
          ("defaults", .obj (Bag.ofList pairs))]
        (ConnectionConfig.ofValue settings).mapError .config

end ConsulLookup
