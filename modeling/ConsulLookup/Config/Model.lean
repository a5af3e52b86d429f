import ConsulLookup.Options.Coerce
import ConsulLookup.Value.Display
import ConsulLookup.Operation.Descriptor
import ConsulLookup.Call
import ConsulLookup.Yaml.Data
import ConsulLookup.Text.Utf8

/-! Connection settings and the option defaults they hold, read from YAML data. -/

namespace ConsulLookup

/-- Where and how to reach the agent, and the defaults of every request. -/
structure ConnectionConfig where
  host : String
  port : Int
  secure : Bool
  verify : Bool
  defaults : Bag

/-- Why settings are refused: issues with their fields, or defaults that are not an object while
other keys have to be merged into them. -/
inductive ConfigError where
  | issues (issues : List Issue)
  | notMergeable (typeName : String)
  deriving DecidableEq, Repr

/-- The message of a refusal. -/
def ConfigError.message : ConfigError → String
  | .issues found => renderIssues found
  | .notMergeable typeName => "'" ++ typeName ++ "' object is not a mapping"

namespace ConnectionConfig

/-- The settings when nothing is given: plain HTTP to port 8500 of the local host. -/
def standard : ConnectionConfig :=
  ⟨"localhost", 8500, false, true, []⟩

/-- `https` for a secure connection, `http` otherwise. -/
def scheme (c : ConnectionConfig) : String :=
  if c.secure then "https" else "http"

/-- The names of the settings, in the order they are checked. -/
def settingNames : List String :=
  ["host", "port", "secure", "verify", "defaults"]

/-- The options that may have defaults. -/
def defaultableOptions : List String :=
  ["dc", "wan", "consistent", "stale", "wait", "token"]

/-- The defaultable options that hold texts. -/
def textOptions : List String :=
  ["dc", "wait", "token"]

open Yaml in
/-- Whether a key names a setting: a text that is one of the names. -/
def isSetting : Datum → Bool
  | .str name => settingNames.contains name
  | _ => false

open Yaml in
/-- The settings with the keys that name no setting moved into a new mapping of defaults, over
which the entries of the `defaults` setting are set; the store gains that mapping. -/
def gather (s : Store) (entries : List (Datum × Datum)) :
    Except ConfigError (Store × List (Datum × Datum)) :=
  let extras := entries.filter fun (k, _) => !isSetting k
  if extras.isEmpty then .ok (s, entries)
  else
    let settings := entries.filter fun (k, _) => isSetting k
    let given := (settings.find? fun (k, _) => k.sameKey (.str "defaults")).map (·.2)
    let merged : Except ConfigError (List (Datum × Datum)) := match given with
      | none => .ok extras
      | some d =>
        match s.entries? d with
        | some own => .ok (own.foldl (fun acc (k, v) => setEntry acc k v) extras)
        | none => .error (.notMergeable (s.kindName d))
    match merged with
    | .error e => .error e
    | .ok defaults =>
      let (s, place) := s.add (.map defaults)
      .ok (s, setEntry settings (.str "defaults") (.ref place))

/-- The text of bytes when they are UTF-8. -/
def utf8Text? (bs : List UInt8) : Option String :=
  (Utf8.decodeStrictFrom 0 (bs.map UInt8.toNat)).toOption.map Text.ofChars

open Yaml in
/-- A datum as a value the coercions read: a scalar of a JSON kind as itself, bytes as their
text when they are UTF-8 (else `invalidBytes`), and any other datum as a list, which is of no
kind a setting takes. -/
def coercible (invalidBytes : Problem) : Datum → Except Problem Value
  | .null => .ok .null
  | .bool b => .ok (.bool b)
  | .int n => .ok (.int n)
  | .float x => .ok (.float x)
  | .nan _ => .ok (.float (0.0 / 0.0))
  | .str t => .ok (.str t)
  | .bytes bs =>
    match utf8Text? bs with
    | some t => .ok (.str t)
    | none => .error invalidBytes
  | _ => .ok (.list [])

/-- A datum as a text setting. -/
def textSetting (d : Yaml.Datum) : Except Problem String :=
  (coercible .textEncoding d).bind Coerce.text

/-- A datum as an integer setting. -/
def integerSetting (d : Yaml.Datum) : Except Problem Int :=
  (coercible .integerText d).bind Coerce.integer

/-- A datum as a flag setting. -/
def flagSetting (d : Yaml.Datum) : Except Problem Bool :=
  (coercible .flagText d).bind Coerce.flag

/-- A list of texts as messages write it. -/
def textList (xs : List String) : String :=
  (Value.list (xs.map Value.str)).written

open Yaml in
/-- Where a key of the defaults is reported: a text as itself, an integer (a boolean as zero or
one) by its digits, any other datum by its written form. -/
def keyLocation (s : Store) : Datum → String
  | .str t => t
  | .int n => Value.intText n
  | .bool b => if b then "1" else "0"
  | d => ((s.written (s.depth) [] d).toOption).getD ""

open Yaml in
/-- The keys of the defaults as texts, the entries keeping their order (a later value for the
same text wins), or the issues of the keys that are no texts. -/
def defaultKeys (s : Store) (entries : List (Datum × Datum)) :
    Except (List Issue) (List (String × Datum)) :=
  let checked := entries.map fun (k, v) => (k, textSetting k, v)
  let issues := checked.filterMap fun (k, t, _) => match t with
    | .error p => some ⟨["defaults", keyLocation s k, "[key]"], p⟩
    | .ok _ => none
  if !issues.isEmpty then .error issues
  else .ok (checked.foldl (fun acc (_, t, v) => match t with
    | .ok key => if acc.any (·.1 == key) then acc.map fun (k, w) => if k == key then (k, v) else (k, w)
      else acc ++ [(key, v)]
    | .error _ => acc) [])

open Yaml in
/-- The defaults as kept: only defaultable options, without nulls, the text options as the texts
of their data (which fails for an integer too long to write) and the others as values. -/
def checkDefaults (s : Store) (d : List (String × Datum)) : Except Problem Bag :=
  let unsupported := sortedSet ((d.map (·.1)).filter fun k => !defaultableOptions.contains k)
  if !unsupported.isEmpty then
    .error (.refused ("Unsupported default option(s) " ++ textList unsupported ++
      ", expected some of " ++ textList defaultableOptions))
  else
    d.filterMapM fun (k, v) =>
      match v with
      | .null => .ok none
      | .str t => .ok (some (k, .str t))
      | _ =>
        if textOptions.contains k then
          match s.text v with
          | .ok t => .ok (some (k, .str t))
          | .error reason => .error (.refused reason)
        else .ok (some (k, s.value v))

open Yaml in
/-- A datum as the defaults setting: a mapping whose keys are texts. -/
def defaultsOf (s : Store) (d : Datum) : Except (List Issue) Bag :=
  match s.entries? d with
  | none => .error [⟨["defaults"], .notMapping⟩]
  | some entries =>
    match defaultKeys s entries with
    | .error issues => .error issues
    | .ok keyed => (checkDefaults s keyed).mapError fun p => [⟨["defaults"], p⟩]

/-- One setting: its coerced value, its default when absent, or its issues. -/
def setting {α : Type} (entries : List (Yaml.Datum × Yaml.Datum)) (name : String)
    (coerce : Yaml.Datum → Except (List Issue) α) (default : α) : Except (List Issue) α :=
  match (entries.find? fun (k, _) => k.sameKey (.str name)).map (·.2) with
  | none => .ok default
  | some v => coerce v

/-- A coercion whose problem is reported at the setting's name. -/
def atName {α : Type} (name : String) (coerce : Yaml.Datum → Except Problem α) :
    Yaml.Datum → Except (List Issue) α :=
  fun d => (coerce d).mapError fun p => [⟨[name], p⟩]

/-- The issues of a setting, if it has any. -/
def issuesOf {α : Type} : Except (List Issue) α → List Issue
  | .ok _ => []
  | .error is => is

open Yaml in
/-- Reads settings from a datum of a store: it must be a mapping, and each setting that is
present must be of its kind. Every issue is reported, in the order of the settings. -/
def read (s : Store) (d : Datum) : Except ConfigError ConnectionConfig :=
  match s.entries? d with
  | some raw =>
    match gather s raw with
    | .error e => .error e
    | .ok (s, entries) =>
      let host := setting entries "host" (atName "host" textSetting) standard.host
      let port := setting entries "port" (atName "port" integerSetting) standard.port
      let secure := setting entries "secure" (atName "secure" flagSetting) standard.secure
      let verify := setting entries "verify" (atName "verify" flagSetting) standard.verify
      let defaults := setting entries "defaults" (defaultsOf s) standard.defaults
      match host, port, secure, verify, defaults with
      | .ok h, .ok p, .ok sec, .ok v, .ok dfl => .ok ⟨h, p, sec, v, dfl⟩
      | _, _, _, _, _ =>
        .error (.issues (issuesOf host ++ issuesOf port ++ issuesOf secure ++ issuesOf verify ++
          issuesOf defaults))
  | none => .error (.issues [⟨[], .notModel "ConsulConfigModel"⟩])

/-- Reads settings from a JSON value. -/
def ofValue (v : Value) : Except ConfigError ConnectionConfig :=
  let (s, d) := Yaml.Store.ofValue #[] v
  read s d

/-- The settings as an object of their fields, in the order they are declared. -/
def dump (c : ConnectionConfig) : Value :=
  .obj [("host", .str c.host), ("port", .int c.port), ("secure", .bool c.secure),
    ("verify", .bool c.verify), ("defaults", .obj c.defaults)]

/-- The settings as an object, with the scheme they imply. -/
def toValue (c : ConnectionConfig) : Value :=
  .obj [("host", .str c.host), ("port", .int c.port), ("secure", .bool c.secure),
    ("verify", .bool c.verify), ("defaults", .obj c.defaults), ("scheme", .str c.scheme)]

end ConnectionConfig

/-- What the agent's client is made with: where it connects, whether it checks certificates,
and the token, datacenter and consistency of every request. -/
structure ClientSettings where
  host : String
  port : Int
  scheme : String
  verify : Bool
  token : Option Value
  dc : Option Value
  consistency : String

/-- The client settings of connection settings: the token and datacenter from the defaults, and
the consistency the `consistent` and `stale` defaults ask for, `default` when neither does. -/
def ConnectionConfig.client (c : ConnectionConfig) : ClientSettings :=
  let flag (k : String) := (c.defaults.get? k).getD .null
  ⟨c.host, c.port, c.scheme, c.verify, c.defaults.get? "token", c.defaults.get? "dc",
    (Call.consistency (flag "consistent") (flag "stale")).getD "default"⟩

/-- How many times a client's session is closed when it is cleaned up `n` times after use:
once, by the first clean-up, which also drops the client. -/
def sessionCloses (n : Nat) : Nat :=
  min n 1

example : (ConnectionConfig.ofValue (.obj [("port", .str "x")])).toOption.isNone = true := by
  decide +kernel

end ConsulLookup
