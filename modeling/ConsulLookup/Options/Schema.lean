import ConsulLookup.Options.Coerce
import ConsulLookup.Value.Mapping

/-! Option schemas and the validation of a bag against one. -/

namespace ConsulLookup

/-- The kind of value a field holds. -/
inductive FieldKind where
  | text
  | flag
  | integer
  | choice (choices : List String)
  deriving DecidableEq, Repr

/-- Whether a field must be given, may be left out (null standing for absent), or has a
default. -/
inductive Presence where
  | required
  | optional
  | defaulted (value : Value)

/-- A field of a schema, by the name it has in a bag. -/
structure Field where
  name : String
  kind : FieldKind
  presence : Presence

/-- A named schema: the shared fields, then its own. -/
structure Schema where
  name : String
  own : List Field

namespace Field

/-- Coerces a present value to the field's kind. -/
def coerce (f : Field) (v : Value) : Except Problem Value :=
  match f.kind with
  | .text => (Coerce.text v).map Value.str
  | .flag => (Coerce.flag v).map Value.bool
  | .integer => (Coerce.integer v).map Value.int
  | .choice cs => (Coerce.choice cs v).map Value.str

/-- The default a field shows: null for a required or optional field. -/
def defaultValue (f : Field) : Value :=
  match f.presence with
  | .defaulted v => v
  | _ => .null

/-- Whether a field must be given. -/
def isRequired (f : Field) : Bool :=
  match f.presence with
  | .required => true
  | _ => false

/-- What a field contributes to a validated bag given the bag's value for it: an entry, nothing,
or an issue at its name. -/
def check (f : Field) : Option Value → Except Issue (Option Value)
  | none => match f.presence with
    | .required => .error ⟨[f.name], .missing⟩
    | .optional => .ok none
    | .defaulted v => .ok (some v)
  | some v => match f.presence, v with
    | .optional, .null => .ok none
    | _, _ => match f.coerce v with
      | .ok w => .ok (some w)
      | .error p => .error ⟨[f.name], p⟩

end Field

namespace Schema

/-- The options every operation shares. -/
def shared : List Field :=
  [⟨"dc", .text, .optional⟩,
   ⟨"wan", .flag, .defaulted (.bool false)⟩,
   ⟨"consistent", .flag, .defaulted (.bool false)⟩,
   ⟨"stale", .flag, .defaulted (.bool false)⟩,
   ⟨"index", .text, .optional⟩,
   ⟨"wait", .text, .optional⟩,
   ⟨"token", .text, .optional⟩,
   ⟨"mode", .choice ["once", "watch"], .defaulted (.str "once")⟩,
   ⟨"ignoreStartupNodata", .flag, .defaulted (.bool false)⟩]

/-- All fields of a schema, the shared ones first. -/
def fields (s : Schema) : List Field :=
  shared ++ s.own

/-- The names of all fields. -/
def fieldNames (s : Schema) : List String :=
  s.fields.map (·.name)

/-- Whether a field is one of the shared ones. -/
def isShared (name : String) : Bool :=
  shared.any (·.name == name)

/-- The issues and the entries of a bag's fields, in field order. -/
def checkFields (raw : Mapping) : List Field → List Issue × Bag
  | [] => ([], [])
  | f :: rest =>
    let (issues, entries) := checkFields raw rest
    match f.check (raw.get? (.str f.name)) with
    | .ok (some v) => (issues, (f.name, v) :: entries)
    | .ok none => (issues, entries)
    | .error i => (i :: issues, entries)

/-- Where a key that is no text is reported: an integer (a boolean as zero or one) by its digits,
any other value by its written form. -/
def keyLocation : Value → String
  | .int n => Value.intText n
  | .bool b => if b then "1" else "0"
  | v => v.written

/-- The issue of a key of a bag, if it is no field or no text. -/
def keyIssue? (s : Schema) : Value → Option Issue
  | .str k => if s.fieldNames.contains k then none else some ⟨[k], .extra⟩
  | k => some ⟨[keyLocation k], .keyNotText⟩

/-- Whether a key is a text with a lone unit, which cannot be read as a name at all. -/
def unreadableKey : Value → Bool
  | .str k => Text.hasLoneUnit k
  | _ => false

/-- Validates a bag: the validated bag in field order, or the issues: those of the fields, then
those of the keys in their order. A key with a lone unit makes the whole bag unreadable, and that
is the only issue then. -/
def validate (s : Schema) (raw : Mapping) : Except (List Issue) Bag :=
  let (issues, entries) := checkFields raw s.fields
  let unknown := raw.filterMap fun (k, _) => s.keyIssue? k
  if raw.any (unreadableKey ·.1) then .error [⟨[], .textEncoding⟩]
  else if issues.isEmpty && unknown.isEmpty then .ok entries else .error (issues ++ unknown)

/-- The description of each field: whether it is required, its default, and whether it is
shared. -/
def describe (s : Schema) : List (String × Bool × Value × Bool) :=
  s.fields.map fun f => (f.name, f.isRequired, f.defaultValue, isShared f.name)

/-- The schema of the shared options alone. -/
def base : Schema := ⟨"BaseOptions", []⟩

/-- The schema of an operation on one node. -/
def node : Schema := ⟨"NodeOptions", [⟨"node", .text, .required⟩]⟩

/-- The schema of operations on one service. -/
def service : Schema := ⟨"ServiceOptions", [⟨"service", .text, .required⟩]⟩

/-- The schema of operations on one prepared query. -/
def query : Schema := ⟨"QueryOptions", [⟨"query", .text, .required⟩]⟩

/-- The schema of reading an ACL token. -/
def aclGet : Schema := ⟨"AclGetOptions", [⟨"id", .text, .required⟩]⟩

/-- The schema of listing nodes. -/
def nodeList : Schema := ⟨"NodeListOptions", [⟨"near", .text, .optional⟩]⟩

/-- The schema of listing the nodes of a service. -/
def serviceNodes : Schema :=
  ⟨"ServiceNodesOptions", service.own ++ [⟨"tag", .text, .optional⟩, ⟨"near", .text, .optional⟩]⟩

/-- The schema of the health of a service. -/
def healthService : Schema :=
  ⟨"HealthServiceOptions", serviceNodes.own ++ [⟨"passing", .flag, .optional⟩]⟩

/-- The schema of checks in a state. -/
def healthState : Schema :=
  ⟨"HealthStateOptions", [⟨"state", .choice ["any", "passing", "warning", "critical"], .required⟩]⟩

/-- The schema of listing events. -/
def eventList : Schema := ⟨"EventListOptions", [⟨"name", .text, .optional⟩]⟩

/-- The schema of reading keys and values. -/
def kvGet : Schema :=
  ⟨"KvGetOptions", [⟨"key", .text, .defaulted (.str "")⟩, ⟨"recurse", .flag, .optional⟩,
    ⟨"separator", .text, .optional⟩]⟩

/-- The schema of listing keys. -/
def kvKeys : Schema :=
  ⟨"KvKeysOptions", [⟨"key", .text, .defaulted (.str "")⟩, ⟨"separator", .text, .optional⟩]⟩

/-- The schema of executing a prepared query. -/
def queryExecute : Schema :=
  ⟨"QueryExecuteOptions", query.own ++ [⟨"near", .text, .optional⟩, ⟨"limit", .integer, .optional⟩]⟩

/-- The schema of reading a session. -/
def sessionGet : Schema := ⟨"SessionGetOptions", [⟨"id", .text, .required⟩]⟩

/-- Every schema. -/
def all : List Schema :=
  [base, aclGet, node, nodeList, service, serviceNodes, healthService, healthState, eventList,
   kvGet, kvKeys, query, queryExecute, sessionGet]

/-- The schema of a name. -/
def named? (name : String) : Option Schema :=
  all.find? (·.name == name)

end Schema

/-- The options that steer the lookup itself and are never sent with a call. -/
def lookupOnlyOptions : List String := ["mode", "ignoreStartupNodata"]

/-- A validated bag without the options that steer the lookup itself. -/
def backendOptions (b : Bag) : Bag :=
  b.restrict fun k => !lookupOnlyOptions.contains k

end ConsulLookup
