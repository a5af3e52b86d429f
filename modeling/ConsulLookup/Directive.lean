import ConsulLookup.State
import ConsulLookup.Config.Model

/-! Directives that resolve the references `$<strategy>:<expression>` of a host. -/

namespace ConsulLookup

/-- A reference of the host's configuration: its strategy, its expression, and where in the tree
it stands. -/
structure DirectiveContext where
  strategy : String
  expression : String
  path : List Value

/-- What a directive resolves a context to: a live lookup, or a plain value. -/
inductive Resolution where
  | lookup (m : Manager Unit)
  | value (v : Value)

/-- Why the lookup directive resolves nothing: the expression makes no request, or the first
fetch failed. -/
inductive DirectiveError where
  | request (e : RequestError)
  | connection (method : String) (cause : Fault)

/-- The message of a directive error. -/
def DirectiveError.message : DirectiveError → String
  | .request e => e.message
  | .connection method cause =>
    "Failed to retrieve '" ++ method ++ "' from Consul: " ++ cause.message

/-- What handling a context gives the host, with the backend calls it made on the way. -/
structure Handling where
  result : Except DirectiveError Resolution
  calls : List BackendCall

/-- The lookup directive over one connection: expressions name operations of `operations`, and
the connection's defaults stand under the options of every expression. -/
structure LookupDirective where
  config : ConnectionConfig
  operations : Registry

namespace LookupDirective

/-- The strategy of the lookup directive. -/
def strategy : String := "consul"

/-- The lookup directive over a connection with the built-in operations. -/
def ofConfig (config : ConnectionConfig) : LookupDirective :=
  ⟨config, Registry.builtin⟩

/-- A listener-free lookup does nothing when told of a change. -/
def silent : Unit → Payload → Reaction Unit :=
  fun _ _ => ⟨[], none⟩

/-- The manager of an expression's request, before any fetch. -/
def prepare (d : LookupDirective) (expression : Value) : Except DirectiveError (Manager Unit) :=
  match parseRequest d.operations (Mapping.ofBag d.config.defaults) expression with
  | .error e => .error (.request e)
  | .ok q => .ok (Manager.create q)

/-- Takes in the outcome of the first fetch. A failure is an error unless the request says to
ignore it; the manager then holds no value. -/
def begin (m : Manager Unit) (outcome : Except Fault Fetched) : Except DirectiveError (Manager Unit) :=
  let (m', _, (failure, _)) := m.refresh silent outcome
  match failure with
  | some f =>
    if m.request.ignoreStartupNodata then .ok m' else .error (.connection m.request.method f)
  | none => .ok m'

/-- Parses an expression and fetches once with the backend's outcome, with the fetch made. -/
def start (d : LookupDirective) (expression : Value) (outcome : Except Fault Fetched) :
    Except DirectiveError (Manager Unit) × List BackendCall :=
  match d.prepare expression with
  | .error e => (.error e, [])
  | .ok m => (begin m outcome, [m.fetchCall])

/-- Starts a lookup and then its watch, when the request asks for one. -/
def resolve (d : LookupDirective) (expression : Value) (outcome : Except Fault Fetched) :
    Except DirectiveError (Manager Unit) × List BackendCall :=
  match d.start expression outcome with
  | (.ok m, calls) =>
    let (m', watch) := m.startWatch
    (.ok m', calls ++ watch.toList)
  | (.error e, calls) => (.error e, calls)

end LookupDirective

/-- The directives a registry holds: the lookup directive, or a literal one that resolves every
expression to its own text. -/
inductive Directive where
  | lookup (d : LookupDirective)
  | literal

/-- Handles a context: the host is called back once, with the resolution or the error. -/
def Directive.handle (d : Directive) (ctx : DirectiveContext) (outcome : Except Fault Fetched) :
    Handling :=
  match d with
  | .lookup l =>
    let (result, calls) := l.resolve (.str ctx.expression) outcome
    ⟨result.map .lookup, calls⟩
  | .literal => ⟨.ok (.value (.str ctx.expression)), []⟩

/-- A context whose strategy has no directive. -/
structure UnregisteredStrategy where
  strategy : String

/-- The message of a context whose strategy has no directive. -/
def UnregisteredStrategy.message (e : UnregisteredStrategy) : String :=
  "No directive registered for strategy: " ++ e.strategy

/-- The directives by strategy, in the order of first registration. -/
structure DirectiveRegistry where
  entries : List (String × Directive)

namespace DirectiveRegistry

/-- The registry without directives. -/
def empty : DirectiveRegistry :=
  ⟨[]⟩

/-- Registers a directive for a strategy: it replaces one registered before, in its place. -/
def register (r : DirectiveRegistry) (strategy : String) (d : Directive) : DirectiveRegistry :=
  if r.entries.any (·.1 == strategy) then
    ⟨r.entries.map fun (s, e) => if s == strategy then (s, d) else (s, e)⟩
  else ⟨r.entries ++ [(strategy, d)]⟩

/-- The registered strategies, in the order of first registration. -/
def strategies (r : DirectiveRegistry) : List String :=
  r.entries.map (·.1)

/-- The directive of a strategy. -/
def get? (r : DirectiveRegistry) (strategy : String) : Option Directive :=
  r.entries.lookup strategy

/-- The context of a reference at a place in the tree, when it is a reference and a directive
handles its strategy. -/
def contextFor (r : DirectiveRegistry) (reference : String) (path : List Value) :
    Option DirectiveContext :=
  match Reference.split? reference with
  | some (strategy, expression) =>
    if (r.get? strategy).isSome then some ⟨strategy, expression, path⟩ else none
  | none => none

/-- Handles a context with the directive of its strategy. -/
def handle (r : DirectiveRegistry) (ctx : DirectiveContext) (outcome : Except Fault Fetched) :
    Except UnregisteredStrategy Handling :=
  match r.get? ctx.strategy with
  | some d => .ok (d.handle ctx outcome)
  | none => .error ⟨ctx.strategy⟩

end DirectiveRegistry

end ConsulLookup
