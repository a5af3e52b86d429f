import ConsulLookup.Expression
import ConsulLookup.Query
import ConsulLookup.Operation.Registry
import ConsulLookup.Options.Schema

/-! Requests: an expression parsed against a registry and validated. -/

namespace ConsulLookup

/-- Why an expression makes no request. -/
inductive RequestError where
  | expression (e : ExpressionError)
  | unknownOperation (name : Value)
  | unhashableName (typeName : String)
  | invalidOptions (operation : String) (issues : List Issue)

/-- The message of a request error. -/
def RequestError.message : RequestError → String
  | .expression e => e.message
  | .unknownOperation name => "The supplied operation is invalid: " ++ name.written
  | .unhashableName typeName => "unhashable type: '" ++ typeName ++ "'"
  | .invalidOptions operation issues =>
    "Invalid options for '" ++ operation ++ "': " ++ renderIssues issues

/-- A validated request for one operation. -/
structure Request where
  operation : Descriptor
  options : Bag

namespace Request

/-- The canonical name of the operation. -/
def method (r : Request) : String :=
  r.operation.name

/-- The mode the request asks for, `once` unless the bag says otherwise. -/
def mode (r : Request) : String :=
  match r.options.get? "mode" with
  | some (.str m) => m
  | _ => "once"

/-- Whether the request asks to be watched. -/
def watch (r : Request) : Bool :=
  r.mode == "watch"

/-- Whether a failed first fetch is ignored. -/
def ignoreStartupNodata (r : Request) : Bool :=
  ((r.options.get? "ignoreStartupNodata").map Value.truthy).getD false

/-- The options sent with a call. -/
def backendOptions (r : Request) : Bag :=
  ConsulLookup.backendOptions r.options

end Request

/-- Validates a raw bag against a schema, naming `operation` in the error. -/
def validateOptions (schema : Schema) (raw : Mapping) (operation : String) :
    Except RequestError Bag :=
  match schema.validate raw with
  | .ok b => .ok b
  | .error issues => .error (.invalidOptions operation issues)

/-- The descriptor a name resolves to, if any: a value that is no text names no operation, and
a list or an object cannot name one. -/
def Registry.find (r : Registry) (name : Value) : Except RequestError (Option Descriptor) :=
  match name with
  | .str n => .ok (r.resolve n)
  | .list _ => .error (.unhashableName "list")
  | .obj _ => .error (.unhashableName "dict")
  | _ => .ok none

/-- The descriptor a name resolves to in a registry. -/
def Registry.get (r : Registry) (name : Value) : Except RequestError Descriptor :=
  match r.find name with
  | .ok (some d) => .ok d
  | .ok none => .error (.unknownOperation name)
  | .error e => .error e

/-- Parses an expression against a registry, under default options. -/
def parseRequest (registry : Registry) (defaults : Mapping) (expression : Value) :
    Except RequestError Request := do
  let (name, query) ← (Expression.split expression).mapError RequestError.expression
  let d ← registry.get (.str name)
  let raw := defaults.override (Mapping.ofBag (Query.decode query))
  let options ← validateOptions d.schema raw d.name
  pure ⟨d, options⟩

end ConsulLookup
