import ConsulLookup.Operation.Descriptor
import ConsulLookup.Value.Mapping
import ConsulLookup.Value.Order

/-! Client calls: the positional and keyword arguments an option bag becomes. -/

namespace ConsulLookup

/-- The arguments of one client call. -/
structure Call where
  args : List Value
  kwargs : Bag

/-- A failure the client or a watch reports: its kind and its message. -/
structure Fault where
  kind : String
  message : String
  deriving DecidableEq, Repr

/-- A value together with the index it was read at; the index is null for an operation that
answers no blocking queries. -/
structure Fetched where
  index : Value
  value : Value

/-- What the client answers to one call: an index and a value (the index is ignored for an
operation that answers no blocking queries), or a failure. -/
inductive Reply where
  | response (index value : Value)
  | failure (fault : Fault)

namespace Call

/-- The values of the arguments present in the options, up to the first absent one; an argument
taken leaves the options. -/
def takeArguments : Mapping → List String → List Value
  | _, [] => []
  | m, a :: rest =>
    match m.get? (.str a) with
    | some v => v :: takeArguments (m.erase (.str a)) rest
    | none => []

/-- The consistency keyword the flags ask for, if any. -/
def consistency (consistent stale : Value) : Option String :=
  if consistent.truthy then some "consistent" else if stale.truthy then some "stale" else none

/-- Whether a key names a keyword of the operation's method. -/
def isKeyword (d : Descriptor) : Value → Bool
  | .str k => d.keywords.contains k
  | _ => false

/-- The keys left out of a call although they hold a true value, in the order of the call's
keywords: those that name no keyword of the method. -/
def dropped (d : Descriptor) (kwargs : Mapping) : List Value :=
  kwargs.filterMap fun (k, v) => if isKeyword d k || !v.truthy then none else some k

/-- The call of an operation for options at an index (null for none). The keys left out are
sorted, so keys of kinds without an order between them make the call fail. -/
def build (d : Descriptor) (options : Mapping) (index : Value) : Except Fault Call := do
  let args := takeArguments options d.arguments
  let remaining := d.arguments.foldl (fun m a => m.erase (.str a)) options
  let consistent := (remaining.get? (.str "consistent")).getD (.bool false)
  let stale := (remaining.get? (.str "stale")).getD (.bool false)
  let remaining := (remaining.erase (.str "consistent")).erase (.str "stale")
  let fixed := Mapping.ofBag d.fixed
  let kwargs := match consistency consistent stale with
    | some c => fixed.insert (.str "consistency") (.str c)
    | none => fixed
  let kwargs := kwargs.override remaining
  let kwargs := if index.isNull then kwargs else kwargs.insert (.str "index") index
  match sortValues (dropped d kwargs) with
  | .error f => throw ⟨"TypeError", f.message⟩
  | .ok _ => pure ⟨args, kwargs.filterMap fun (k, v) =>
      match k with
      | .str t => if d.keywords.contains t then some (t, v) else none
      | _ => none⟩

end Call

/-- Calls an operation once against a reply: the call made, and the index and value, or the
failure; a call that cannot be built is a failure before any call. -/
def invoke (d : Descriptor) (options : Mapping) (index : Value) (reply : Reply) :
    Except Fault (Call × Except Fault Fetched) := do
  let call ← Call.build d options index
  pure (call, match reply with
    | .response i v => .ok ⟨if d.blocking then i else .null, v⟩
    | .failure f => .error f)

end ConsulLookup
