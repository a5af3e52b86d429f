import ConsulLookup.Request
import ConsulLookup.Watch
import ConsulLookup.Text.Quoted
import ConsulLookup.Value.Display

/-! The state of one lookup: its latest value, its listeners and its watch. -/

namespace ConsulLookup

/-- The two kinds of emission. -/
inductive StateEvent where
  | change
  | error
  deriving DecidableEq, Repr

/-- The event a name stands for: `change` or `error`, in lower case. -/
def StateEvent.ofName? : String → Option StateEvent
  | "change" => some .change
  | "error" => some .error
  | _ => none

/-- The event a value names: the text `change` or `error`; any other value is refused with its
written form. -/
def StateEvent.parse (v : Value) : Except String StateEvent :=
  match v.str?.bind StateEvent.ofName? with
  | some e => .ok e
  | none => .error (v.written ++ " is not a valid StateEvent")

/-- What a listener is called with: a new value, or a failure. -/
inductive Payload where
  | value (v : Value)
  | fault (f : Fault)

/-- A change a listener makes to the subscriptions while it is called: it subscribes a listener
to an event, or unsubscribes one. -/
inductive SubscriptionChange (L : Type) where
  | on (e : StateEvent) (l : L)
  | off (e : StateEvent) (l : L)

/-- What a listener does when it is called: the changes it makes to the subscriptions, in order,
and the failure it ends with, if it fails. The failure is logged and goes no further. -/
structure Reaction (L : Type) where
  changes : List (SubscriptionChange L)
  failure : Option Fault

/-- The listeners of each event, in subscription order. -/
structure Subscriptions (L : Type) where
  change : List L
  error : List L

/-- Where the watch of a lookup stands: none since the last end, running, or stopped by
itself (it finished or failed) and not yet ended. -/
inductive WatchSlot where
  | idle
  | running
  | stopped
  deriving DecidableEq, Repr

/-- A request of the manager to its backend: one fetch, or a watch from a fetched value. -/
inductive BackendCall where
  | fetch (operation : String) (options : Bag)
  | watch (operation : String) (options : Bag) (since : Option Fetched)

/-- The state of one lookup, with listeners identified by `L`. -/
structure Manager (L : Type) where
  request : Request
  value : Option Value
  fetched : Option Fetched
  slot : WatchSlot
  listeners : Subscriptions L

namespace Subscriptions

variable {L : Type} [BEq L]

/-- The listeners of an event. -/
def get (s : Subscriptions L) : StateEvent → List L
  | .change => s.change
  | .error => s.error

/-- The subscriptions with the listeners of one event replaced. -/
def set (s : Subscriptions L) : StateEvent → List L → Subscriptions L
  | .change, ls => { s with change := ls }
  | .error, ls => { s with error := ls }

/-- Subscribes a listener at the end, unless it is subscribed already. -/
def add (s : Subscriptions L) (e : StateEvent) (l : L) : Subscriptions L :=
  if (s.get e).contains l then s else s.set e (s.get e ++ [l])

/-- Unsubscribes a listener, saying whether it was subscribed. -/
def remove (s : Subscriptions L) (e : StateEvent) (l : L) : Subscriptions L × Bool :=
  if (s.get e).contains l then (s.set e ((s.get e).erase l), true) else (s, false)

/-- The subscriptions after one change. -/
def update (s : Subscriptions L) : SubscriptionChange L → Subscriptions L
  | .on e l => s.add e l
  | .off e l => (s.remove e l).1

end Subscriptions

namespace Manager

variable {L : Type} [BEq L]

/-- A fresh manager for a request: no value, no watch, no listeners. -/
def create (request : Request) : Manager L :=
  ⟨request, none, none, .idle, ⟨[], []⟩⟩

/-- Whether a value was received. -/
def hasValue (m : Manager L) : Bool :=
  m.value.isSome

/-- Whether the watch is running. -/
def watching (m : Manager L) : Bool :=
  m.slot == .running

/-- The options sent with each fetch and watch. -/
def methodOptions (m : Manager L) : Bag :=
  m.request.backendOptions

/-- Subscribes a listener to an event, and gives the listener back. -/
def on (m : Manager L) (e : StateEvent) (l : L) : Manager L × L :=
  ({ m with listeners := m.listeners.add e l }, l)

/-- Unsubscribes a listener, saying whether it was subscribed. -/
def off (m : Manager L) (e : StateEvent) (l : L) : Manager L × Bool :=
  let (s, was) := m.listeners.remove e l
  ({ m with listeners := s }, was)

/-- Unsubscribes a listener from the event a value names, saying whether it was subscribed; a
value that names no event unsubscribes nothing. -/
def offNamed (m : Manager L) (name : Value) (l : L) : Manager L × Bool :=
  match StateEvent.parse name with
  | .ok e => m.off e l
  | .error _ => (m, false)

/-- The number of listeners of an event. -/
def listenerCount (m : Manager L) (e : StateEvent) : Nat :=
  (m.listeners.get e).length

/-- Calls the listeners of a snapshot in turn, the changes each one makes applied to the live
subscriptions; a listener's failure stops neither the emission nor its own changes. -/
def callAll (respond : L → Payload → Reaction L) (p : Payload) :
    Subscriptions L → List L → Subscriptions L × List (L × Payload)
  | s, [] => (s, [])
  | s, l :: rest =>
    let s' := (respond l p).changes.foldl Subscriptions.update s
    let (s'', calls) := callAll respond p s' rest
    (s'', (l, p) :: calls)

/-- Emits an event: each listener subscribed when the emission starts is called once, in order;
an error with no listener is dropped. -/
def emit (m : Manager L) (respond : L → Payload → Reaction L) (e : StateEvent) (p : Payload) :
    Manager L × List (L × Payload) :=
  let snapshot := m.listeners.get e
  let (s, calls) := callAll respond p m.listeners snapshot
  ({ m with listeners := s }, calls)

/-- Takes in a fetched value: it becomes the value and the start of the next watch, and the
change listeners hear of it. -/
def receive (m : Manager L) (respond : L → Payload → Reaction L) (f : Fetched) :
    Manager L × List (L × Payload) :=
  { m with value := some f.value, fetched := some f }.emit respond .change (.value f.value)

/-- Fetches once with the backend's outcome: a success is received, a failure goes to the error
listeners. Also gives the arguments the callback is called with: the failure or the value. -/
def refresh (m : Manager L) (respond : L → Payload → Reaction L) (outcome : Except Fault Fetched) :
    Manager L × List (L × Payload) × (Option Fault × Value) :=
  match outcome with
  | .ok f =>
    let (m', calls) := m.receive respond f
    (m', calls, (none, f.value))
  | .error e =>
    let (m', calls) := m.emit respond .error (.fault e)
    (m', calls, (some e, .null))

/-- The fetch the manager asks its backend for. -/
def fetchCall (m : Manager L) : BackendCall :=
  .fetch m.request.method m.methodOptions

/-- Starts a watch when the request asks for one and none is running: the watch starts from the
last fetched value. Says whether it started, with the backend watch it asked for. -/
def startWatch (m : Manager L) : Manager L × Option BackendCall :=
  if m.request.mode != "watch" || m.watching then (m, none)
  else ({ m with slot := .running }, some (.watch m.request.method m.methodOptions m.fetched))

/-- An event of the running watch: a change is received, a failure goes to the error listeners.
Without a running watch nothing happens (`false`). -/
def deliver (m : Manager L) (respond : L → Payload → Reaction L) (event : WatchEvent) :
    Manager L × List (L × Payload) × Bool :=
  if !m.watching then (m, [], false)
  else match event with
    | .change v i =>
      let (m', calls) := m.receive respond ⟨i, v⟩
      (m', calls, true)
    | .failure f =>
      let (m', calls) := m.emit respond .error (.fault f)
      (m', calls, true)

/-- The running watch fails: the error listeners hear of it and the watch stops. -/
def crash (m : Manager L) (respond : L → Payload → Reaction L) (f : Fault) :
    Manager L × List (L × Payload) × Bool :=
  if !m.watching then (m, [], false)
  else
    let (m', calls) := m.emit respond .error (.fault f)
    ({ m' with slot := .stopped }, calls, true)

/-- The running watch comes to its end by itself and stops. -/
def finish (m : Manager L) : Manager L × Bool :=
  if !m.watching then (m, false) else ({ m with slot := .stopped }, true)

/-- Ends the watch started since the last end, running or stopped; with none, refuses. -/
def endWatch (m : Manager L) : Except String (Manager L) :=
  if m.slot == .idle then .error ("No active watch on " ++ m.request.method)
  else .ok { m with slot := .idle }

end Manager

end ConsulLookup
