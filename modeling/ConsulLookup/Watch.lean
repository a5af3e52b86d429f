import ConsulLookup.Call
import ConsulLookup.Number.Text
import ConsulLookup.Number.Seconds

/-! The watch loop: a long poll over one operation, backing off after failures. -/

namespace ConsulLookup

/-- Why a watch stops: an index that is an infinite float has no integer to compare, or the
backoff delay doubled past every float. -/
inductive WatchError where
  | infiniteIndex
  | delayOverflow
  deriving DecidableEq, Repr

/-- The kind of error that stops a watch: an index or a delay too large for its number type. -/
def WatchError.kind : WatchError → String
  | .infiniteIndex => "OverflowError"
  | .delayOverflow => "OverflowError"

/-- The message of a stopped watch. -/
def WatchError.message : WatchError → String
  | .infiniteIndex => "cannot convert float infinity to integer"
  | .delayOverflow => "int too large to convert to float"

/-- The integer an index stands for when indexes are compared: a boolean is zero or one, a
finite float is truncated toward zero, a text is read as a decimal, and anything else (a NaN, or
a text that is no decimal) is zero. An infinite float has none. -/
def indexNumber : Value → Except WatchError Int
  | .bool b => .ok (if b then 1 else 0)
  | .int n => .ok n
  | .float x =>
    match Binary64.decode x with
    | .infinity _ => .error .infiniteIndex
    | d => .ok (d.truncate?.getD 0)
  | .str s => .ok ((integerOfText? s).getD 0)
  | _ => .ok 0

/-- How long a watch waits, in seconds: the first backoff delay, the greatest, and the polling
interval. Each is an integer or a float, as it was given. -/
structure Timing where
  backoffBase : Seconds
  backoffMax : Seconds
  pollInterval : Seconds

/-- One second doubling up to a minute, and a poll every thirty seconds, all floats. -/
def Timing.standard : Timing := ⟨.float 1, .float 60, .float 30⟩

/-- The delay after `failures` failed cycles in a row (at least one): the base doubled for each
failure after the first, and capped. A float base doubled past every float has none. -/
def Timing.backoff (t : Timing) (failures : Nat) : Except WatchError Seconds :=
  match t.backoffBase.doubled? (failures - 1) with
  | some grown => .ok (grown.lesser t.backoffMax)
  | none => .error .delayOverflow

/-- What a watch reports. -/
inductive WatchEvent where
  | change (value index : Value)
  | failure (fault : Fault)

/-- One thing a watch does, in the order it does them. -/
inductive TraceItem where
  | call (c : Call)
  | event (e : WatchEvent)
  | sleep (seconds : Seconds)

/-- What a watch remembers between cycles: the index it sends (null for none), the last value
reported (`none` before any, which differs from every value), and the failures in a row. -/
structure WatchState where
  index : Value
  last : Option Value
  failures : Nat

namespace Watch

/-- The options a watch calls with: `wait` is `5m` unless truthy, and `index` is taken out. -/
def callOptions (options : Mapping) : Mapping :=
  let withWait := match options.get? (.str "wait") with
    | some w => if w.truthy then options else options.insert (.str "wait") (.str "5m")
    | none => options.insert (.str "wait") (.str "5m")
  withWait.erase (.str "index")

/-- The state a watch starts from: the index of `since` when it has one, else the `index`
option, and the value of `since` as the last one reported. -/
def start (options : Mapping) (since : Option Fetched) : WatchState :=
  let initial := (options.get? (.str "index")).getD .null
  match since with
  | some f => ⟨if f.index.isNull then initial else f.index, some f.value, 0⟩
  | none => ⟨initial, none, 0⟩

/-- Whether a polled value differs from the last one reported. -/
def differs (last : Option Value) (v : Value) : Bool :=
  match last with
  | some w => !v.equal w
  | none => true

/-- A failed cycle: the failure is reported and the watch backs off, one more failure in a
row. -/
def fail (t : Timing) (s : WatchState) (f : Fault) :
    Except WatchError (List TraceItem × WatchState) := do
  let failures := s.failures + 1
  let delay ← t.backoff failures
  pure ([.event (.failure f), .sleep delay], { s with failures })

/-- One cycle after the call: what the reply makes the watch do, and the state after it. -/
def react (d : Descriptor) (t : Timing) (s : WatchState) :
    Reply → Except WatchError (List TraceItem × WatchState)
  | .failure f => fail t s f
  | .response i v =>
    let i := if d.blocking then i else .null
    if i.isNull then
      if differs s.last v then
        .ok ([.event (.change v .null), .sleep t.pollInterval],
          { s with last := some v, failures := 0 })
      else .ok ([.sleep t.pollInterval], { s with failures := 0 })
    else do
      let moved ← if s.index.isNull then pure true
        else do
          let new ← indexNumber i
          let old ← indexNumber s.index
          pure (new != old)
      let s' : WatchState := ⟨i, some v, 0⟩
      pure (if moved then ([.event (.change v i)], s') else ([], s'))

/-- How a watch's run over a script of replies turns out: its last call finds it ended, after the
trace of the whole run; a cycle raises; or, after a trace, its call can no longer be built, and
from there it fails every cycle with one fault, counting on from the failures in a row it had, and
never ends. -/
inductive Course where
  | ended (trace : List TraceItem)
  | raised (e : WatchError)
  | failing (trace : List TraceItem) (fault : Fault) (failures : Nat)

/-- A course after the items made before it. -/
def Course.prepend (items : List TraceItem) : Course → Course
  | .ended trace => .ended (items ++ trace)
  | .raised e => .raised e
  | .failing trace f n => .failing (items ++ trace) f n

/-- The cycles of a watch whose call cannot be built. A failed cycle leaves the index as it was,
so each cycle from here fails with the same fault, asks the client nothing and backs off; only a
float base has a last delay, after 1024 failures in a row. -/
def retries (t : Timing) (f : Fault) (s : WatchState) : Course :=
  if t.backoffBase.isFloat then .raised .delayOverflow else .failing [] f s.failures

/-- The cycles over a script of replies, then the call that finds the watch ended. Each cycle
calls with the current index and takes the next reply; a call that cannot be built fails, and so
do all after it. -/
def cycles (d : Descriptor) (options : Mapping) (t : Timing) :
    WatchState → List Reply → Course
  | s, [] =>
    match Call.build d options s.index with
    | .error f => retries t ⟨"TypeError", f.message⟩ s
    | .ok call => .ended [.call call]
  | s, r :: rest =>
    match Call.build d options s.index with
    | .error f => retries t ⟨"TypeError", f.message⟩ s
    | .ok call =>
      match react d t s r with
      | .error e => .raised e
      | .ok (items, s') => (cycles d options t s' rest).prepend (.call call :: items)

/-- The course of a watch over a script of replies; a watch ended before it starts makes no
call. -/
def run (d : Descriptor) (options : Mapping) (since : Option Fetched) (t : Timing)
    (endedFirst : Bool) (replies : List Reply) : Course :=
  if endedFirst then .ended []
  else cycles d (callOptions options) t (start options since) replies

end Watch

end ConsulLookup
