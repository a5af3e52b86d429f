import ConsulLookup.Watch

/-! A watch as its consumer iterates it, request by request. -/

namespace ConsulLookup

namespace Reply

/-- Whether the client answered rather than failed. -/
def isResponse : Reply → Bool
  | .response _ _ => true
  | .failure _ => false

end Reply

namespace Watch

/-- What the client did with one call: its reply, and whether the watch was ended while the call
was in flight. -/
structure Answer where
  reply : Reply
  endedMeanwhile : Bool

/-- Where the loop waits between two requests: suspended with what is still to be done of its
cycle (a sleep after an event, or nothing), or finished. -/
inductive Pause where
  | suspended (pending : List TraceItem)
  | finished

/-- What a request comes to: the next event, the end of the iteration, or the error that stops the
watch. -/
inductive Outcome where
  | event (e : WatchEvent)
  | exhausted
  | raised (e : WatchError)

/-- A watch between two requests of its consumer: where its loop waits, what it remembers, whether
it was ended, and the answers the client still has. -/
structure Iterator where
  pause : Pause
  state : WatchState
  ended : Bool
  answers : List Answer

/-- The loop from its check, over the answers the client still has: the calls and sleeps it makes
up to its next event, what the request comes to, and where the watch is left. An ended watch
finishes at the check. A call that cannot be built fails without asking the client. A call past
the answers finds the watch ended. A reply is taken in as a cycle takes it (`react`), except that a
response that finds the watch ended is dropped and the loop finishes; a cycle's event ends the
request, what follows it waiting for the next one. -/
def loop (d : Descriptor) (options : Mapping) (t : Timing) :
    Bool → WatchState → List Answer → List TraceItem × Outcome × Iterator
  | true, s, answers => ([], .exhausted, ⟨.finished, s, true, answers⟩)
  | false, s, answers =>
    match Call.build d options s.index with
    | .error f =>
      match t.backoff (s.failures + 1) with
      | .error e => ([], .raised e, ⟨.finished, s, false, answers⟩)
      | .ok delay =>
        ([], .event (.failure ⟨"TypeError", f.message⟩),
          ⟨.suspended [.sleep delay], { s with failures := s.failures + 1 }, false, answers⟩)
    | .ok call =>
      match answers with
      | [] => ([.call call], .exhausted, ⟨.finished, s, true, []⟩)
      | a :: rest =>
        if a.endedMeanwhile && a.reply.isResponse then
          ([.call call], .exhausted, ⟨.finished, s, true, rest⟩)
        else
          match react d t s a.reply with
          | .error e => ([.call call], .raised e, ⟨.finished, s, a.endedMeanwhile, rest⟩)
          | .ok (items, s') =>
            match items with
            | .event e :: after =>
              ([.call call], .event e, ⟨.suspended after, s', a.endedMeanwhile, rest⟩)
            | _ =>
              let later := loop d options t a.endedMeanwhile s' rest
              (.call call :: items ++ later.1, later.2.1, later.2.2)

namespace Iterator

/-- A watch of an operation from options and a fetched value, before its first request. -/
def start (options : Mapping) (since : Option Fetched) (answers : List Answer) : Iterator :=
  ⟨.suspended [], Watch.start options since, false, answers⟩

/-- A request for the next event: the loop resumes where it waits, does what was left of its cycle
(a sleep, which returns at once when the watch was ended meanwhile), and goes on from its check. A
finished iteration stays finished. -/
def next (d : Descriptor) (options : Mapping) (t : Timing) (it : Iterator) :
    List TraceItem × Outcome × Iterator :=
  match it.pause with
  | .finished => ([], .exhausted, it)
  | .suspended pending =>
    let later := loop d options t it.ended it.state it.answers
    ((if it.ended then [] else pending) ++ later.1, later.2.1, later.2.2)

/-- Ends the watch; ending it again changes nothing. -/
def stop (it : Iterator) : Iterator :=
  { it with ended := true }

end Iterator

/-- What a consumer does between two of its requests: ask for the next event, or end the
watch. -/
inductive Turn where
  | next
  | stop

/-- The watch after a consumer's turns, in order. -/
def Iterator.after (d : Descriptor) (options : Mapping) (t : Timing) :
    Iterator → List Turn → Iterator
  | it, [] => it
  | it, .next :: rest => after d options t (it.next d options t).2.2 rest
  | it, .stop :: rest => after d options t it.stop rest

end Watch

end ConsulLookup
