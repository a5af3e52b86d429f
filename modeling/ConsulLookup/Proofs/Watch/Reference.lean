import Mathlib.Data.List.Forall2
import ConsulLookup.Watch
import ConsulLookup.Proofs.Call.Keys

/-! The watch loop against its reference step function. -/

namespace ConsulLookup

namespace Value

/-- Whether a value is an infinite float, the one index that reads as no integer. -/
def isInfinite : Value → Bool
  | .float x =>
    match Binary64.decode x with
    | .infinity _ => true
    | _ => false
  | _ => false

end Value

namespace TraceItem

end TraceItem

namespace Reply

end Reply

namespace Watch

/-- The integer an index reads as when indexes are compared; it is only asked of indexes that
are no infinite float. -/
def indexInt (v : Value) : Int :=
  match indexNumber v with
  | .ok n => n
  | .error _ => 0

/-- What the reference loop keeps between cycles: the index it sends (null for none), and the
last value (none before any, which differs from every value). -/
structure Baseline where
  index : Value
  last : Option Value

namespace Baseline

/-- The reference loop starts from `since` when it is given, from its index unless that is null
and from its value; otherwise from the `index` option, with no value. -/
def start (options : Bag) (since : Option Fetched) : Baseline :=
  let initial := (options.get? "index").getD .null
  match since with
  | some f => ⟨if f.index.isNull then initial else f.index, some f.value⟩
  | none => ⟨initial, none⟩

/-- One reference cycle. A failure is reported and changes nothing. A response with an index is
a change when there was no index or the integer it reads as moved, and it becomes the baseline. A
response without an index is a change when its value differs from the last, which it replaces. -/
def step (d : Descriptor) (b : Baseline) : Reply → List WatchEvent × Baseline
  | .failure f => ([.failure f], b)
  | .response i v =>
    let i := if d.blocking then i else .null
    if i.isNull then
      if differs b.last v then ([.change v .null], { b with last := some v }) else ([], b)
    else
      (if b.index.isNull || indexInt i != indexInt b.index then [.change v i] else [],
        ⟨i, some v⟩)

end Baseline

end Watch

namespace Timing

/-- The backoff has a delay after `n` failures in a row for an integer base, and for a float base
up to 1024 of them. -/
theorem backoff_ok (t : Timing) {n : Nat}
    (reach : t.backoffBase.isFloat = false ∨ n ≤ maxDoublings + 1) :
    ∃ delay, t.backoff n = .ok delay := by
  unfold backoff
  cases base : t.backoffBase with
  | int b => exact ⟨_, rfl⟩
  | float x =>
    -- Only a float base can run out of doublings, and this one has not.
    have within : n ≤ maxDoublings + 1 := by simpa [base, Seconds.isFloat] using reach
    simp only [Seconds.doubled?, if_neg (show ¬ n - 1 > maxDoublings by omega)]
    exact ⟨_, rfl⟩

/-- A float base doubled past every float has no delay. -/
theorem backoff_overflow (t : Timing) (float : t.backoffBase.isFloat = true) {n : Nat}
    (beyond : maxDoublings + 1 < n) : t.backoff n = .error .delayOverflow := by
  unfold backoff
  cases base : t.backoffBase with
  | int b => simp [base, Seconds.isFloat] at float
  | float x => simp only [Seconds.doubled?, if_pos (show n - 1 > maxDoublings by omega)]

end Timing

namespace Watch

section Cycle

variable {d : Descriptor} {options : Mapping} {t : Timing} {s : WatchState}

end Cycle

section Run

variable {d : Descriptor} {options : Mapping} {t : Timing}

end Run

end Watch

end ConsulLookup
