import ConsulLookup.State

/-! Runs of a lookup's state, and what each operation leaves alone. -/

namespace ConsulLookup

namespace Manager

/-- One thing done to a manager: a listener subscribed or unsubscribed, a fetch with the
backend's outcome, the watch started or ended, or the running watch delivering an event, failing,
or coming to its end by itself. -/
inductive Step (L : Type) where
  | on (e : StateEvent) (l : L)
  | off (e : StateEvent) (l : L)
  | refresh (outcome : Except Fault Fetched)
  | startWatch
  | endWatch
  | deliver (event : WatchEvent)
  | crash (f : Fault)
  | finish

variable {L : Type} [BEq L]

/-- The manager after a step; an end of the watch that is refused leaves it as it was. -/
def step (respond : L → Payload → Reaction L) (m : Manager L) : Step L → Manager L
  | .on e l => (m.on e l).1
  | .off e l => (m.off e l).1
  | .refresh outcome => (m.refresh respond outcome).1
  | .startWatch => m.startWatch.1
  | .endWatch =>
    match m.endWatch with
    | .ok m' => m'
    | .error _ => m
  | .deliver event => (m.deliver respond event).1
  | .crash f => (m.crash respond f).1
  | .finish => m.finish.1

/-- The manager after a run of steps, taken in order. -/
def run (respond : L → Payload → Reaction L) : Manager L → List (Step L) → Manager L
  | m, [] => m
  | m, s :: rest => run respond (m.step respond s) rest

section Frame

variable (respond : L → Payload → Reaction L) (m : Manager L)

/-- Emitting touches the listeners only. -/
@[simp] theorem emit_value (e : StateEvent) (p : Payload) : (m.emit respond e p).1.value = m.value :=
  rfl

@[simp] theorem emit_fetched (e : StateEvent) (p : Payload) :
    (m.emit respond e p).1.fetched = m.fetched :=
  rfl

@[simp] theorem emit_request (e : StateEvent) (p : Payload) :
    (m.emit respond e p).1.request = m.request :=
  rfl

@[simp] theorem emit_slot (e : StateEvent) (p : Payload) : (m.emit respond e p).1.slot = m.slot :=
  rfl

/-- Taking in a fetched value makes it the value and the start of the next watch. -/
@[simp] theorem receive_value (f : Fetched) : (m.receive respond f).1.value = some f.value :=
  rfl

@[simp] theorem receive_fetched (f : Fetched) : (m.receive respond f).1.fetched = some f :=
  rfl

@[simp] theorem receive_request (f : Fetched) : (m.receive respond f).1.request = m.request :=
  rfl

@[simp] theorem receive_slot (f : Fetched) : (m.receive respond f).1.slot = m.slot :=
  rfl

omit [BEq L] in
/-- Starting a watch sets the slot, unless the request asks for none or one is running. -/
theorem startWatch_fst : m.startWatch.1 =
    if m.request.mode != "watch" || m.watching then m else { m with slot := .running } := by
  unfold startWatch
  split <;> rfl

omit [BEq L] in
/-- With no watch running, one is asked for exactly when the request is watched, and it starts
from the fetched value. -/
theorem startWatch_snd_of_idle (idle : m.watching = false) :
    m.startWatch.2 =
      if m.request.watch then some (.watch m.request.method m.methodOptions m.fetched) else none := by
  unfold startWatch Request.watch
  by_cases watched : m.request.mode = "watch" <;> simp [idle, watched]

/-- Ending the watch clears the slot, unless no watch was started since the last end. -/
theorem step_endWatch :
    m.step respond .endWatch = if m.slot == .idle then m else { m with slot := .idle } := by
  by_cases idle : m.slot == .idle <;> simp [step, endWatch, idle]

/-- An event of the running watch is taken in; without a running watch nothing happens. -/
theorem deliver_fst (event : WatchEvent) : (m.deliver respond event).1 =
    if !m.watching then m
    else match event with
      | .change v i => (m.receive respond ⟨i, v⟩).1
      | .failure f => (m.emit respond .error (.fault f)).1 := by
  unfold deliver
  split
  · rfl
  · cases event <;> rfl

/-- A failing watch is reported and stops; without a running watch nothing happens. -/
theorem crash_fst (f : Fault) : (m.crash respond f).1 =
    if !m.watching then m else { (m.emit respond .error (.fault f)).1 with slot := .stopped } := by
  unfold crash
  split <;> rfl

omit [BEq L] in
/-- A watch that comes to its end stops; without a running watch nothing happens. -/
theorem finish_fst : m.finish.1 = if !m.watching then m else { m with slot := .stopped } := by
  unfold finish
  split <;> rfl

end Frame

/-- What a step brings in: the value and index of a successful fetch, or of a change that the
running watch delivers. Nothing else a step does is a success. -/
def Step.success (m : Manager L) : Step L → Option Fetched
  | .refresh (.ok f) => some f
  | .deliver (.change v i) => if m.watching then some ⟨i, v⟩ else none
  | _ => none

/-- All a step can do: a success takes its value and index in, and any step may change the
listeners and the watch; nothing else changes. -/
theorem step_cases (respond : L → Payload → Reaction L) (m : Manager L) (s : Step L) :
    (∃ f, s.success m = some f ∧ ∃ ls sl, m.step respond s =
      { m with value := some f.value, fetched := some f, listeners := ls, slot := sl }) ∨
    (s.success m = none ∧ ∃ ls sl, m.step respond s = { m with listeners := ls, slot := sl }) := by
  cases s with
  | on e l => exact .inr ⟨rfl, _, _, rfl⟩
  | off e l => exact .inr ⟨rfl, _, _, rfl⟩
  | refresh outcome =>
    cases outcome with
    | ok f => exact .inl ⟨f, rfl, _, _, rfl⟩
    | error e => exact .inr ⟨rfl, _, _, rfl⟩
  | startWatch =>
    refine .inr ⟨rfl, ?_⟩
    simp only [step, startWatch_fst]
    split
    · exact ⟨_, _, rfl⟩
    · exact ⟨_, _, rfl⟩
  | endWatch =>
    refine .inr ⟨rfl, ?_⟩
    rw [step_endWatch]
    split
    · exact ⟨_, _, rfl⟩
    · exact ⟨_, _, rfl⟩
  | deliver event =>
    simp only [step, deliver_fst]
    -- Only a change taken in by the running watch is a success.
    by_cases running : m.watching
    · cases event with
      | change v i =>
        exact .inl ⟨⟨i, v⟩, by simp [Step.success, running], _, _, by simp [running]; rfl⟩
      | failure f => exact .inr ⟨rfl, _, _, by simp [running]; rfl⟩
    · refine .inr ⟨by cases event <;> simp [Step.success, running], m.listeners, m.slot, ?_⟩
      simp [running]
  | crash f =>
    refine .inr ⟨rfl, ?_⟩
    simp only [step, crash_fst]
    split
    · exact ⟨_, _, rfl⟩
    · exact ⟨_, _, rfl⟩
  | finish =>
    refine .inr ⟨rfl, ?_⟩
    simp only [step, finish_fst]
    split
    · exact ⟨_, _, rfl⟩
    · exact ⟨_, _, rfl⟩

/-- No step changes the request a manager serves. -/
@[simp] theorem step_request (respond : L → Payload → Reaction L) (m : Manager L) (s : Step L) :
    (m.step respond s).request = m.request := by
  obtain ⟨f, -, ls, sl, moved⟩ | ⟨-, ls, sl, moved⟩ := step_cases respond m s <;> rw [moved]

@[simp] theorem run_nil (respond : L → Payload → Reaction L) (m : Manager L) :
    m.run respond [] = m :=
  rfl

@[simp] theorem run_cons (respond : L → Payload → Reaction L) (m : Manager L) (s : Step L)
    (rest : List (Step L)) : m.run respond (s :: rest) = (m.step respond s).run respond rest :=
  rfl

/-- What every step keeps holds after every run. -/
theorem run_invariant (respond : L → Payload → Reaction L) (P : Manager L → Prop)
    (step_keeps : ∀ m s, P m → P (m.step respond s)) (m : Manager L) (steps : List (Step L))
    (holds : P m) : P (m.run respond steps) := by
  -- The induction is on the steps, carrying `P` from each manager to the next.
  induction steps generalizing m with
  | nil => exact holds
  | cons s rest ih => exact ih _ (step_keeps m s holds)

/-- No run of steps changes the request a manager serves. -/
@[simp] theorem run_request (respond : L → Payload → Reaction L) (m : Manager L)
    (steps : List (Step L)) : (m.run respond steps).request = m.request :=
  run_invariant respond (fun m' => m'.request = m.request)
    (fun m' s same => (step_request respond m' s).trans same) m steps rfl

end Manager

end ConsulLookup
