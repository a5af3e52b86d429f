import ConsulLookup.Proofs.State.Steps

/-! The watches of a lookup and the tasks that consume them. -/

namespace ConsulLookup

namespace Manager

/-- A manager with the tasks consuming its watches: for each watch created, in order, whether its
task still runs, and the number of the watch the manager holds, if any. -/
structure Loop (L : Type) where
  manager : Manager L
  running : List Bool
  held : Option Nat

/-- What can happen to a manager: one of its own steps, or one of its watches, by number,
offering an event, failing, or coming to its end. -/
inductive Action (L : Type) where
  | on (e : StateEvent) (l : L)
  | off (e : StateEvent) (l : L)
  | refresh (outcome : Except Fault Fetched)
  | startWatch
  | endWatch
  | offer (watch : Nat) (event : WatchEvent)
  | fail (watch : Nat) (f : Fault)
  | close (watch : Nat)

/-- The tasks with the one of the held watch stopped: ending a watch cancels its task. -/
def stopHeld (running : List Bool) : Option Nat → List Bool
  | some k => running.set k false
  | none => running

/-- What an action does to the watches: one is created, or the held one is ended. -/
inductive Mark where
  | created
  | ended
  deriving DecidableEq

namespace Loop

variable {L : Type} [BEq L]

/-- A fresh manager, with no watch created. -/
def fresh (q : Request) : Loop L :=
  ⟨create q, [], none⟩

/-- Whether the task of watch `k` runs. -/
def runs (s : Loop L) (k : Nat) : Prop :=
  s.running[k]? = some true

instance (s : Loop L) (k : Nat) : Decidable (s.runs k) :=
  inferInstanceAs (Decidable (_ = _))

/-- One action, with the listener calls it makes. A started watch gets a new running task and is
held; ending the held watch stops its task. Only a running task takes in what its watch offers:
an event is delivered, a failure is reported and stops the task, and so does an end. -/
def step (respond : L → Payload → Reaction L) (s : Loop L) :
    Action L → Loop L × List (L × Payload)
  | .on e l => ({ s with manager := (s.manager.on e l).1 }, [])
  | .off e l => ({ s with manager := (s.manager.off e l).1 }, [])
  | .refresh outcome =>
    let (m, calls, _) := s.manager.refresh respond outcome
    ({ s with manager := m }, calls)
  | .startWatch =>
    match s.manager.startWatch with
    | (m, some _) => (⟨m, s.running ++ [true], some s.running.length⟩, [])
    | (m, none) => ({ s with manager := m }, [])
  | .endWatch =>
    match s.manager.endWatch with
    | .ok m => (⟨m, stopHeld s.running s.held, none⟩, [])
    | .error _ => (s, [])
  | .offer k event =>
    if s.runs k then
      let (m, calls, _) := s.manager.deliver respond event
      ({ s with manager := m }, calls)
    else (s, [])
  | .fail k f =>
    if s.runs k then
      let (m, calls, _) := s.manager.crash respond f
      (⟨m, s.running.set k false, s.held⟩, calls)
    else (s, [])
  | .close k =>
    if s.runs k then (⟨s.manager.finish.1, s.running.set k false, s.held⟩, [])
    else (s, [])

/-- The manager and its tasks after a run of actions. -/
def run (respond : L → Payload → Reaction L) : Loop L → List (Action L) → Loop L
  | s, [] => s
  | s, a :: rest => run respond (s.step respond a).1 rest

/-- The mark an action leaves: a start that asks the backend for a watch creates one, and an
end that is not refused ends one. -/
def mark (s : Loop L) : Action L → Option Mark
  | .startWatch => if s.manager.startWatch.2.isSome then some .created else none
  | .endWatch => if s.manager.slot == .idle then none else some .ended
  | _ => none

/-- The marks of a run, in order. -/
def marks (respond : L → Payload → Reaction L) : Loop L → List (Action L) → List Mark
  | _, [] => []
  | s, a :: rest => (s.mark a).toList ++ marks respond (s.step respond a).1 rest

/-- Whether a watch is held, as the mark that left it so: created, or ended (also before any). -/
def status (s : Loop L) : Mark :=
  if s.held.isSome then .created else .ended

/-- The manager's watch slot agrees with the tasks: the held watch is the latest created, the
slot is idle exactly when none is held and running exactly when the held watch's task runs, and
no other task runs. -/
structure Consistent (s : Loop L) : Prop where
  held_latest : ∀ k, s.held = some k → k + 1 = s.running.length
  idle_iff : s.manager.slot = .idle ↔ s.held = none
  running_iff : s.manager.slot = .running ↔ ∃ k, s.held = some k ∧ s.runs k
  only_held : ∀ k, s.runs k → s.held = some k

@[simp] theorem run_nil (respond : L → Payload → Reaction L) (s : Loop L) : s.run respond [] = s :=
  rfl

@[simp] theorem run_cons (respond : L → Payload → Reaction L) (s : Loop L) (a : Action L)
    (rest : List (Action L)) : s.run respond (a :: rest) = (s.step respond a).1.run respond rest :=
  rfl

end Loop

section Slot

variable {L : Type} [BEq L] (respond : L → Payload → Reaction L) (m : Manager L)

/-- Fetches and deliveries leave the watch slot alone. -/
@[simp] theorem refresh_slot (outcome : Except Fault Fetched) :
    (m.refresh respond outcome).1.slot = m.slot := by
  cases outcome <;> rfl

@[simp] theorem deliver_slot (event : WatchEvent) : (m.deliver respond event).1.slot = m.slot := by
  rw [deliver_fst]
  split
  · rfl
  · cases event <;> rfl

omit [BEq L] in
/-- A manager is watching exactly when its slot is running. -/
theorem watching_iff : m.watching = true ↔ m.slot = .running := by
  simp [watching]

/-- Each listener of a snapshot is called once, in order, with the payload. -/
theorem callAll_calls (p : Payload) (s : Subscriptions L) (ls : List L) :
    (callAll respond p s ls).2 = ls.map (·, p) := by
  induction ls generalizing s with
  | nil => rfl
  | cons l rest ih => simp [callAll, ih]

/-- A failing running watch calls each error listener once with the failure, keeps the value,
and stops. -/
theorem crash_of_watching (watching : m.watching = true) (f : Fault) :
    (m.crash respond f).2.1 = m.listeners.error.map (·, .fault f) ∧
      (m.crash respond f).1.value = m.value ∧ (m.crash respond f).1.slot = .stopped := by
  simp [crash, watching, emit, callAll_calls, Subscriptions.get]

omit [BEq L] in
/-- A running watch that comes to its end stops. -/
theorem finish_slot_of_watching (watching : m.watching = true) : m.finish.1.slot = .stopped := by
  simp [finish_fst, watching]

end Slot

namespace Loop

section Agreement

variable {L : Type}

/-- A fresh manager is consistent: no watch, no task. -/
theorem consistent_fresh (q : Request) : (fresh q : Loop L).Consistent where
  held_latest := by simp [fresh]
  idle_iff := by simp [fresh, create]
  running_iff := by simp [fresh, create]
  only_held := by simp [fresh, runs]

/-- A new task at the end of a list where none runs is the only one running. -/
theorem runs_append_true {running : List Bool} (quiet : ∀ k : Nat, running[k]? ≠ some true) {k : Nat}
    (runs : (running ++ [true])[k]? = some true) : k = running.length := by
  rcases Nat.lt_trichotomy k running.length with below | same | above
  · rw [List.getElem?_append_left below] at runs
    exact absurd runs (quiet k)
  · exact same
  · rw [List.getElem?_append_right (by omega)] at runs
    have : k - running.length ≠ 0 := by omega
    simp [this] at runs

section Facts

variable {s : Loop L} (consistent : s.Consistent)
include consistent

/-- A running task is that of the held watch, which is running. -/
theorem Consistent.watching_of_runs {k : Nat} (runs : s.runs k) :
    s.manager.watching = true ∧ s.held = some k := by
  have held := consistent.only_held k runs
  exact ⟨(watching_iff s.manager).mpr (consistent.running_iff.mpr ⟨k, held, runs⟩), held⟩

/-- The manager is watching exactly when some task runs. -/
theorem Consistent.watching_iff_runs : s.manager.watching = true ↔ ∃ k, s.runs k := by
  rw [watching_iff, consistent.running_iff]
  constructor
  · rintro ⟨k, -, runs⟩
    exact ⟨k, runs⟩
  · rintro ⟨k, runs⟩
    exact ⟨k, consistent.only_held k runs, runs⟩

/-- Stopping the task of the held watch leaves no task running. -/
theorem Consistent.none_runs_after_stop {k : Nat} (held : s.held = some k) (j : Nat) :
    (s.running.set k false)[j]? ≠ some true := by
  intro runs
  rw [List.getElem?_set] at runs
  split at runs
  · split at runs <;> simp at runs
  · rename_i other
    have := consistent.only_held j runs
    rw [held] at this
    exact other (Option.some.inj this)

/-- An action that leaves the slot, the tasks and the held watch alone keeps consistency. -/
theorem Consistent.of_frame {s' : Loop L} (slot : s'.manager.slot = s.manager.slot)
    (running : s'.running = s.running) (held : s'.held = s.held) : s'.Consistent where
  held_latest k := by rw [held, running]; exact consistent.held_latest k
  idle_iff := by rw [slot, held]; exact consistent.idle_iff
  running_iff := by
    rw [slot, held, show s'.runs = s.runs by funext k; simp [runs, running]]
    exact consistent.running_iff
  only_held k := by
    rw [held, show s'.runs k = s.runs k by simp [runs, running]]
    exact consistent.only_held k

/-- A watch whose task stops, with the slot stopped and the watch still held, keeps
consistency. -/
theorem Consistent.of_stop {k : Nat} (runs : s.runs k) {m : Manager L}
    (stopped : m.slot = .stopped) : (⟨m, s.running.set k false, s.held⟩ : Loop L).Consistent := by
  have held := consistent.only_held k runs
  refine ⟨fun j same => ?_, ?_, ?_, fun j runs' => ?_⟩
  · rw [List.length_set]
    exact consistent.held_latest j same
  · simp [stopped, held]
  · simp only [stopped, reduceCtorEq, false_iff, not_exists, not_and]
    intro j _ runs'
    exact consistent.none_runs_after_stop held j runs'
  · exact absurd runs' (consistent.none_runs_after_stop held j)

end Facts

end Agreement

variable {L : Type} [BEq L] (respond : L → Payload → Reaction L)

section Equations

variable (s : Loop L)

/-- A start makes a new running task, held, unless the lookup is not watched or a watch runs. -/
theorem step_startWatch : (s.step respond .startWatch).1 =
    if s.manager.request.mode != "watch" || s.manager.watching then s
    else ⟨{ s.manager with slot := .running }, s.running ++ [true], some s.running.length⟩ := by
  by_cases refused : (s.manager.request.mode != "watch" || s.manager.watching) = true <;>
    simp [step, startWatch, refused]

/-- An end stops the held watch's task and drops it, unless no watch is held by the slot. -/
theorem step_endWatch : (s.step respond .endWatch).1 =
    if s.manager.slot == .idle then s
    else ⟨{ s.manager with slot := .idle }, stopHeld s.running s.held, none⟩ := by
  by_cases idle : (s.manager.slot == .idle) = true <;> simp [step, endWatch, idle]

theorem step_offer (k : Nat) (event : WatchEvent) : s.step respond (.offer k event) =
    if s.runs k then ({ s with manager := (s.manager.deliver respond event).1 },
      (s.manager.deliver respond event).2.1)
    else (s, []) :=
  rfl

theorem step_fail (k : Nat) (f : Fault) : s.step respond (.fail k f) =
    if s.runs k then (⟨(s.manager.crash respond f).1, s.running.set k false, s.held⟩,
      (s.manager.crash respond f).2.1)
    else (s, []) :=
  rfl

theorem step_close (k : Nat) : (s.step respond (.close k)).1 =
    if s.runs k then ⟨s.manager.finish.1, s.running.set k false, s.held⟩ else s := by
  simp only [step]
  split <;> rfl

/-- Every action moves the manager by one of its own steps, or leaves it: the tasks only decide
whether a watch's event, failure or end reaches the manager. -/
theorem step_manager (a : Action L) : (s.step respond a).1.manager = s.manager ∨
    ∃ st : Step L, (s.step respond a).1.manager = s.manager.step respond st := by
  cases a with
  | on e l => exact .inr ⟨.on e l, rfl⟩
  | off e l => exact .inr ⟨.off e l, rfl⟩
  | refresh outcome => exact .inr ⟨.refresh outcome, rfl⟩
  | startWatch =>
    refine .inr ⟨.startWatch, ?_⟩
    rw [step_startWatch, Manager.step, startWatch_fst]
    split <;> rfl
  | endWatch =>
    refine .inr ⟨.endWatch, ?_⟩
    rw [step_endWatch, Manager.step_endWatch]
    split <;> rfl
  | offer k event =>
    rw [step_offer]
    split
    · exact .inr ⟨.deliver event, rfl⟩
    · exact .inl rfl
  | fail k f =>
    rw [step_fail]
    split
    · exact .inr ⟨.crash f, rfl⟩
    · exact .inl rfl
  | close k =>
    rw [step_close]
    split
    · exact .inr ⟨.finish, rfl⟩
    · exact .inl rfl

/-- No run changes the request the manager serves. -/
@[simp] theorem run_request (acts : List (Action L)) :
    (s.run respond acts).manager.request = s.manager.request := by
  induction acts generalizing s with
  | nil => rfl
  | cons a rest ih =>
    rw [run_cons, ih]
    rcases step_manager respond s a with same | ⟨st, moved⟩
    · rw [same]
    · rw [moved, Manager.step_request]

end Equations

section Consistent

variable {s : Loop L} (consistent : s.Consistent)
include consistent

/-- Every action keeps the manager's slot in agreement with its tasks. -/
theorem Consistent.step (a : Action L) : (s.step respond a).1.Consistent := by
  cases a with
  | on e l => exact consistent.of_frame rfl rfl rfl
  | off e l => exact consistent.of_frame rfl rfl rfl
  | refresh outcome => exact consistent.of_frame (refresh_slot respond _ outcome) rfl rfl
  | startWatch =>
    rw [step_startWatch]
    split
    · exact consistent
    · -- A new watch, held and running, while no other task runs.
      rename_i allowed
      simp only [Bool.or_eq_true, bne_iff_ne, ne_eq, not_or, Decidable.not_not,
        Bool.not_eq_true] at allowed
      have quiet : ∀ k, s.running[k]? ≠ some true := fun k runs =>
        absurd ((consistent.watching_iff_runs).mpr ⟨k, runs⟩) (by simp [allowed.2])
      refine ⟨fun k same => ?_, by simp, ?_, fun k runs => ?_⟩
      · simp only [Option.some.injEq] at same
        simp [← same]
      · simp [runs]
      · simp [runs_append_true quiet runs]
  | endWatch =>
    rw [step_endWatch]
    split
    · exact consistent
    · -- The held watch is dropped and its task stopped.
      rename_i busy
      obtain ⟨k, held⟩ := Option.ne_none_iff_exists'.mp
        (mt consistent.idle_iff.mpr (by simpa using busy))
      refine ⟨by simp, by simp, by simp, fun j runs => ?_⟩
      simp only [Loop.runs, held, stopHeld] at runs
      exact absurd runs (consistent.none_runs_after_stop held j)
  | offer k event =>
    rw [step_offer]
    split
    · exact consistent.of_frame (deliver_slot respond _ event) rfl rfl
    · exact consistent
  | fail k f =>
    rw [step_fail]
    split
    · rename_i runs
      exact consistent.of_stop runs
        (crash_of_watching respond _ (consistent.watching_of_runs runs).1 f).2.2
    · exact consistent
  | close k =>
    rw [step_close]
    split
    · rename_i runs
      exact consistent.of_stop runs
        (finish_slot_of_watching _ (consistent.watching_of_runs runs).1)
    · exact consistent

end Consistent

/-- The slot agrees with the tasks after every run from a consistent state. -/
theorem Consistent.run {s : Loop L} (consistent : s.Consistent) (acts : List (Action L)) :
    (s.run respond acts).Consistent := by
  -- The induction is on the actions, each keeping the agreement.
  induction acts generalizing s with
  | nil => exact consistent
  | cons a rest ih => exact ih (consistent.step respond a)

/-- An action's mark decides whether a watch is held after it: a creation holds one, an end
drops it, and an action without a mark leaves it. -/
theorem status_step (s : Loop L) (a : Action L) :
    (s.step respond a).1.status = (s.mark a).getD s.status := by
  cases a with
  | startWatch =>
    rw [step_startWatch]
    simp only [mark, startWatch]
    split <;> simp_all [status]
  | endWatch =>
    rw [step_endWatch]
    simp only [mark]
    split <;> simp_all [status]
  | offer k event =>
    rw [step_offer]
    split <;> rfl
  | fail k f =>
    rw [step_fail]
    split <;> rfl
  | close k =>
    rw [step_close]
    split <;> rfl
  | on e l => rfl
  | off e l => rfl
  | refresh outcome => rfl

/-- After a run a watch is held exactly as the run's last mark left it. -/
theorem status_run (s : Loop L) (acts : List (Action L)) :
    (s.run respond acts).status = (s.marks respond acts).getLast?.getD s.status := by
  -- The last mark is the rest's last one, or else this action's.
  induction acts generalizing s with
  | nil => rfl
  | cons a rest ih =>
    rw [run_cons, ih, status_step respond, marks,
      List.getLast?_append, Option.getD_or]
    cases s.mark a <;> rfl

/-- After a run from a fresh manager, a watch is held exactly when the run's last mark is a
creation. -/
theorem held_isSome_iff (q : Request) (acts : List (Action L)) :
    ((fresh q : Loop L).run respond acts).held.isSome = true ↔
      ((fresh q : Loop L).marks respond acts).getLast? = some .created := by
  have last := status_run respond (fresh q : Loop L) acts
  rw [show (fresh q : Loop L).status = .ended from rfl] at last
  unfold status at last
  -- The status is the last mark, `ended` before any.
  cases marked : ((fresh q : Loop L).marks respond acts).getLast? with
  | none =>
    rw [marked] at last
    split at last
    · cases last
    · rename_i notHeld
      simpa using notHeld
  | some mk =>
    rw [marked] at last
    split at last <;> rename_i heldSome
    · simp only [Option.getD_some] at last
      simp [heldSome, ← last]
    · simp only [Option.getD_some] at last
      simp [heldSome, ← last]

omit [BEq L] in
/-- A start asks for a watch exactly when the lookup is watched and the manager not watching. -/
theorem startWatch_isSome_iff (m : Manager L) :
    m.startWatch.2.isSome = true ↔ m.request.mode = "watch" ∧ m.watching = false := by
  unfold startWatch
  split
  · rename_i refused
    simp only [Bool.or_eq_true, bne_iff_ne, ne_eq] at refused
    simp only [Option.isSome_none, Bool.false_eq_true, false_iff, not_and, Bool.not_eq_false]
    exact fun watched => refused.resolve_left (not_not_intro watched)
  · rename_i allowed
    simp only [Bool.or_eq_true, bne_iff_ne, ne_eq, not_or, Decidable.not_not,
      Bool.not_eq_true] at allowed
    simp [allowed]

/-- A start adds one task exactly when it asks the backend for a watch. -/
theorem step_startWatch_running (s : Loop L) : (s.step respond .startWatch).1.running =
    if s.manager.startWatch.2.isSome then s.running ++ [true] else s.running := by
  rw [step_startWatch]
  by_cases refused : (s.manager.request.mode != "watch" || s.manager.watching) = true
  · have : s.manager.startWatch.2.isSome = false := by simp [startWatch, refused]
    simp [refused, this]
  · have : s.manager.startWatch.2.isSome = true := by simp [startWatch, refused]
    simp [refused, this]

omit [BEq L] in
/-- An end is refused, naming the lookup, exactly when the slot is idle. -/
theorem endWatch_eq_error_iff (m : Manager L) :
    m.endWatch = .error ("No active watch on " ++ m.request.method) ↔ m.slot = .idle := by
  unfold endWatch
  by_cases idle : m.slot = .idle <;> simp [idle]

omit [BEq L] in
/-- An end is refused only on an idle slot. -/
theorem idle_of_endWatch_eq_error {m : Manager L} {msg : String}
    (refused : m.endWatch = .error msg) : m.slot = .idle := by
  by_cases idle : m.slot = .idle
  · exact idle
  · simp [endWatch, idle] at refused

omit [BEq L] in
/-- An end that goes through was made on a slot that was not idle, and only idles it. -/
theorem endWatch_eq_ok {m m' : Manager L} (ended : m.endWatch = .ok m') :
    m.slot ≠ .idle ∧ m' = { m with slot := .idle } := by
  by_cases idle : m.slot = .idle
  · simp [endWatch, idle] at ended
  · simp only [endWatch, idle, beq_iff_eq, if_false, Except.ok.injEq] at ended
    exact ⟨idle, ended.symm⟩

/-- Whatever happens to a lookup, at most one task consumes a watch, that of the latest watch; a
watch starts exactly when none runs, and what any other watch offers reaches no listener. -/
theorem run_keeps_one_watch (q : Request) (acts : List (Action L)) :
    let s := (fresh q : Loop L).run respond acts
    (∀ k, s.runs k → s.held = some k ∧ k + 1 = s.running.length) ∧
    ((s.manager.startWatch.2.isSome = true ↔ q.mode = "watch" ∧ ∀ k, ¬ s.runs k) ∧
      (s.step respond .startWatch).1.running =
        if s.manager.startWatch.2.isSome then s.running ++ [true] else s.running) ∧
    ((s.manager.endWatch = .error ("No active watch on " ++ q.method) ↔
        ((fresh q : Loop L).marks respond acts).getLast? ≠ some .created) ∧
      (∀ msg, s.manager.endWatch = .error msg → s.step respond .endWatch = (s, [])) ∧
      (∀ m, s.manager.endWatch = .ok m → (s.step respond .endWatch).1.manager = m ∧
        m.watching = false ∧ ∀ k, ¬ (s.step respond .endWatch).1.runs k)) ∧
    (∀ k f, s.runs k →
      (s.step respond (.fail k f)).2 = s.manager.listeners.error.map (·, .fault f) ∧
      (s.step respond (.fail k f)).1.manager.watching = false ∧
      (s.step respond (.fail k f)).1.manager.value = s.manager.value) ∧
    (∀ k event, ¬ (s.manager.watching = true ∧ s.held = some k) →
      s.step respond (.offer k event) = (s, [])) := by
  intro s
  have consistent : s.Consistent := (consistent_fresh q).run respond acts
  have request : s.manager.request = q := run_request respond _ acts
  refine ⟨fun k runs => ?_, ⟨?_, step_startWatch_running respond s⟩, ⟨?_, ?_, ?_⟩,
    fun k f runs => ?_, fun k event other => ?_⟩
  · -- (i) A running task is the held watch's, and the held watch is the latest.
    have held := consistent.only_held k runs
    exact ⟨held, consistent.held_latest k held⟩
  · -- (ii) The manager is not watching exactly when no task runs.
    rw [startWatch_isSome_iff, request, ← Bool.not_eq_true, consistent.watching_iff_runs]
    simp
  · -- (iii) A refusal is an idle slot, which is no watch held, which is no creation last.
    have refusal := endWatch_eq_error_iff s.manager
    rw [request] at refusal
    rw [refusal, consistent.idle_iff, ← Option.not_isSome_iff_eq_none, held_isSome_iff]
  · intro msg refused
    simp [step, endWatch, idle_of_endWatch_eq_error refused]
  · -- An end that goes through stops the held watch's task.
    intro m ended
    obtain ⟨busy, manager⟩ := endWatch_eq_ok ended
    obtain ⟨k, held⟩ := Option.ne_none_iff_exists'.mp (mt consistent.idle_iff.mpr busy)
    rw [step_endWatch]
    simp only [beq_iff_eq, busy, if_false]
    refine ⟨manager.symm, by simp [manager, watching], fun j runs => ?_⟩
    simp only [Loop.runs, held, stopHeld] at runs
    exact consistent.none_runs_after_stop held j runs
  · -- (iv) The running watch's failure is the manager's crash.
    obtain ⟨watching, -⟩ := consistent.watching_of_runs runs
    obtain ⟨calls, value, stopped⟩ := crash_of_watching respond s.manager watching f
    rw [step_fail, if_pos runs]
    exact ⟨calls, by simp [Manager.watching, stopped], value⟩
  · -- (v) Any other watch has no running task.
    rw [step_offer, if_neg fun runs => other (consistent.watching_of_runs runs)]

end Loop

end Manager

end ConsulLookup
