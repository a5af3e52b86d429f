import ConsulLookup.Proofs.State.Steps

/-! The latest success of a lookup, and where its next watch starts. -/

namespace ConsulLookup

namespace Manager

variable {L : Type} [BEq L] (respond : L → Payload → Reaction L)

/-- The successes of a run, in order. -/
def successes : Manager L → List (Step L) → List Fetched
  | _, [] => []
  | m, s :: rest => (s.success m).toList ++ successes (m.step respond s) rest

/-- The value of a manager is the value of its fetched one: both come from the same success. -/
def Settled (m : Manager L) : Prop :=
  m.value = m.fetched.map Fetched.value

omit [BEq L] in
theorem settled_create (q : Request) : (create q : Manager L).Settled :=
  rfl

/-- A step keeps the value that of the fetched one. -/
theorem Settled.step {m : Manager L} (settled : m.Settled) (s : Step L) :
    (m.step respond s).Settled := by
  -- A success sets both from one fetched value; any other step touches neither.
  obtain ⟨f, -, ls, sl, moved⟩ | ⟨-, ls, sl, moved⟩ := step_cases respond m s
  · rw [moved]
    rfl
  · rw [moved]
    exact settled

/-- A step fetches its success, if it has one, and keeps the fetched value otherwise. -/
theorem step_fetched (m : Manager L) (s : Step L) :
    (m.step respond s).fetched = (s.success m).or m.fetched := by
  obtain ⟨f, success, ls, sl, moved⟩ | ⟨failed, ls, sl, moved⟩ := step_cases respond m s
  · rw [moved, success]
    rfl
  · rw [moved, failed]
    rfl

/-- After a run the fetched value is the run's last success, or the one from before the run. -/
theorem run_fetched (m : Manager L) (steps : List (Step L)) :
    (m.run respond steps).fetched = (successes respond m steps).getLast?.or m.fetched := by
  induction steps generalizing m with
  | nil => rfl
  | cons s rest ih =>
    -- The last success is the rest's last one, or else this step's.
    rw [run_cons, ih, step_fetched, successes, List.getLast?_append, Option.or_assoc]
    cases s.success m <;> rfl

/-- Whatever listeners do and whatever the backend answers, a lookup has a value exactly after a
success; its value, and the start of its next watch, are those of the latest success. Fetches
never fail outright: a refresh hands its callback the value, or the failure and no value. -/
theorem run_follows_last_success (q : Request) (steps : List (Step L)) :
    let m := (create q : Manager L).run respond steps
    let last := (successes respond (create q) steps).getLast?
    (m.hasValue = last.isSome ∧ m.value = last.map Fetched.value ∧ m.fetched = last) ∧
    (∀ operation options since,
      m.startWatch.2 = some (.watch operation options since) → since = last) ∧
    (∀ outcome, (m.refresh respond outcome).2.2 =
      match outcome with
      | .ok f => (none, f.value)
      | .error e => (some e, .null)) := by
  intro m last
  -- A fresh manager has fetched nothing, so only the run's successes count.
  have fetched : m.fetched = last :=
    (run_fetched respond (create q) steps).trans Option.or_none
  have settled : m.Settled :=
    run_invariant respond Settled (fun _ s settled => settled.step respond s) _ steps
      (settled_create q)
  have value : m.value = last.map Fetched.value := by
    rw [settled, fetched]
  refine ⟨⟨by rw [hasValue, value, Option.isSome_map], value, fetched⟩, ?_, ?_⟩
  · -- A watch starts from the fetched value.
    intro operation options since started
    unfold startWatch at started
    split at started
    · cases started
    · cases started
      exact fetched
  · intro outcome
    cases outcome <;> rfl

end Manager

end ConsulLookup
