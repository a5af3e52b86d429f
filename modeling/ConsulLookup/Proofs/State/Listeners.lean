import ConsulLookup.Proofs.State.Steps

/-! The listeners of a lookup and the emissions that call them. -/

namespace ConsulLookup

namespace Subscriptions

variable {L : Type}

/-- Every event lists its listeners once each. -/
def Nodup (s : Subscriptions L) : Prop :=
  ∀ e, (s.get e).Nodup

@[simp] theorem get_set_self (s : Subscriptions L) (e : StateEvent) (ls : List L) :
    (s.set e ls).get e = ls := by
  cases e <;> rfl

theorem get_set_of_ne (s : Subscriptions L) {e e' : StateEvent} (ls : List L) (other : e' ≠ e) :
    (s.set e ls).get e' = s.get e' := by
  cases e <;> cases e' <;> simp_all [set, get]

@[simp] theorem set_get_self (s : Subscriptions L) (e : StateEvent) : s.set e (s.get e) = s := by
  cases e <;> rfl

theorem Nodup.set {s : Subscriptions L} (distinct : s.Nodup) {e : StateEvent} {ls : List L}
    (fresh : ls.Nodup) : (s.set e ls).Nodup := by
  intro e'
  by_cases same : e' = e
  · subst same
    simpa using fresh
  · simpa [get_set_of_ne _ _ same] using distinct e'

variable [BEq L]

/-- The subscriptions after changes made one after another. -/
def updateAll (s : Subscriptions L) (changes : List (SubscriptionChange L)) : Subscriptions L :=
  changes.foldl update s

@[simp] theorem updateAll_nil (s : Subscriptions L) : s.updateAll [] = s :=
  rfl

theorem updateAll_append (s : Subscriptions L) (first later : List (SubscriptionChange L)) :
    s.updateAll (first ++ later) = (s.updateAll first).updateAll later :=
  List.foldl_append

variable [LawfulBEq L]

/-- Unsubscribing says whether the listener was there, and takes exactly it out of its event's
list, the others keeping their order. -/
theorem remove_eq {s : Subscriptions L} (distinct : s.Nodup) (e : StateEvent) (l : L) :
    s.remove e l = (s.set e ((s.get e).filter (· != l)), (s.get e).contains l) := by
  unfold remove
  by_cases present : l ∈ s.get e
  · simp [present, (distinct e).erase_eq_filter]
  · -- Nothing equal to the listener is listed, so nothing is taken out.
    have kept : (s.get e).filter (· != l) = s.get e := by
      apply List.filter_eq_self.mpr
      intro a member
      have other : a ≠ l := fun same => present (same ▸ member)
      simpa using other
    simp [present, kept]

theorem Nodup.add {s : Subscriptions L} (distinct : s.Nodup) (e : StateEvent) (l : L) :
    (s.add e l).Nodup := by
  unfold Subscriptions.add
  -- The listener goes at the end only when it is not listed yet.
  by_cases present : l ∈ s.get e
  · simpa [present] using distinct
  · simp only [List.contains_iff_mem, present, if_false]
    apply distinct.set
    refine List.nodup_append.mpr ⟨distinct e, List.nodup_cons.mpr ⟨List.not_mem_nil, .nil⟩, ?_⟩
    intro a member b single same
    rw [List.mem_singleton.mp single] at same
    exact present (same ▸ member)

theorem Nodup.remove {s : Subscriptions L} (distinct : s.Nodup) (e : StateEvent) (l : L) :
    (s.remove e l).1.Nodup := by
  rw [remove_eq distinct]
  exact distinct.set ((distinct e).filter _)

theorem Nodup.update {s : Subscriptions L} (distinct : s.Nodup) :
    ∀ c : SubscriptionChange L, (s.update c).Nodup
  | .on e l => distinct.add e l
  | .off e l => distinct.remove e l

theorem Nodup.updateAll {s : Subscriptions L} (distinct : s.Nodup)
    (changes : List (SubscriptionChange L)) : (s.updateAll changes).Nodup := by
  induction changes generalizing s with
  | nil => exact distinct
  | cons c rest ih => exact ih (distinct.update c)

end Subscriptions

namespace Manager

variable {L : Type} [BEq L]

/-- Calling the listeners of a snapshot calls each once, in order, with the payload, and leaves
the live subscriptions with the changes they made, in call order. -/
theorem callAll_eq (respond : L → Payload → Reaction L) (p : Payload) (s : Subscriptions L)
    (ls : List L) :
    callAll respond p s ls =
      (s.updateAll (ls.flatMap fun l => (respond l p).changes), ls.map (·, p)) := by
  -- The induction is on the snapshot; the subscriptions it is called from change as it goes.
  induction ls generalizing s with
  | nil => rfl
  | cons l rest ih =>
    simp only [callAll, ih, List.flatMap_cons, Subscriptions.updateAll_append, List.map_cons]
    rfl

/-- An emission calls the listeners of its event at its start, and the subscriptions they change
are those of the next emission. -/
theorem emit_eq (m : Manager L) (respond : L → Payload → Reaction L) (e : StateEvent)
    (p : Payload) :
    m.emit respond e p =
      ({ m with listeners :=
          m.listeners.updateAll ((m.listeners.get e).flatMap fun l => (respond l p).changes) },
        (m.listeners.get e).map (·, p)) := by
  simp only [emit, callAll_eq]

/-- The manager after steps taken in order, each with what the listeners it calls do then. -/
def runEach : Manager L → List (Step L × (L → Payload → Reaction L)) → Manager L
  | m, [] => m
  | m, (s, respond) :: rest => runEach (m.step respond s) rest

/-- An emission of an event with a payload, from manager `m` to `m'` with the listener calls
`calls`: the listeners of the event when it starts are called once each, in order, with the
payload, and the subscriptions are left with the changes they made, in call order. -/
def Emits (respond : L → Payload → Reaction L) (m m' : Manager L) (calls : List (L × Payload))
    (e : StateEvent) (p : Payload) : Prop :=
  calls = (m.listeners.get e).map (·, p) ∧
    m'.listeners = m.listeners.updateAll ((m.listeners.get e).flatMap fun l => (respond l p).changes)

/-- What the laws of listeners ask of one step from a manager, the listeners it calls doing what
`respond` says: `on` puts the listener at the end of its event's list unless it is there, and
gives it back; `off` says whether the listener was there and takes out exactly it; a fetch, and
an event or a failure of the running watch, emit, keeping the value or taking the new one; the
other steps leave the listeners alone. No law reads the failure a listener ends with. -/
def Obeys (respond : L → Payload → Reaction L) (m : Manager L) : Step L → Prop
  | .on e l => (m.on e l).2 = l ∧ (m.on e l).1.listeners =
      m.listeners.set e (if (m.listeners.get e).contains l then m.listeners.get e
        else m.listeners.get e ++ [l])
  | .off e l => (m.off e l).2 = (m.listeners.get e).contains l ∧
      (m.off e l).1.listeners = m.listeners.set e ((m.listeners.get e).filter (· != l))
  | .refresh (.ok f) =>
      Emits respond m (m.refresh respond (.ok f)).1 (m.refresh respond (.ok f)).2.1 .change
        (.value f.value) ∧ (m.refresh respond (.ok f)).1.value = some f.value
  | .refresh (.error x) =>
      Emits respond m (m.refresh respond (.error x)).1 (m.refresh respond (.error x)).2.1 .error
        (.fault x) ∧ (m.refresh respond (.error x)).1.value = m.value
  | .deliver (.change v i) =>
      if m.watching then
        Emits respond m (m.deliver respond (.change v i)).1 (m.deliver respond (.change v i)).2.1
          .change (.value v) ∧ (m.deliver respond (.change v i)).1.value = some v
      else (m.deliver respond (.change v i)).1.listeners = m.listeners ∧
        (m.deliver respond (.change v i)).2.1 = []
  | .deliver (.failure f) =>
      if m.watching then
        Emits respond m (m.deliver respond (.failure f)).1 (m.deliver respond (.failure f)).2.1
          .error (.fault f) ∧ (m.deliver respond (.failure f)).1.value = m.value
      else (m.deliver respond (.failure f)).1.listeners = m.listeners ∧
        (m.deliver respond (.failure f)).2.1 = []
  | .crash f =>
      if m.watching then
        Emits respond m (m.crash respond f).1 (m.crash respond f).2.1 .error (.fault f) ∧
          (m.crash respond f).1.value = m.value
      else (m.crash respond f).1.listeners = m.listeners ∧ (m.crash respond f).2.1 = []
  | .startWatch => m.startWatch.1.listeners = m.listeners
  | .endWatch => (m.step respond .endWatch).listeners = m.listeners
  | .finish => m.finish.1.listeners = m.listeners

section Laws

variable [LawfulBEq L] (respond : L → Payload → Reaction L)

/-- Every step keeps each event's listeners listed once each. -/
theorem step_nodup {m : Manager L} (distinct : m.listeners.Nodup) (s : Step L) :
    (m.step respond s).listeners.Nodup := by
  -- Subscriptions move only by `add`, `remove` and the changes of the listeners an emission calls.
  cases s with
  | on e l => exact distinct.add e l
  | off e l => exact distinct.remove e l
  | refresh outcome =>
    cases outcome <;> simpa [step, refresh, receive, emit_eq] using distinct.updateAll _
  | startWatch =>
    rw [step, startWatch_fst]
    split <;> exact distinct
  | endWatch =>
    rw [step_endWatch]
    split <;> exact distinct
  | deliver event =>
    rw [step, deliver_fst]
    split
    · exact distinct
    · cases event <;> simpa [receive, emit_eq] using distinct.updateAll _
  | crash f =>
    rw [step, crash_fst]
    split
    · exact distinct
    · simpa [emit_eq] using distinct.updateAll _
  | finish =>
    rw [step, finish_fst]
    split <;> exact distinct

/-- Every run keeps each event's listeners listed once each. -/
theorem runEach_nodup {m : Manager L} (distinct : m.listeners.Nodup)
    (steps : List (Step L × (L → Payload → Reaction L))) : (m.runEach steps).listeners.Nodup := by
  -- The induction is on the steps, each with its own listeners' behaviour.
  induction steps generalizing m with
  | nil => exact distinct
  | cons first rest ih =>
    obtain ⟨s, respond⟩ := first
    exact ih (step_nodup respond distinct s)

/-- From a manager whose listeners are listed once each, every step obeys the laws of listeners. -/
theorem obeys {m : Manager L} (distinct : m.listeners.Nodup) (s : Step L) : Obeys respond m s := by
  cases s with
  | on e l =>
    refine ⟨rfl, ?_⟩
    by_cases present : l ∈ m.listeners.get e <;> simp [on, Subscriptions.add, present]
  | off e l =>
    have removed := Subscriptions.remove_eq distinct e l
    exact ⟨by simp [off, removed], by simp [off, removed]⟩
  | refresh outcome =>
    cases outcome with
    | ok f => exact ⟨⟨by simp [refresh, receive, emit_eq], by simp [refresh, receive, emit_eq]⟩, rfl⟩
    | error x => exact ⟨⟨by simp [refresh, emit_eq], by simp [refresh, emit_eq]⟩, rfl⟩
  | startWatch =>
    show m.startWatch.1.listeners = m.listeners
    rw [startWatch_fst]
    split <;> rfl
  | endWatch =>
    show (m.step respond .endWatch).listeners = m.listeners
    rw [step_endWatch]
    split <;> rfl
  | deliver event =>
    -- Only the running watch delivers; a change is taken in, a failure is reported.
    by_cases running : m.watching = true
    · cases event with
      | change v i =>
        simp only [Obeys, running, if_true]
        exact ⟨⟨by simp [deliver, running, receive, emit_eq],
          by simp [deliver, running, receive, emit_eq]⟩, by simp [deliver, running, receive]⟩
      | failure f =>
        simp only [Obeys, running, if_true]
        exact ⟨⟨by simp [deliver, running, emit_eq], by simp [deliver, running, emit_eq]⟩,
          by simp [deliver, running, emit_eq]⟩
    · cases event with
      | change v i =>
        simp only [Obeys, running]
        exact ⟨by simp [deliver, running], by simp [deliver, running]⟩
      | failure f =>
        simp only [Obeys, running]
        exact ⟨by simp [deliver, running], by simp [deliver, running]⟩
  | crash f =>
    by_cases running : m.watching = true
    · simp only [Obeys, running, if_true]
      exact ⟨⟨by simp [crash, running, emit_eq], by simp [crash, running, emit_eq]⟩,
        by simp [crash, running, emit_eq]⟩
    · simp only [Obeys, running]
      exact ⟨by simp [crash, running], by simp [crash, running]⟩
  | finish =>
    show m.finish.1.listeners = m.listeners
    rw [finish_fst]
    split <;> rfl

end Laws

/-- Whatever steps a lookup has taken, and whatever its listeners did when called, each event
lists its listeners once each, and the next step obeys the laws of listeners, whatever the
listeners it calls do. -/
theorem listeners_obey_laws [LawfulBEq L] (q : Request)
    (before : List (Step L × (L → Payload → Reaction L))) (s : Step L)
    (respond : L → Payload → Reaction L) :
    ((create q).runEach before).listeners.Nodup ∧ Obeys respond ((create q).runEach before) s := by
  have fresh : (create q : Manager L).listeners.Nodup := by
    intro e
    cases e <;> exact List.nodup_nil
  have distinct := runEach_nodup fresh before
  exact ⟨distinct, obeys respond distinct s⟩

/-- Two change listeners, the first unsubscribing the second and failing, and then a fetch. -/
theorem listeners_obey_laws_two :
    ((create ⟨⟨"kv.get", "kv.get", Schema.kvGet, ["kv"], ["key"], ["index"], [], ""⟩, []⟩ :
        Manager String).runEach
      [(.on .change "a", fun _ _ => ⟨[], none⟩), (.on .change "b", fun _ _ => ⟨[], none⟩)]).listeners.Nodup ∧
    Obeys (fun l _ => if l = "a" then ⟨[.off .change "b"], some ⟨"RuntimeError", "a"⟩⟩ else ⟨[], none⟩)
      ((create ⟨⟨"kv.get", "kv.get", Schema.kvGet, ["kv"], ["key"], ["index"], [], ""⟩, []⟩ :
        Manager String).runEach
        [(.on .change "a", fun _ _ => ⟨[], none⟩), (.on .change "b", fun _ _ => ⟨[], none⟩)])
      (.refresh (.ok ⟨.int 1, .str "v"⟩)) :=
  listeners_obey_laws _ _ _ _

end Manager

end ConsulLookup
