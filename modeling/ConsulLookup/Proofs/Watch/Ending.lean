import ConsulLookup.Watch.Iterator
import ConsulLookup.Proofs.Watch.Recovery

/-! Ending a watch, and a watch iterated request by request. -/

namespace ConsulLookup

namespace Watch

section Loop

variable {d : Descriptor} {options : Mapping} {t : Timing}

end Loop

namespace Iterator

variable {d : Descriptor} {options : Mapping} {t : Timing}

/-- A suspended watch resumes with what was left of its cycle and goes on from its check. -/
theorem next_suspended (pending : List TraceItem) (s : WatchState) (answers : List Answer) :
    (⟨.suspended pending, s, false, answers⟩ : Iterator).next d options t =
      (pending ++ (loop d options t false s answers).1, (loop d options t false s answers).2.1,
        (loop d options t false s answers).2.2) := by
  simp [next]

/-- A request to a watch whose call cannot be built fails the cycle without asking the client: it
reports the call's fault and leaves the delay to the next request, one failure more in a row. -/
theorem next_unbuilt {pending : List TraceItem} {s : WatchState} {answers : List Answer}
    {f : Fault} (unbuilt : Call.build d options s.index = .error f) {delay : Seconds}
    (delayed : t.backoff (s.failures + 1) = .ok delay) :
    (⟨.suspended pending, s, false, answers⟩ : Iterator).next d options t =
      (pending, .event (.failure ⟨"TypeError", f.message⟩),
        ⟨.suspended [.sleep delay], { s with failures := s.failures + 1 }, false, answers⟩) := by
  simp [next_suspended, loop, unbuilt, delayed]

/-- A request to a watch whose call cannot be built, once its float delay has no doubling left,
raises the overflow. -/
theorem next_unbuilt_overflow {pending : List TraceItem} {s : WatchState}
    {answers : List Answer} {f : Fault} (unbuilt : Call.build d options s.index = .error f)
    (float : t.backoffBase.isFloat = true) (beyond : maxDoublings < s.failures) :
    (⟨.suspended pending, s, false, answers⟩ : Iterator).next d options t =
      (pending, .raised .delayOverflow, ⟨.finished, s, false, answers⟩) := by
  have stopped := t.backoff_overflow float (show maxDoublings + 1 < s.failures + 1 by omega)
  simp [next_suspended, loop, unbuilt, stopped]

/-- A watch whose call cannot be built, while its backoff reaches, fails request after request
with the call's fault (`next_unbuilt`): after `k` requests it waits again, `k` failures further
on, the client's answers untouched. An integer base always reaches, so its watch never finishes. -/
theorem after_unbuilt {f : Fault} {answers : List Answer} :
    ∀ (k : Nat) (s : WatchState) (pending : List TraceItem),
      (t.backoffBase.isFloat = false ∨ s.failures + k ≤ maxDoublings + 1) →
      Call.build d options s.index = .error f →
      ∃ pending', (⟨.suspended pending, s, false, answers⟩ : Iterator).after d options t
          (List.replicate k .next) =
        ⟨.suspended pending', { s with failures := s.failures + k }, false, answers⟩ := by
  intro k
  -- The induction is on the requests; each fails one more cycle and keeps the index.
  induction k with
  | zero => intro s pending _ _; exact ⟨pending, rfl⟩
  | succ k ih =>
    intro s pending reach unbuilt
    obtain ⟨delay, delayed⟩ := t.backoff_ok (n := s.failures + 1) (reach.imp_right (by omega))
    obtain ⟨pending', later⟩ := ih { s with failures := s.failures + 1 } [.sleep delay]
      (reach.imp_right fun room => by dsimp only; omega) unbuilt
    refine ⟨pending', ?_⟩
    rw [List.replicate_succ, Iterator.after, next_unbuilt unbuilt delayed]
    simpa [Nat.add_assoc, Nat.add_comm 1 k] using later

/-- A watch whose call cannot be built, with a float base, fails until 1024 failures come in a
row, and the request after them raises the overflow: the course `retries` gives. -/
theorem after_unbuilt_overflow (float : t.backoffBase.isFloat = true) {f : Fault}
    {answers : List Answer} {s : WatchState} {pending : List TraceItem}
    (counted : s.failures ≤ maxDoublings + 1) (unbuilt : Call.build d options s.index = .error f) :
    ∃ pending', (⟨.suspended pending, s, false, answers⟩ : Iterator).after d options t
          (List.replicate (maxDoublings + 1 - s.failures) .next) =
        ⟨.suspended pending', { s with failures := maxDoublings + 1 }, false, answers⟩ ∧
      (⟨.suspended pending', { s with failures := maxDoublings + 1 }, false, answers⟩ :
          Iterator).next d options t =
        (pending', .raised .delayOverflow,
          ⟨.finished, { s with failures := maxDoublings + 1 }, false, answers⟩) := by
  have spent : s.failures + (maxDoublings + 1 - s.failures) = maxDoublings + 1 := by omega
  obtain ⟨pending', failed⟩ := after_unbuilt (maxDoublings + 1 - s.failures) s pending
    (.inr (by omega)) unbuilt
  rw [spent] at failed
  -- The call is still the one that cannot be built: failed cycles leave the index alone.
  exact ⟨pending', failed, next_unbuilt_overflow unbuilt float (Nat.lt_succ_self _)⟩

end Iterator

end Watch

end ConsulLookup
