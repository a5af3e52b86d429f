import ConsulLookup.Directive
import ConsulLookup.Proofs.State.Steps

/-! How a lookup answers its host, once. -/

namespace ConsulLookup

namespace LookupDirective

variable (l : LookupDirective) (expression : Value) (outcome : Except Fault Fetched)

/-- An expression that makes no request resolves to its error, and nothing is fetched. -/
theorem resolve_of_refused {x : RequestError}
    (refused : parseRequest l.operations (Mapping.ofBag l.config.defaults) expression = .error x) :
    l.resolve expression outcome = (.error (.request x), []) := by
  simp only [resolve, start, prepare, refused]

/-- A request is fetched once, with its own options, from a fresh manager. -/
theorem start_of_parsed {q : Request}
    (accepted : parseRequest l.operations (Mapping.ofBag l.config.defaults) expression = .ok q) :
    l.start expression outcome =
      (begin (Manager.create q) outcome, [.fetch q.method q.backendOptions]) := by
  simp only [start, prepare, accepted]
  rfl

/-- A lookup that starts goes on to its watch, when the request asks for one. -/
theorem resolve_of_started {m : Manager Unit} {calls : List BackendCall}
    (started : l.start expression outcome = (.ok m, calls)) :
    l.resolve expression outcome = (.ok m.startWatch.1, calls ++ m.startWatch.2.toList) := by
  simp only [resolve, started]

/-- A lookup that fails to start resolves to that failure, with no watch. -/
theorem resolve_of_failed {err : DirectiveError} {calls : List BackendCall}
    (failed : l.start expression outcome = (.error err, calls)) :
    l.resolve expression outcome = (.error err, calls) := by
  simp only [resolve, failed]

/-- A first fetch that fails ends the lookup, unless the request says to ignore it. -/
theorem begin_of_failure {q : Request} {e : Fault} (strict : q.ignoreStartupNodata = false) :
    begin (Manager.create q) (.error e) = .error (.connection q.method e) := by
  simp only [begin, Manager.refresh, Manager.create, strict]
  rfl

/-- A first fetch that succeeds, or whose failure is ignored, gives a manager of the request that
holds the fetched value, or none, and watches nothing yet. -/
theorem begin_kept {q : Request} (kept : outcome.isOk ∨ q.ignoreStartupNodata) :
    ∃ m, begin (Manager.create q) outcome = .ok m ∧ m.request = q ∧
      m.hasValue = outcome.isOk ∧ m.fetched = outcome.toOption ∧ m.watching = false := by
  cases outcome with
  | ok f => exact ⟨_, rfl, rfl, rfl, rfl, rfl⟩
  | error e =>
    have ignored : q.ignoreStartupNodata = true := by
      simpa [Except.isOk, Except.toBool] using kept
    refine ⟨((Manager.create q).refresh silent (.error e)).1, ?_, rfl, rfl, rfl, rfl⟩
    simp only [begin, Manager.refresh]
    rw [Manager.create, if_pos ignored]

end LookupDirective

/-- Handling a context with a lookup is resolving its expression, the manager handed over. -/
theorem Directive.handle_lookup (l : LookupDirective) (ctx : DirectiveContext)
    (outcome : Except Fault Fetched) :
    (Directive.lookup l).handle ctx outcome =
      ⟨(l.resolve (.str ctx.expression) outcome).1.map .lookup,
        (l.resolve (.str ctx.expression) outcome).2⟩ := by
  cases resolved : l.resolve (.str ctx.expression) outcome
  simp only [Directive.handle, resolved]

/-- A lookup calls its host back exactly once: with the expression's error, with the first
fetch's failure, or with a manager that watches only afterwards, from the first fetch's value. -/
theorem handle_calls_back_once (l : LookupDirective) (ctx : DirectiveContext)
    (outcome : Except Fault Fetched) :
    let handling := (Directive.lookup l).handle ctx outcome
    let resolved := l.resolve (.str ctx.expression) outcome
    (handling.result = resolved.1.map .lookup ∧ handling.calls = resolved.2) ∧
    match parseRequest l.operations (Mapping.ofBag l.config.defaults) (.str ctx.expression) with
    | .error x => handling.result = .error (.request x) ∧ handling.calls = []
    | .ok q =>
      (∀ e, outcome = .error e → q.ignoreStartupNodata = false →
        handling.result = .error (.connection q.method e) ∧
        handling.calls = [.fetch q.method q.backendOptions]) ∧
      (outcome.isOk ∨ q.ignoreStartupNodata →
        ∃ m, (l.start (.str ctx.expression) outcome).1 = .ok m ∧ m.request = q ∧
          m.hasValue = outcome.isOk ∧ m.watching = false ∧
          handling.result = .ok (.lookup m.startWatch.1) ∧
          handling.calls = .fetch q.method q.backendOptions ::
            if q.watch then [.watch q.method q.backendOptions outcome.toOption] else []) := by
  dsimp only
  -- Handling is resolving, with the manager handed over as the resolution.
  rw [Directive.handle_lookup]
  -- Reading the parts off the handling by reduction alone; `rfl` would evaluate the parse.
  refine ⟨⟨by dsimp only, by dsimp only⟩, ?_⟩
  cases parse :
      parseRequest l.operations (Mapping.ofBag l.config.defaults) (.str ctx.expression) with
  | error x =>
    rw [l.resolve_of_refused _ outcome parse]
    exact ⟨rfl, rfl⟩
  | ok q =>
    have started := l.start_of_parsed (.str ctx.expression) outcome parse
    refine ⟨?_, ?_⟩
    · -- The failure is the lookup's answer, and no watch follows it.
      intro e failed strict
      subst failed
      rw [LookupDirective.begin_of_failure strict] at started
      rw [l.resolve_of_failed _ _ started]
      exact ⟨rfl, rfl⟩
    · -- The manager the host gets is the one the fetch left, before its watch starts.
      intro kept
      obtain ⟨m, begun, request, valued, fetched, idle⟩ := LookupDirective.begin_kept outcome kept
      rw [begun] at started
      have watch := Manager.startWatch_snd_of_idle m idle
      rw [request, fetched] at watch
      rw [l.resolve_of_started _ _ started, watch]
      refine ⟨m, by rw [started], request, valued, idle, rfl, ?_⟩
      simp only [Manager.methodOptions, request]
      split <;> rfl

end ConsulLookup
