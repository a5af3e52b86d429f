import Mathlib.Data.List.TakeDrop
import Mathlib.Data.List.TakeWhile
import ConsulLookup.Directive

/-! References and the directive a registry hands each one to. -/

namespace ConsulLookup

namespace Reference

/-- A strategy name: an ASCII letter, then ASCII letters, digits, `_` and `-`. -/
def IsStrategy (s : String) : Prop :=
  ∃ first more, s.toList = first :: more ∧ first.isAlpha = true ∧
    ∀ c ∈ more, c.isAlphanum = true ∨ c = '_' ∨ c = '-'

/-- The characters of a reference. -/
theorem toList_reference (s e : String) :
    ("$" ++ s ++ ":" ++ e).toList = '$' :: (s.toList ++ ':' :: e.toList) := by
  simp

/-- Characters that may follow a strategy's first letter are the ones it may hold. -/
theorem isStrategyChar_iff (c : Char) :
    isStrategyChar c = true ↔ c.isAlphanum = true ∨ c = '_' ∨ c = '-' := by
  simp [isStrategyChar, or_assoc]

/-- The characters of a strategy run up to the `:` after it: a `:` is no strategy character. -/
theorem span_strategy {more rest : List Char} (held : ∀ c ∈ more, isStrategyChar c = true) :
    (more ++ ':' :: rest).span isStrategyChar = (more, ':' :: rest) := by
  rw [List.span_eq_takeWhile_dropWhile, List.takeWhile_append_of_pos held,
    List.dropWhile_append_of_pos held]
  simp [isStrategyChar]

/-- A reference splits into its strategy and its expression, whatever the expression holds. -/
theorem split?_reference {s : String} (strategy : IsStrategy s) (e : String) :
    split? ("$" ++ s ++ ":" ++ e) = some (s, e) := by
  obtain ⟨first, more, spelled, letter, held⟩ := strategy
  have held' : ∀ c ∈ more, isStrategyChar c = true :=
    fun c member => (isStrategyChar_iff c).mpr (held c member)
  simp only [split?, toList_reference, spelled, List.cons_append, letter, if_true,
    span_strategy held']
  rw [← spelled, String.ofList_toList, String.ofList_toList]

/-- What splits is a reference, with that strategy and that expression. -/
theorem eq_reference_of_split? {r s e : String} (found : split? r = some (s, e)) :
    IsStrategy s ∧ r = "$" ++ s ++ ":" ++ e := by
  unfold split? at found
  -- The text opens with `$` and a letter, and the characters of the strategy run to a `:`.
  split at found
  · rename_i first rest spelled
    split at found
    · rename_i letter
      split at found
      · rename_i more expression cut
        simp only [Option.some.injEq, Prod.mk.injEq] at found
        obtain ⟨rfl, rfl⟩ := found
        rw [List.span_eq_takeWhile_dropWhile, Prod.mk.injEq] at cut
        have held : ∀ c ∈ more, c.isAlphanum = true ∨ c = '_' ∨ c = '-' := fun c member =>
          (isStrategyChar_iff c).mp (List.mem_takeWhile_imp (cut.1 ▸ member))
        have whole : rest = more ++ ':' :: expression := by
          rw [← cut.1, ← cut.2, List.takeWhile_append_dropWhile]
        refine ⟨⟨first, more, by simp, letter, held⟩, String.toList_injective ?_⟩
        rw [toList_reference, spelled, whole]
        simp
      · cases found
    · cases found
  · cases found

/-- A text splits as a reference exactly when it is one, and then into its own strategy and
expression. -/
theorem split?_eq_some_iff (r s e : String) :
    split? r = some (s, e) ↔ IsStrategy s ∧ r = "$" ++ s ++ ":" ++ e := by
  constructor
  · exact eq_reference_of_split?
  · rintro ⟨strategy, rfl⟩
    exact split?_reference strategy e

/-- A text is refused exactly when it is no reference. -/
theorem split?_eq_none_iff (r : String) :
    split? r = none ↔ ∀ s e, IsStrategy s → r ≠ "$" ++ s ++ ":" ++ e := by
  constructor
  · intro refused s e strategy written
    rw [written, split?_reference strategy] at refused
    cases refused
  · intro unwritten
    -- Whatever splits is a reference.
    cases found : split? r with
    | none => rfl
    | some parts =>
      obtain ⟨strategy, written⟩ := eq_reference_of_split? found
      exact absurd written (unwritten _ _ strategy)

/-- The lookup strategy is a strategy name. -/
theorem isStrategy_consul : IsStrategy LookupDirective.strategy := by
  refine ⟨'c', ['o', 'n', 's', 'u', 'l'], rfl, rfl, fun c member => ?_⟩
  simp only [List.mem_cons, List.not_mem_nil, or_false] at member
  rcases member with rfl | rfl | rfl | rfl | rfl <;> exact .inl rfl

/-- Stripping the lookup prefix gives the expression behind it. -/
theorem stripConsul_prefixed (e : String) : stripConsul ("$consul:" ++ e) = e := by
  have written : "$consul:" ++ e = "$" ++ LookupDirective.strategy ++ ":" ++ e := by
    simp only [LookupDirective.strategy, String.append_assoc]
    rfl
  rw [stripConsul, written, split?_reference isStrategy_consul]
  simp [LookupDirective.strategy]

/-- A text that is not a lookup reference is left as it is. -/
theorem stripConsul_unprefixed {x : String} (unprefixed : ∀ e, x ≠ "$consul:" ++ e) :
    stripConsul x = x := by
  unfold stripConsul
  -- Only a reference with the lookup strategy loses anything.
  split
  · rename_i s e found
    split
    · rename_i consul
      have := (eq_reference_of_split? found).2
      rw [consul] at this
      exact absurd (this.trans (by simp only [String.append_assoc]; rfl)) (unprefixed e)
    · rfl
  · rfl

end Reference

namespace DirectiveRegistry

/-- A strategy has a directive exactly when it is registered. -/
theorem get?_isSome_iff (reg : DirectiveRegistry) (s : String) :
    (reg.get? s).isSome ↔ s ∈ reg.strategies := by
  rw [get?, List.lookup_isSome_iff, strategies, List.mem_map]
  constructor
  · rintro ⟨p, member, same⟩
    exact ⟨p, member, (beq_iff_eq.mp same).symm⟩
  · rintro ⟨p, member, rfl⟩
    exact ⟨p, member, beq_self_eq_true _⟩

/-- Looking a strategy up past a first entry. -/
theorem lookup_cons_entry (entries : List (String × Directive)) (k s : String) (d : Directive) :
    ((k, d) :: entries).lookup s = if s = k then some d else entries.lookup s := by
  by_cases same : s = k
  · simp [same]
  · simp [List.lookup_cons, same, beq_false_of_ne same]

/-- Replacing the directives of one strategy in place answers the new directive for it. -/
theorem lookup_replace_self (entries : List (String × Directive)) {s : String} (d : Directive)
    (present : s ∈ entries.map (·.1)) :
    (entries.map fun (s', e) => if s' == s then (s', d) else (s', e)).lookup s = some d := by
  induction entries with
  | nil => simp at present
  | cons entry rest ih =>
    obtain ⟨s', e⟩ := entry
    by_cases same : s' = s
    · simp [same]
    · have later : s ∈ rest.map (·.1) := by
        simpa [Ne.symm same] using present
      simpa [lookup_cons_entry, same, Ne.symm same] using ih later

/-- Replacing the directives of one strategy leaves every other strategy's. -/
theorem lookup_replace_ne (entries : List (String × Directive)) {s s' : String} (d : Directive)
    (other : s' ≠ s) :
    (entries.map fun (k, e) => if k == s then (k, d) else (k, e)).lookup s' =
      entries.lookup s' := by
  induction entries with
  | nil => rfl
  | cons entry rest ih =>
    obtain ⟨k, e⟩ := entry
    by_cases same : k = s
    · subst same
      simpa [lookup_cons_entry, other] using ih
    · simp [lookup_cons_entry, same] at ih ⊢
      rw [ih]

/-- A registration answers its directive for its strategy. -/
theorem get?_register_self (reg : DirectiveRegistry) (s : String) (d : Directive) :
    (reg.register s d).get? s = some d := by
  unfold register get?
  split
  · rename_i present
    exact lookup_replace_self _ d (by simpa using present)
  · rename_i absent
    simp only [List.any_eq_true, beq_iff_eq, not_exists, not_and] at absent
    have missing : reg.entries.lookup s = none :=
      List.lookup_eq_none_iff.mpr fun p member => bne_iff_ne.mpr fun same => absent p member same.symm
    simp [List.lookup_append, missing]

/-- A registration leaves every other strategy's directive. -/
theorem get?_register_ne (reg : DirectiveRegistry) {s s' : String} (d : Directive)
    (other : s' ≠ s) : (reg.register s d).get? s' = reg.get? s' := by
  unfold register get?
  split
  · exact lookup_replace_ne _ d other
  · rw [List.lookup_append, lookup_cons_entry, if_neg other, List.lookup_nil, Option.or_none]

/-- Handling a context hands it to the directive of its strategy, or refuses it when none is
registered. -/
theorem handle_of_get? {reg : DirectiveRegistry} {ctx : DirectiveContext} {d : Directive}
    (found : reg.get? ctx.strategy = some d) (outcome : Except Fault Fetched) :
    reg.handle ctx outcome = .ok (d.handle ctx outcome) := by
  simp [handle, found]

/-- A registration for another strategy leaves the handling of a context alone. -/
theorem handle_register_ne (reg : DirectiveRegistry) {s : String} (d : Directive)
    {ctx : DirectiveContext} (other : ctx.strategy ≠ s) (outcome : Except Fault Fetched) :
    (reg.register s d).handle ctx outcome = reg.handle ctx outcome := by
  simp only [handle, get?_register_ne reg d other]

/-- A context is refused exactly when no directive is registered for its strategy. -/
theorem handle_refused_iff (reg : DirectiveRegistry) (ctx : DirectiveContext)
    (outcome : Except Fault Fetched) :
    reg.handle ctx outcome = .error ⟨ctx.strategy⟩ ↔ ctx.strategy ∉ reg.strategies := by
  rw [← get?_isSome_iff]
  cases found : reg.get? ctx.strategy with
  | none => simp [handle, found]
  | some d => simp [handle, found]

/-- A registry makes the context of a reference exactly when its strategy is registered. -/
theorem contextFor_eq_some_iff (reg : DirectiveRegistry) (r : String) (path : List Value)
    (ctx : DirectiveContext) :
    reg.contextFor r path = some ctx ↔ ∃ s e, Reference.IsStrategy s ∧
      r = "$" ++ s ++ ":" ++ e ∧ s ∈ reg.strategies ∧ ctx = ⟨s, e, path⟩ := by
  cases found : Reference.split? r with
  | none =>
    -- No reference: nothing would have split it.
    simp only [contextFor, found, reduceCtorEq, false_iff, not_exists, not_and]
    intro s e strategy written
    rw [written, Reference.split?_reference strategy] at found
    cases found
  | some parts =>
    obtain ⟨s, e⟩ := parts
    obtain ⟨strategy, written⟩ := Reference.eq_reference_of_split? found
    simp only [contextFor, found]
    constructor
    · intro made
      split at made
      · rename_i registered
        exact ⟨s, e, strategy, written, (get?_isSome_iff reg s).mp registered,
          (Option.some.inj made).symm⟩
      · cases made
    · rintro ⟨s', e', strategy', written', registered, rfl⟩
      -- The reference has one strategy and one expression.
      rw [written', Reference.split?_reference strategy', Option.some.injEq, Prod.mk.injEq] at found
      obtain ⟨rfl, rfl⟩ := found
      rw [if_pos ((get?_isSome_iff reg _).mpr registered)]

/-- A text is a reference exactly when it is written `$<strategy>:<expression>`; a registry makes
its context when the strategy is registered and hands it to the directive registered last. -/
theorem reference_splits_at_strategy :
    (∀ r s e, Reference.split? r = some (s, e) ↔
      Reference.IsStrategy s ∧ r = "$" ++ s ++ ":" ++ e) ∧
    (∀ r, Reference.split? r = none ↔
      ∀ s e, Reference.IsStrategy s → r ≠ "$" ++ s ++ ":" ++ e) ∧
    (∀ (reg : DirectiveRegistry) r path ctx, reg.contextFor r path = some ctx ↔
      ∃ s e, Reference.IsStrategy s ∧ r = "$" ++ s ++ ":" ++ e ∧ s ∈ reg.strategies ∧
        ctx = ⟨s, e, path⟩) ∧
    (∀ (reg : DirectiveRegistry) ctx outcome,
      reg.handle ctx outcome = .error ⟨ctx.strategy⟩ ↔ ctx.strategy ∉ reg.strategies) ∧
    (∀ (reg : DirectiveRegistry) d (ctx : DirectiveContext) outcome,
      (reg.register ctx.strategy d).handle ctx outcome = .ok (d.handle ctx outcome)) ∧
    (∀ (reg : DirectiveRegistry) s d (ctx : DirectiveContext) outcome, ctx.strategy ≠ s →
      (reg.register s d).handle ctx outcome = reg.handle ctx outcome) ∧
    (∀ e, Reference.stripConsul ("$consul:" ++ e) = e) ∧
    (∀ x, (∀ e, x ≠ "$consul:" ++ e) → Reference.stripConsul x = x) := by
  exact ⟨Reference.split?_eq_some_iff, Reference.split?_eq_none_iff, contextFor_eq_some_iff,
    handle_refused_iff,
    fun reg d ctx outcome => handle_of_get? (get?_register_self reg ctx.strategy d) outcome,
    fun reg s d ctx outcome other => handle_register_ne reg d other outcome,
    Reference.stripConsul_prefixed, fun x unprefixed => Reference.stripConsul_unprefixed unprefixed⟩

end DirectiveRegistry

end ConsulLookup
