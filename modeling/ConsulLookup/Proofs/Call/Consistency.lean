import ConsulLookup.Config.Model
import ConsulLookup.Request
import ConsulLookup.Proofs.Call.Keys

/-! The consistency a call is served with, from its options or the client. -/

namespace ConsulLookup

namespace Bag

/-- Keeping some keys of a bag keeps their values and drops the others'. -/
theorem get?_restrict (b : Bag) (p : String → Bool) (k : String) :
    (b.restrict p).get? k = if p k then b.get? k else none := by
  unfold restrict get?
  rw [List.find?_filter]
  split
  · -- The key is kept, so asking for it and being kept are the same.
    rename_i kept
    congr 2
    funext e
    by_cases same : e.1 = k
    · simp [same, kept]
    · simp [same]
  · -- No entry is both kept and the key.
    rename_i dropped
    rw [Option.map_eq_none_iff, List.find?_eq_none]
    intro e _
    by_cases same : e.1 = k
    · simp [same, dropped]
    · simp [same]

/-- A key that no entry has is not found. -/
theorem get?_eq_none {b : Bag} {k : String} (absent : ∀ e ∈ b, e.1 ≠ k) : b.get? k = none := by
  unfold get?
  rw [Option.map_eq_none_iff, List.find?_eq_none]
  intro e member
  simpa using absent e member

end Bag

namespace Mapping

/-- Erasing text keys one after another removes their values and leaves every other text's. -/
theorem get?_eraseAll (names : List String) (m : Mapping) (k : String) :
    (names.foldl (fun m a => m.erase (.str a)) m).get? (.str k) =
      if k ∈ names then none else m.get? (.str k) := by
  induction names generalizing m with
  | nil => rfl
  | cons a rest ih =>
    rw [List.foldl_cons, ih, get?_erase_str]
    by_cases same : a = k
    · simp [same]
    · simp [same, Ne.symm same]

end Mapping

namespace Call

/-- A keyword the method takes is found in the call as in its layers. -/
theorem keep_get? (d : Descriptor) (kwargs : Mapping) {t : String} (takes : t ∈ d.keywords) :
    (keep d kwargs).get? t = kwargs.get? (.str t) := by
  induction kwargs with
  | nil => rfl
  | cons e rest ih =>
    obtain ⟨key, v⟩ := e
    rw [Mapping.get?_str] at ih ⊢
    -- Only a text key can be the keyword; any other is left out of the call.
    cases key with
    | str k =>
      by_cases same : k = t
      · subst same
        simp [keep, Bag.get?, takes]
      · by_cases kept : k ∈ d.keywords
        · simpa [keep, Bag.get?, same, kept] using ih
        · simpa [keep, Bag.get?, same, kept] using ih
    | _ => simpa [keep, Value.str?] using ih

/-- When no argument is named `consistent` or `stale`, the consistency asked for is read from the
options themselves, an absent flag counting as false. -/
theorem requested_eq (d : Descriptor) (options : Mapping)
    (consistentFree : "consistent" ∉ d.arguments) (staleFree : "stale" ∉ d.arguments) :
    requested d options =
      consistency ((options.get? (.str "consistent")).getD (.bool false))
        ((options.get? (.str "stale")).getD (.bool false)) := by
  simp only [requested, Mapping.get?_eraseAll, consistentFree, staleFree, if_false]

/-- With no index, a call's consistency keyword is the one its options ask for, unless the fixed
keywords or the options hold one of their own. -/
theorem layers_consistency (d : Descriptor) (options : Mapping)
    (fixedFree : d.fixed.get? "consistency" = none)
    (optionsFree : options.get? (.str "consistency") = none) :
    (layers d options .null).get? (.str "consistency") = (requested d options).map .str := by
  -- The rest of the options cannot set the keyword, so it stands as the fixed layer has it.
  have restFree : (rest d options).get? (.str "consistency") = none := by
    simp [rest, Mapping.get?_erase_str, Mapping.get?_eraseAll, optionsFree]
  simp only [layers, Value.isNull, if_true]
  rw [Mapping.get?_override_of_absent _ _ restFree]
  unfold base
  cases requested d options with
  | some c => simp
  | none => simp [fixedFree]

end Call

namespace Schema

/-- A bag's fields check into entries named by those fields only. -/
theorem checkFields_keys (raw : Mapping) (fields : List Field) :
    ∀ e ∈ (checkFields raw fields).2, e.1 ∈ fields.map (·.name) := by
  induction fields with
  | nil => simp [checkFields]
  | cons f rest ih =>
    intro e member
    simp only [checkFields] at member
    -- The head field adds at most an entry of its own name to those of the rest.
    split at member
    · rcases List.mem_cons.mp member with here | there
      · simp [here]
      · exact List.mem_cons_of_mem _ (ih e there)
    · exact List.mem_cons_of_mem _ (ih e member)
    · exact List.mem_cons_of_mem _ (ih e member)

/-- A validated bag holds fields of the schema only. -/
theorem validate_keys {s : Schema} {raw : Mapping} {b : Bag} (valid : s.validate raw = .ok b) :
    ∀ e ∈ b, e.1 ∈ s.fieldNames := by
  unfold validate at valid
  -- The bag is the entries of the fields' checks, given only when nothing was refused.
  split at valid
  rename_i issues entries checked
  dsimp only at valid
  split at valid
  · cases valid
  · split at valid
    · cases valid
      intro e member
      exact checkFields_keys raw s.fields e (by rw [checked]; exact member)
    · cases valid

end Schema

/-- A name resolves to one of the registry's operations. -/
theorem Registry.get_mem {r : Registry} {name : Value} {d : Descriptor}
    (found : r.get name = .ok d) : d ∈ r.operations := by
  -- Only a text names an operation: the first one that answers to it.
  cases name with
  | str n =>
    cases resolved : r.resolve n with
    | none => simp [Registry.get, Registry.find, resolved] at found
    | some d' =>
      simp only [Registry.get, Registry.find, resolved, Except.ok.injEq] at found
      subst found
      exact List.mem_of_find?_eq_some resolved
  | _ => simp [Registry.get, Registry.find] at found

/-- Options that pass validation are the schema's validated bag. -/
theorem validateOptions_ok {s : Schema} {raw : Mapping} {operation : String} {b : Bag}
    (valid : validateOptions s raw operation = .ok b) : s.validate raw = .ok b := by
  unfold validateOptions at valid
  split at valid
  · rename_i validated
    cases valid
    exact validated
  · cases valid

/-- A request parsed against a registry is for one of its operations, with options that are
fields of the operation's schema. -/
theorem parseRequest_ok {registry : Registry} {defaults : Mapping} {expression : Value}
    {q : Request} (parsed : parseRequest registry defaults expression = .ok q) :
    q.operation ∈ registry.operations ∧ ∀ e ∈ q.options, e.1 ∈ q.operation.schema.fieldNames := by
  simp only [parseRequest, bind, Except.bind] at parsed
  -- The expression splits, its name resolves and its options validate; each step may fail.
  split at parsed
  · cases parsed
  · split at parsed
    · cases parsed
    · rename_i d found
      split at parsed
      · cases parsed
      · rename_i options valid
        cases parsed
        exact ⟨Registry.get_mem found, Schema.validate_keys (validateOptions_ok valid)⟩

/-- Sorting a set of names keeps exactly its members. -/
theorem mem_sortedSet (x : String) (xs : List String) : x ∈ sortedSet xs ↔ x ∈ xs := by
  simp [sortedSet, List.mem_mergeSort]

namespace Catalogue

/-- No built-in operation takes `consistent` or `stale` by position, fixes a consistency, or has
an option named `consistency`. -/
theorem consistency_free : ∀ d ∈ operations,
    "consistent" ∉ d.arguments ∧ "stale" ∉ d.arguments ∧
      (d.fixed.get? "consistency").isNone ∧ "consistency" ∉ d.schema.fieldNames := by
  decide +kernel

end Catalogue

/-- The consistency a call is served with: its own consistency keyword, or else the consistency
the client was made with. -/
def Call.servedConsistency (call : Call) (client : String) : Value :=
  (call.kwargs.get? "consistency").getD (.str client)

/-- A call built for a parsed request is served with the consistency its options ask for, and
with the client's, from the connection's defaults, when they ask for none. -/
theorem served_consistency_of_parsed (c : ConnectionConfig) (expression : Value) (q : Request)
    (parsed : parseRequest Registry.builtin (Mapping.ofBag c.defaults) expression = .ok q)
    (takesConsistency : "consistency" ∈ q.operation.keywords) :
    ∃ call, Call.build q.operation (Mapping.ofBag q.backendOptions) .null = .ok call ∧
      call.servedConsistency c.client.consistency =
        .str ((Call.consistency ((q.options.get? "consistent").getD (.bool false))
          ((q.options.get? "stale").getD (.bool false))).getD c.client.consistency) := by
  obtain ⟨member, fields⟩ := parseRequest_ok parsed
  obtain ⟨consistentFree, staleFree, fixedFree, noField⟩ := Catalogue.consistency_free _ member
  -- The options sent are the validated ones less those steering the lookup, and none of them
  -- names a consistency of its own.
  have sent (k : String) (k_sent : k ∉ lookupOnlyOptions) :
      (Mapping.ofBag q.backendOptions).get? (.str k) = q.options.get? k := by
    simp [Request.backendOptions, backendOptions, Bag.get?_restrict, k_sent]
  have optionsFree : (Mapping.ofBag q.backendOptions).get? (.str "consistency") = none := by
    rw [sent _ (by decide)]
    exact Bag.get?_eq_none fun e held same => noField (same ▸ fields e held)
  refine ⟨_, Call.build_ok (Mapping.textKeyed_ofBag _) _ _, ?_⟩
  simp only [Call.servedConsistency, Call.keep_get? _ _ takesConsistency,
    Call.layers_consistency _ _ (Option.isNone_iff_eq_none.mp fixedFree) optionsFree,
    Call.requested_eq _ _ consistentFree staleFree, sent "consistent" (by decide),
    sent "stale" (by decide)]
  cases Call.consistency _ _ <;> rfl

/-- Defaults with `consistent: true`, and an expression that sets `consistent=false`: the call goes
out with no consistency keyword, so the client's `consistent` serves it. -/
theorem consistent_default_outlives_false_flag :
    let c : ConnectionConfig := ⟨"127.0.0.1", 8500, false, true, [("consistent", .bool true)]⟩
    ∃ q, parseRequest Registry.builtin (Mapping.ofBag c.defaults)
        (.str "kv?key=db&consistent=false") = .ok q ∧
      "consistency" ∈ q.operation.keywords ∧ q.options.get? "consistent" = some (.bool false) ∧
      ∃ call, Call.build q.operation (Mapping.ofBag q.backendOptions) .null = .ok call ∧
        call.servedConsistency c.client.consistency = .str "consistent" := by
  intro c
  let kv : Descriptor := .make "kv.get" "kv.get" Schema.kvGet ["kv"] ["key"]
    (Catalogue.blockingRead ++ ["recurse", "separator"]) [] "Key/value pair(s)"
  let q : Request := ⟨kv, [("wan", .bool false), ("consistent", .bool false),
    ("stale", .bool false), ("mode", .str "once"), ("ignoreStartupNodata", .bool false),
    ("key", .str "db")]⟩
  -- The expression names `kv`, whose query sets the flag over the default.
  have split : (Expression.split (.str "kv?key=db&consistent=false")).mapError
      RequestError.expression = .ok ("kv", "key=db&consistent=false") := rfl
  have found : Registry.builtin.get (.str "kv") = .ok kv := by
    simp [kv, Registry.get, Registry.find, Registry.resolve, Registry.builtin,
      Catalogue.operations, Descriptor.names, Descriptor.make, mem_sortedSet]
  have decoded : Query.decode "key=db&consistent=false" =
      [("key", .str "db"), ("consistent", .str "false")] := by
    with_unfolding_all rfl
  have parsed : parseRequest Registry.builtin (Mapping.ofBag c.defaults)
      (.str "kv?key=db&consistent=false") = .ok q := by
    simp only [parseRequest, split, found, decoded, bind, Except.bind]
    rfl
  have takes : "consistency" ∈ q.operation.keywords := by
    simp [q, kv, Descriptor.make, mem_sortedSet, Catalogue.blockingRead, Catalogue.blocking]
  obtain ⟨call, built, served⟩ := served_consistency_of_parsed c _ q parsed takes
  exact ⟨q, parsed, takes, rfl, call, built, served.trans rfl⟩

end ConsulLookup
