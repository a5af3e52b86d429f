import Mathlib.Data.List.Basic
import Mathlib.Data.List.Nodup
import ConsulLookup.Proofs.Call.Consistency

/-! The layers of a client call: arguments, then four layers of keywords. -/

namespace ConsulLookup

namespace Mapping

/-- The keys of a mapping, each once. -/
def Distinct (m : Mapping) : Prop :=
  (m.map (·.1)).Nodup

/-- A text that is no key of a mapping has no value in it. -/
theorem get?_of_not_mem {m : Mapping} {k : String} (absent : Value.str k ∉ m.map (·.1)) :
    m.get? (.str k) = none := by
  rw [get?_str, Option.map_eq_none_iff, List.find?_eq_none]
  intro p member hit
  -- Only the text itself is named by that text.
  have named : p.1 = .str k := by
    obtain ⟨key, v⟩ := p
    cases key <;> simp_all [Value.str?]
  exact absent (List.mem_map.mpr ⟨p, member, named⟩)

/-- Over distinct keys, a text set by the later mapping takes its value there, and any other
keeps the value it had. -/
theorem get?_override (m : Mapping) {n : Mapping} (distinct : n.Distinct) (k : String) :
    (m.override n).get? (.str k) = (n.get? (.str k)).or (m.get? (.str k)) := by
  -- Each entry of `n` is set in turn; the one that sets `k` is never set again.
  induction n generalizing m with
  | nil => rfl
  | cons p rest ih =>
    obtain ⟨key, v⟩ := p
    obtain ⟨fresh, restDistinct⟩ := List.nodup_cons.mp distinct
    simp only [override, List.foldl_cons] at ih ⊢
    rw [ih _ restDistinct]
    by_cases same : key = .str k
    · subst same
      have later : Mapping.get? rest (.str k) = none := get?_of_not_mem fresh
      rw [later, get?_insert_self]
      simp [get?_str]
    · have other : key.str? ≠ some k := by
        cases key <;> simp_all [Value.str?]
      rw [get?_insert_ne _ _ other]
      simp [get?_str, other]

/-- The keys of a bag are distinct as keys of its mapping. -/
theorem distinct_ofBag {b : Bag} (distinct : b.keys.Nodup) : (ofBag b).Distinct := by
  have keys : (ofBag b).map (·.1) = b.keys.map Value.str := by
    simp [ofBag, Bag.keys]
  rw [Distinct, keys]
  exact List.Nodup.map (fun _ _ same => Value.str.inj same) distinct

theorem Distinct.erase {m : Mapping} (distinct : m.Distinct) (k : Value) : (m.erase k).Distinct :=
  distinct.sublist (List.filter_sublist.map _)

theorem Distinct.eraseAll {m : Mapping} (distinct : m.Distinct) (names : List String) :
    (names.foldl (fun m a => m.erase (.str a)) m).Distinct := by
  induction names generalizing m with
  | nil => exact distinct
  | cons a rest ih => exact ih (distinct.erase _)

end Mapping

namespace Call

/-- Whether a flag asks for its consistency: it is no argument of the operation, and the options
hold a true value under it. -/
def flagged (d : Descriptor) (options : Bag) (flag : String) : Bool :=
  !d.arguments.contains flag && ((options.get? flag).getD (.bool false)).truthy

/-- The consistency the flags ask for: `consistent` over `stale`. -/
def askedConsistency (d : Descriptor) (options : Bag) : Option String :=
  if flagged d options "consistent" then some "consistent"
  else if flagged d options "stale" then some "stale"
  else none

/-- Whether an option goes among the keywords: it is neither an argument nor a flag. -/
def sentAsKeyword (d : Descriptor) (k : String) : Bool :=
  !d.arguments.contains k && k != "consistent" && k != "stale"

/-- The value a keyword takes from the four layers of a call, the latest that has it: the index
when there is one, the options sent as keywords, the consistency asked for, the fixed keywords. -/
def layerValue (d : Descriptor) (options : Bag) (index : Value) (t : String) : Option Value :=
  (if t == "index" && !index.isNull then some index else none).or <|
    (if sentAsKeyword d t then options.get? t else none).or <|
      (if t == "consistency" then (askedConsistency d options).map .str else none).or <|
        d.fixed.get? t

/-- The argument names a call passes by position: a run from the first name, of distinct names
that all have a value, which stops before a name that has none or repeats one taken. -/
structure TakenNames (arguments : List String) (look : String → Option Value)
    (names : List String) : Prop where
  lead : names <+: arguments
  distinct : names.Nodup
  present : ∀ a ∈ names, (look a).isSome
  longest : ∀ a, names ++ [a] <+: arguments → (look a).isNone ∨ a ∈ names

/-- What a call built for a bag of options at an index sends: the values of the taken argument
names by position; under each keyword the method takes, the value of the layers, falsy values
included, and nothing else; and the client's answer, unwrapped for a blocking operation. -/
structure Sends (d : Descriptor) (options : Bag) (index : Value) (c : Call) : Prop where
  positional : ∃ names, TakenNames d.arguments options.get? names ∧
    c.args = names.filterMap options.get?
  keyword : ∀ t, c.kwargs.get? t = if t ∈ d.keywords then layerValue d options index t else none
  taken : ∀ e ∈ c.kwargs, e.1 ∈ d.keywords
  answered : ∀ j v, invoke d (Mapping.ofBag options) index (.response j v) =
    .ok (c, .ok ⟨if d.blocking then j else .null, v⟩)
  failed : ∀ f, invoke d (Mapping.ofBag options) index (.failure f) = .ok (c, .error f)

/-- The arguments taken from a mapping are those of a run of taken names. -/
theorem takeArguments_taken (m : Mapping) (arguments : List String) :
    ∃ names, TakenNames arguments (fun a => m.get? (.str a)) names ∧
      takeArguments m arguments = names.filterMap fun a => m.get? (.str a) := by
  -- The induction is on the names; a name taken leaves the mapping, so it cannot be taken twice.
  induction arguments generalizing m with
  | nil => exact ⟨[], ⟨List.nil_prefix, .nil, by simp, by simp⟩, rfl⟩
  | cons a rest ih =>
    cases found : m.get? (.str a) with
    | none =>
      refine ⟨[], ⟨List.nil_prefix, .nil, by simp, fun b lead => ?_⟩, by simp [takeArguments, found]⟩
      obtain ⟨rfl, -⟩ := List.cons_prefix_cons.mp lead
      simp [found]
    | some v =>
      obtain ⟨names, taken, took⟩ := ih (m.erase (.str a))
      have erased (b : String) : (m.erase (.str a)).get? (.str b) =
          if a = b then none else m.get? (.str b) := Mapping.get?_erase_str m a b
      have fresh : a ∉ names := by
        intro member
        simpa [erased] using taken.present a member
      have agree : names.filterMap (fun b => (m.erase (.str a)).get? (.str b)) =
          names.filterMap fun b => m.get? (.str b) := by
        apply List.filterMap_congr
        intro b member
        have other : a ≠ b := fun same => fresh (same ▸ member)
        simp [erased, other]
      refine ⟨a :: names, ⟨?_, ?_, ?_, ?_⟩, ?_⟩
      · exact List.cons_prefix_cons.mpr ⟨rfl, taken.lead⟩
      · exact List.nodup_cons.mpr ⟨fresh, taken.distinct⟩
      · intro b member
        rcases List.mem_cons.mp member with rfl | later
        · simp [found]
        · have present := taken.present b later
          rw [erased] at present
          by_cases same : a = b
          · simp [same] at present
          · simpa [same] using present
      · intro b lead
        obtain ⟨-, lead⟩ := List.cons_prefix_cons.mp lead
        by_cases same : a = b
        · exact .inr (by simp [same])
        · rcases taken.longest b lead with missing | member
          · exact .inl (by simpa [erased, same] using missing)
          · exact .inr (List.mem_cons_of_mem _ member)
      · simp [takeArguments, found, took, agree]

/-- A keyword the method does not take is never sent. -/
theorem keep_get?_of_not_mem (d : Descriptor) (kwargs : Mapping) {t : String}
    (absent : t ∉ d.keywords) : (keep d kwargs).get? t = none := by
  apply Bag.get?_eq_none
  intro e member same
  obtain ⟨⟨key, v⟩, _, kept⟩ := List.mem_filterMap.mp member
  -- Only a text key the method takes is kept.
  cases key with
  | str k =>
    by_cases takes : k ∈ d.keywords
    · simp only [takes, List.contains_iff_mem, if_true, Option.some.injEq] at kept
      exact absent (same ▸ kept ▸ takes)
    · simp [takes] at kept
  | _ => cases kept

/-- Every keyword sent is one the method takes. -/
theorem mem_keep_keywords {d : Descriptor} {kwargs : Mapping} {e : String × Value}
    (member : e ∈ keep d kwargs) : e.1 ∈ d.keywords := by
  obtain ⟨⟨key, v⟩, _, kept⟩ := List.mem_filterMap.mp member
  cases key with
  | str k =>
    by_cases takes : k ∈ d.keywords
    · simp only [takes, List.contains_iff_mem, if_true, Option.some.injEq] at kept
      exact kept ▸ takes
    · simp [takes] at kept
  | _ => cases kept

/-- The consistency the options ask for, read after the arguments leave them, is the one the
flags ask for. -/
theorem requested_ofBag (d : Descriptor) (options : Bag) :
    requested d (Mapping.ofBag options) = askedConsistency d options := by
  -- A flag that is an argument has left the options, so it reads as false.
  have flag (name : String) :
      (((d.arguments.foldl (fun m a => m.erase (.str a)) (Mapping.ofBag options)).get?
        (.str name)).getD (.bool false)).truthy = flagged d options name := by
    by_cases argument : name ∈ d.arguments <;>
      simp [Mapping.get?_eraseAll, argument, flagged, Value.truthy]
  simp only [requested, consistency, askedConsistency, flag]

/-- The options left for the keywords hold exactly those sent as keywords. -/
theorem rest_get? (d : Descriptor) (options : Bag) (t : String) :
    (rest d (Mapping.ofBag options)).get? (.str t) =
      if sentAsKeyword d t then options.get? t else none := by
  -- Each flag is erased by name, and each argument with the rest of them.
  by_cases stale : t = "stale"
  · subst stale
    simp [rest, Mapping.get?_erase_str, sentAsKeyword]
  · by_cases flag : t = "consistent"
    · subst flag
      simp [rest, Mapping.get?_erase_str, sentAsKeyword]
    · by_cases argument : t ∈ d.arguments <;>
        simp [rest, Mapping.get?_erase_str, Mapping.get?_eraseAll, sentAsKeyword, argument,
          Ne.symm stale, Ne.symm flag, stale, flag]

/-- The fixed keywords with the consistency asked for. -/
theorem base_get? (d : Descriptor) (options : Bag) (t : String) :
    (base d (Mapping.ofBag options)).get? (.str t) =
      (if t == "consistency" then (askedConsistency d options).map .str else none).or
        (d.fixed.get? t) := by
  unfold base
  rw [requested_ofBag]
  cases askedConsistency d options with
  | none => simp
  | some c =>
    by_cases same : t = "consistency"
    · subst same
      simp
    · have other : (Value.str "consistency").str? ≠ some t := by simpa using Ne.symm same
      simp [Mapping.get?_insert_ne _ _ other, same]

/-- Each keyword of the layers of a call over options with distinct keys holds the value of the
latest layer that has it. -/
theorem layers_get? (d : Descriptor) {options : Bag} (distinct : options.keys.Nodup)
    (index : Value) (t : String) :
    (layers d (Mapping.ofBag options) index).get? (.str t) = layerValue d options index t := by
  have restDistinct : (rest d (Mapping.ofBag options)).Distinct :=
    (((Mapping.distinct_ofBag distinct).eraseAll _).erase _).erase _
  -- Below the index, the options left over override the fixed keywords and the consistency.
  have lower : ((base d (Mapping.ofBag options)).override (rest d (Mapping.ofBag options))).get?
      (.str t) = layerValue d options .null t := by
    rw [Mapping.get?_override _ restDistinct, rest_get?, base_get?]
    simp [layerValue, Value.isNull]
  unfold layers
  by_cases none : index.isNull
  · have nothing : Value.null.isNull = true := rfl
    rw [if_pos none, lower]
    simp [layerValue, none, nothing]
  · rw [if_neg none]
    by_cases same : t = "index"
    · subst same
      simp [layerValue, none]
    · have other : (Value.str "index").str? ≠ some t := by simpa using Ne.symm same
      rw [Mapping.get?_insert_ne _ _ other, lower]
      simp [layerValue, same]

/-- A bag of options with distinct keys always makes a call, and the call sends the values of the
taken argument names by position, and under each keyword the method takes the value of its
layers. -/
theorem build_sends_layers (d : Descriptor) (options : Bag) (distinct : options.keys.Nodup)
    (index : Value) :
    ∃ c, build d (Mapping.ofBag options) index = .ok c ∧ c.Sends d options index := by
  obtain ⟨names, taken, took⟩ := takeArguments_taken (Mapping.ofBag options) d.arguments
  have built := build_ok (Mapping.textKeyed_ofBag options) d index
  refine ⟨_, built, ⟨?_, ?_, fun e member => mem_keep_keywords member, ?_, ?_⟩⟩
  · refine ⟨names, ?_, ?_⟩
    · simpa using taken
    · simpa using took
  · intro t
    split
    · rename_i takes
      rw [keep_get? _ _ takes, layers_get? d distinct]
    · rename_i absent
      exact keep_get?_of_not_mem _ _ absent
  · intro j v
    simp [invoke, built, bind, Except.bind, pure, Except.pure]
  · intro f
    simp [invoke, built, bind, Except.bind, pure, Except.pure]

/-- A read of a key at an index, with the `consistent` flag set and a datacenter. -/
theorem build_sends_layers_kv :
    (Bag.keys [("key", .str "db"), ("consistent", .bool true), ("dc", .str "x")]).Nodup ∧
      ∃ c, build ⟨"kv.get", "kv.get", Schema.kvGet, ["kv"], ["key"],
          ["consistency", "dc", "index", "wait"], [], ""⟩
          (Mapping.ofBag [("key", .str "db"), ("consistent", .bool true), ("dc", .str "x")])
          (.int 7) = .ok c ∧
        c.Sends ⟨"kv.get", "kv.get", Schema.kvGet, ["kv"], ["key"],
          ["consistency", "dc", "index", "wait"], [], ""⟩
          [("key", .str "db"), ("consistent", .bool true), ("dc", .str "x")] (.int 7) :=
  ⟨by decide, build_sends_layers _ _ (by decide) _⟩

/-- An operation that names the `consistent` flag twice among its arguments, with the flag set:
every name of the run has a value, yet one value goes by position, and the flag, taken as an
argument, asks for no consistency. -/
theorem repeated_flag_argument_taken_once :
    build ⟨"x", "x", Schema.base, [], ["consistent", "consistent"], ["consistency"], [], ""⟩
      (Mapping.ofBag [("consistent", .bool true)]) .null = .ok ⟨[.bool true], []⟩ :=
  rfl

end Call

end ConsulLookup
