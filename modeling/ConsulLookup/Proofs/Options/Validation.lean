import Mathlib.Data.List.Basic
import ConsulLookup.Proofs.Call.Consistency

/-! Validating option bags against the schemas of the package. -/

namespace ConsulLookup

namespace Bag

/-- A key has no value exactly when it is no key of the bag. -/
theorem get?_eq_none_iff {b : Bag} {k : String} : b.get? k = none ↔ k ∉ b.keys := by
  constructor
  · intro absent named
    obtain ⟨kv, member, same⟩ := List.mem_map.mp named
    have missed := List.find?_eq_none.mp (Option.map_eq_none_iff.mp absent) kv member
    simp [same] at missed
  · intro unnamed
    exact get?_eq_none fun kv member same => unnamed (List.mem_map.mpr ⟨kv, member, same⟩)

/-- A value found under a key is an entry of the bag. -/
theorem mem_of_get? {b : Bag} {k : String} {v : Value} (found : b.get? k = some v) :
    (k, v) ∈ b := by
  simp only [get?, Option.map_eq_some_iff] at found
  obtain ⟨kv, hit, rfl⟩ := found
  have same : kv.1 = k := by simpa using List.find?_some hit
  exact same ▸ List.mem_of_find?_eq_some hit

/-- In a bag with distinct keys, each entry is what its key finds. -/
theorem get?_of_mem {b : Bag} (distinct : b.keys.Nodup) {kv : String × Value} (member : kv ∈ b) :
    b.get? kv.1 = some kv.2 := by
  induction b with
  | nil => simp at member
  | cons head rest ih =>
    simp only [keys, List.map_cons, List.nodup_cons] at distinct
    rcases List.mem_cons.mp member with here | later
    · simp [get?, here]
    · -- A later entry's key differs from the first key, so the search passes the first entry.
      have other : head.1 ≠ kv.1 := fun same =>
        distinct.1 (List.mem_map.mpr ⟨kv, later, same.symm⟩)
      simpa [get?, other] using ih distinct.2 later

end Bag

namespace Field

/-- Whether a field takes a value given for it: null exactly when the field may be left out, any
other value when lax coercion turns it into the field's kind. -/
def Accepts (f : Field) (v : Value) : Prop :=
  (v = .null ∧ f.presence = .optional) ∨ ∃ w, f.coerce v = .ok w

/-- The value a field takes when it is left out, if it has one. -/
def default? (f : Field) : Option Value :=
  match f.presence with
  | .defaulted v => some v
  | _ => none

/-- Whether a field's default, when it has one, is of the field's kind (and one of its choices),
so that lax coercion keeps it as it is. -/
def defaultFits (f : Field) : Bool :=
  match f.kind, f.presence with
  | .text, .defaulted (.str _) => true
  | .flag, .defaulted (.bool _) => true
  | .integer, .defaulted (.int _) => true
  | .choice cs, .defaulted (.str t) => cs.contains t && !Text.hasLoneUnit t
  | _, .defaulted _ => false
  | _, _ => true

section Coercion

variable {f : Field} {v w : Value}

/-- What a mapped computation gives is the image of what it computed. -/
theorem map_ok {α β ε : Type} {g : α → β} {e : Except ε α} {b : β} (mapped : e.map g = .ok b) :
    ∃ a, e = .ok a ∧ b = g a := by
  cases e with
  | error x => cases mapped
  | ok a => exact ⟨a, rfl, (Except.ok.inj mapped).symm⟩

/-- What coercion gives: a text, a flag, an integer or one of the choices, as the field's kind
says. -/
theorem coerce_ok_cases (coerced : f.coerce v = .ok w) :
    (f.kind = .text ∧ ∃ s, Coerce.text v = .ok s ∧ w = .str s) ∨
    (f.kind = .flag ∧ ∃ b, Coerce.flag v = .ok b ∧ w = .bool b) ∨
    (f.kind = .integer ∧ ∃ n, Coerce.integer v = .ok n ∧ w = .int n) ∨
    (∃ cs, f.kind = .choice cs ∧ ∃ s, Coerce.choice cs v = .ok s ∧ w = .str s) := by
  unfold coerce at coerced
  split at coerced <;> rename_i kind
  · exact .inl ⟨kind, map_ok coerced⟩
  · exact .inr (.inl ⟨kind, map_ok coerced⟩)
  · exact .inr (.inr (.inl ⟨kind, map_ok coerced⟩))
  · exact .inr (.inr (.inr ⟨_, kind, map_ok coerced⟩))

/-- Null is of no kind. -/
theorem coerce_null_refused (f : Field) : ∃ p, f.coerce .null = .error p := by
  unfold coerce
  split <;> exact ⟨_, rfl⟩

/-- Coercion never gives null. -/
theorem coerce_ne_null (coerced : f.coerce v = .ok w) : w ≠ .null := by
  rcases coerce_ok_cases coerced with ⟨_, s, _, rfl⟩ | ⟨_, b, _, rfl⟩ | ⟨_, n, _, rfl⟩ |
    ⟨_, _, s, _, rfl⟩ <;> simp

/-- A text taken as a choice is one of the choices, and is taken again as itself. -/
theorem choice_chosen {cs : List String} {s : String} (chosen : Coerce.choice cs v = .ok s) :
    Coerce.choice cs (.str s) = .ok s := by
  unfold Coerce.choice at chosen
  cases v <;> simp only [reduceCtorEq] at chosen
  -- Only a text without a lone unit that is one of the choices is taken, as itself.
  split at chosen
  · cases chosen
  · rename_i readable
    split at chosen
    · rename_i listed
      cases chosen
      have member : s ∈ cs := by simpa using listed
      simp [Coerce.choice, readable, member]
    · cases chosen

/-- A coerced value coerces to itself. -/
theorem coerce_coerced (coerced : f.coerce v = .ok w) : f.coerce w = .ok w := by
  rcases coerce_ok_cases coerced with ⟨kind, s, _, rfl⟩ | ⟨kind, b, _, rfl⟩ | ⟨kind, n, _, rfl⟩ |
    ⟨cs, kind, s, chosen, rfl⟩
  · simp only [coerce, kind]
    rfl
  · simp only [coerce, kind]
    rfl
  · simp only [coerce, kind]
    rfl
  · simp only [coerce, kind, choice_chosen chosen]
    rfl

/-- A default that fits its field coerces to itself. -/
theorem coerce_default (fits : f.defaultFits = true) (given : f.presence = .defaulted v) :
    f.coerce v = .ok v := by
  unfold defaultFits at fits
  rw [given] at fits
  unfold coerce
  cases kind : f.kind <;> rw [kind] at fits <;> cases v <;>
    simp_all [Coerce.text, Coerce.flag, Coerce.integer, Coerce.choice, Except.map]

end Coercion

section Check

variable {f : Field} {v w d : Value} {p : Problem} {o x : Option Value} {i : Issue}

/-- A null given to a field that may be left out is as good as nothing. -/
theorem check_optional_null (optional : f.presence = .optional) :
    f.check (some .null) = .ok none := by
  simp [check, optional]

/-- A value that coerces is taken as its coerced value. -/
theorem check_of_coerced (coerced : f.coerce v = .ok w) : f.check (some v) = .ok (some w) := by
  rw [check, coerced]
  -- A null coerces to nothing, so the value is no null.
  intro _ null
  obtain ⟨p, refused⟩ := coerce_null_refused f
  rw [null, refused] at coerced
  cases coerced

/-- A value that does not coerce, and is not a null the field may be without, is refused at the
field's name. -/
theorem check_of_refused (refused : f.coerce v = .error p)
    (kept : ¬(v = .null ∧ f.presence = .optional)) :
    f.check (some v) = .error ⟨[f.name], p⟩ := by
  rw [check, refused]
  intro optional null
  exact kept ⟨null, optional⟩

/-- A field left out passes unless it is required. -/
theorem check_none_ok_iff : (∃ x, f.check none = .ok x) ↔ f.isRequired = false := by
  cases given : f.presence <;> simp [check, isRequired, given]

/-- A value given passes exactly when its field takes it. -/
theorem check_some_ok_iff : (∃ x, f.check (some v) = .ok x) ↔ f.Accepts v := by
  cases coerced : f.coerce v with
  | ok w => simp [check_of_coerced coerced, Accepts, coerced]
  | error p =>
    by_cases special : v = .null ∧ f.presence = .optional
    · obtain ⟨rfl, optional⟩ := special
      simp [check_optional_null optional, Accepts, optional]
    · simp only [check_of_refused coerced special, reduceCtorEq, exists_false, false_iff]
      rintro (null | ⟨_, taken⟩)
      · exact special null
      · simp [coerced] at taken

/-- Every issue of a field's check is at the field's name. -/
theorem check_error_loc (refused : f.check o = .error i) : i.loc = [f.name] := by
  cases o with
  | none =>
    cases given : f.presence <;> simp [check, given] at refused
    rw [← refused]
  | some v =>
    cases coerced : f.coerce v with
    | ok w => simp [check_of_coerced coerced] at refused
    | error p =>
      by_cases special : v = .null ∧ f.presence = .optional
      · obtain ⟨rfl, optional⟩ := special
        simp [check_optional_null optional] at refused
      · rw [check_of_refused coerced special, Except.error.injEq] at refused
        rw [← refused]

/-- A value that passes is taken as its coerced value, or left out when it is a null the field
may be without. -/
theorem check_some_ok (passed : f.check (some v) = .ok x) : x = (f.coerce v).toOption := by
  cases coerced : f.coerce v with
  | ok w =>
    rw [check_of_coerced coerced, Except.ok.injEq] at passed
    rw [← passed]
    rfl
  | error p =>
    by_cases special : v = .null ∧ f.presence = .optional
    · obtain ⟨rfl, optional⟩ := special
      rw [check_optional_null optional, Except.ok.injEq] at passed
      rw [← passed]
      rfl
    · rw [check_of_refused coerced special] at passed
      cases passed

/-- A field left out that passes is taken as its default, if it has one. -/
theorem check_none_ok (passed : f.check none = .ok x) : x = f.default? := by
  cases given : f.presence <;> simp_all [check, default?]

/-- A field has a default exactly when its presence gives one. -/
theorem default?_eq_some : f.default? = some d ↔ f.presence = .defaulted d := by
  unfold default?
  split <;> simp_all

/-- What passes a field's check passes it again as it is, when the field's default fits it. -/
theorem check_stable (fits : f.defaultFits = true) (passed : f.check o = .ok x) :
    f.check x = .ok x := by
  cases o with
  | none =>
    rw [check_none_ok passed]
    cases defaulted : f.default? with
    | some d =>
      -- A default is given back as itself, being of the field's kind.
      exact check_of_coerced (coerce_default fits (default?_eq_some.mp defaulted))
    | none =>
      -- Left out with no default, the field passed, so it may be left out.
      cases given : f.presence <;> simp_all [check, default?]
  | some v =>
    rw [check_some_ok passed]
    cases coerced : f.coerce v with
    | error p =>
      -- Only a null the field may be without passes without coercing.
      by_cases special : v = .null ∧ f.presence = .optional
      · simp [check, special.2, Except.toOption]
      · rw [check_of_refused coerced special] at passed
        cases passed
    | ok w => exact check_of_coerced (coerce_coerced coerced)

/-- What passes a field's check is no null, when the field's default fits it. -/
theorem check_ok_ne_null (fits : f.defaultFits = true) (passed : f.check o = .ok (some w)) :
    w ≠ .null := by
  cases o with
  | none =>
    have defaulted := default?_eq_some.mp (check_none_ok passed).symm
    exact coerce_ne_null (coerce_default fits defaulted)
  | some v =>
    have coerced := check_some_ok passed
    cases result : f.coerce v with
    | error p => simp [result, Except.toOption] at coerced
    | ok u =>
      simp only [result, Except.toOption, Option.some.injEq] at coerced
      exact coerced ▸ coerce_ne_null result

end Check

end Field

namespace Schema

/-- What a schema asks of a bag: every key is a wire name of a field, every required field is
given, and each field takes the value given for it. -/
def Admits (s : Schema) (raw : Bag) : Prop :=
  (∀ k ∈ raw.keys, k ∈ s.fieldNames) ∧
  (∀ f ∈ s.fields, f.isRequired = true → f.name ∈ raw.keys) ∧
  (∀ kv ∈ raw, ∀ f ∈ s.fields, f.name = kv.1 → f.Accepts kv.2)

/-- A key that a schema refuses in a bag: a key that is no field, a required field left out, or a
field given a value it does not take. -/
def Offends (s : Schema) (raw : Bag) (k : String) : Prop :=
  (k ∈ raw.keys ∧ k ∉ s.fieldNames) ∨
  ∃ f ∈ s.fields, f.name = k ∧
    ((raw.get? k = none ∧ f.isRequired = true) ∨ ∃ v, raw.get? k = some v ∧ ¬f.Accepts v)

/-- A bag validated from another: each field given holds its coerced value, each field left out
its default if it has one, and nothing else is in it, nothing null. -/
def Validated (s : Schema) (raw b : Bag) : Prop :=
  (∀ f ∈ s.fields, ∀ v, raw.get? f.name = some v → b.get? f.name = (f.coerce v).toOption) ∧
  (∀ f ∈ s.fields, raw.get? f.name = none → b.get? f.name = f.default?) ∧
  (∀ kv ∈ b, kv.1 ∈ s.fieldNames ∧ kv.2 ≠ .null)

/-- The schemas of the package keep their wire names apart. -/
theorem fieldNames_nodup : ∀ s ∈ all, s.fieldNames.Nodup := by
  decide +kernel

/-- The wire names of the package are plain text, with no lone unit. -/
theorem fieldNames_readable : ∀ s ∈ all, ∀ n ∈ s.fieldNames, Text.hasLoneUnit n = false := by
  decide +kernel

/-- Every default of the package is of its field's kind. -/
theorem defaults_fit : ∀ s ∈ all, ∀ f ∈ s.fields, f.defaultFits = true := by
  decide +kernel

/-- The flag that ignores a failed first fetch has its wire name, and its attribute name is no
wire name. -/
theorem startup_flag_wire_name :
    ∀ s ∈ all, "ignoreStartupNodata" ∈ s.fieldNames ∧ "ignore_startup_nodata" ∉ s.fieldNames := by
  decide +kernel

/-- The issue a field's check raises on a mapping, if any. -/
def issueOf (raw : Mapping) (f : Field) : Option Issue :=
  match f.check (raw.get? (.str f.name)) with
  | .error i => some i
  | .ok _ => none

/-- The entry a field's check gives a mapping, if any. -/
def entryOf (raw : Mapping) (f : Field) : Option (String × Value) :=
  match f.check (raw.get? (.str f.name)) with
  | .ok (some v) => some (f.name, v)
  | _ => none

/-- The issues of a key that is no field of a bag, in the bag's order. -/
def unknownIssues (s : Schema) (raw : Mapping) : List Issue :=
  raw.filterMap fun kv => s.keyIssue? kv.1

/-- Checking the fields gives each field's issue and each field's entry, in field order. -/
theorem checkFields_eq (raw : Mapping) (fields : List Field) :
    checkFields raw fields = (fields.filterMap (issueOf raw), fields.filterMap (entryOf raw)) := by
  induction fields with
  | nil => rfl
  | cons f rest ih =>
    simp only [checkFields, ih, List.filterMap_cons, issueOf, entryOf]
    split <;> rename_i checked <;> simp [checked]

/-- A field raises no issue exactly when its check passes. -/
theorem issueOf_eq_none_iff {raw : Mapping} {f : Field} :
    issueOf raw f = none ↔ ∃ x, f.check (raw.get? (.str f.name)) = .ok x := by
  unfold issueOf
  split <;> simp_all

/-- A field's issue is the one its check raises. -/
theorem issueOf_eq_some_iff {raw : Mapping} {f : Field} {i : Issue} :
    issueOf raw f = some i ↔ f.check (raw.get? (.str f.name)) = .error i := by
  unfold issueOf
  split <;> simp_all

/-- A field's entry is at the field's name, and holds what its check gives. -/
theorem entryOf_eq_some {raw : Mapping} {f : Field} {e : String × Value}
    (made : entryOf raw f = some e) :
    e.1 = f.name ∧ f.check (raw.get? (.str f.name)) = .ok (some e.2) := by
  unfold entryOf at made
  split at made
  · rename_i v checked
    cases made
    exact ⟨rfl, checked⟩
  · cases made

/-- Validation refuses a bag with a key it cannot read outright, and otherwise gives the entries of
the fields when no field and no key is at fault, or else their issues. -/
theorem validate_eq (s : Schema) (raw : Mapping) :
    s.validate raw =
      if raw.any (unreadableKey ·.1) then .error [⟨[], .textEncoding⟩]
      else if (s.fields.filterMap (issueOf raw)).isEmpty && (s.unknownIssues raw).isEmpty then
        .ok (s.fields.filterMap (entryOf raw))
      else .error (s.fields.filterMap (issueOf raw) ++ s.unknownIssues raw) := by
  simp only [validate, checkFields_eq, unknownIssues]
  rfl

/-- Validation passes exactly when every key is readable, no field and no key is at fault, and then
gives the fields' entries. -/
theorem validate_eq_ok_iff {s : Schema} {raw : Mapping} {b : Bag} :
    s.validate raw = .ok b ↔
      raw.any (unreadableKey ·.1) = false ∧ s.fields.filterMap (issueOf raw) = [] ∧
        s.unknownIssues raw = [] ∧ b = s.fields.filterMap (entryOf raw) := by
  rw [validate_eq]
  split
  · rename_i unreadable
    simp only [reduceCtorEq, false_iff, not_and]
    intro readable
    simp [readable] at unreadable
  · rename_i readable
    rw [Bool.not_eq_true] at readable
    split
    · rename_i clean
      simp only [Bool.and_eq_true, List.isEmpty_iff] at clean
      simp only [Except.ok.injEq, readable, clean, true_and, eq_comm]
    · rename_i unclean
      simp only [reduceCtorEq, false_iff, not_and]
      intro _ fields keys
      simp [fields, keys] at unclean

/-- Validation fails on an unreadable key with one issue at the bag itself, and otherwise with the
issues of the fields, then of the keys, when there are any. -/
theorem validate_eq_error_iff {s : Schema} {raw : Mapping} {issues : List Issue} :
    s.validate raw = .error issues ↔
      (raw.any (unreadableKey ·.1) = true ∧ issues = [⟨[], .textEncoding⟩]) ∨
      (raw.any (unreadableKey ·.1) = false ∧ issues ≠ [] ∧
        issues = s.fields.filterMap (issueOf raw) ++ s.unknownIssues raw) := by
  rw [validate_eq]
  split
  · rename_i unreadable
    simp only [Except.error.injEq, unreadable, true_and, Bool.true_eq_false, false_and, or_false]
    exact eq_comm
  · rename_i readable
    rw [Bool.not_eq_true] at readable
    simp only [readable, Bool.false_eq_true, false_and, true_and, false_or]
    split
    · rename_i clean
      simp only [Bool.and_eq_true, List.isEmpty_iff] at clean
      simp only [reduceCtorEq, false_iff, clean, List.append_nil, not_and]
      exact fun empty same => empty same
    · rename_i unclean
      simp only [Bool.and_eq_true, List.isEmpty_iff, not_and] at unclean
      simp only [Except.error.injEq]
      constructor
      · rintro rfl
        refine ⟨fun empty => ?_, rfl⟩
        obtain ⟨fields, keys⟩ := List.append_eq_nil_iff.mp empty
        exact unclean fields keys
      · rintro ⟨-, rfl⟩
        rfl

section Bags

variable {s : Schema} {raw : Bag}

/-- A bag's key is unreadable exactly when it holds a lone unit. -/
theorem any_unreadable_ofBag :
    (Mapping.ofBag raw).any (unreadableKey ·.1) = raw.any (fun kv => Text.hasLoneUnit kv.1) := by
  simp [Mapping.ofBag, List.any_map, Function.comp_def, unreadableKey]

/-- The keys of a bag that are no field, each at its own name. -/
theorem unknownIssues_ofBag :
    s.unknownIssues (Mapping.ofBag raw) =
      raw.filterMap fun kv => if s.fieldNames.contains kv.1 then none else some ⟨[kv.1], .extra⟩ := by
  simp [unknownIssues, Mapping.ofBag, List.filterMap_map, keyIssue?]

/-- No key is at fault exactly when every key is a field. -/
theorem unknownIssues_eq_nil_iff :
    s.unknownIssues (Mapping.ofBag raw) = [] ↔ ∀ k ∈ raw.keys, k ∈ s.fieldNames := by
  rw [unknownIssues_ofBag, List.filterMap_eq_nil_iff]
  simp [Bag.keys]

/-- The keys at fault are the keys that are no field. -/
theorem mem_unknownIssues_loc {loc : List String} :
    loc ∈ (s.unknownIssues (Mapping.ofBag raw)).map Issue.loc ↔
      ∃ k ∈ raw.keys, k ∉ s.fieldNames ∧ loc = [k] := by
  rw [unknownIssues_ofBag]
  simp only [List.mem_map, List.mem_filterMap, Bag.keys]
  constructor
  · rintro ⟨i, ⟨kv, member, made⟩, rfl⟩
    split at made
    · cases made
    · rename_i unnamed
      cases made
      exact ⟨kv.1, ⟨kv, member, rfl⟩, by simpa using unnamed, rfl⟩
  · rintro ⟨k, ⟨kv, member, rfl⟩, unnamed, rfl⟩
    exact ⟨⟨[kv.1], .extra⟩, ⟨kv, member, by simp [unnamed]⟩, rfl⟩

/-- A field's check fails exactly when it is required and left out, or given a value it does not
take. -/
theorem check_fails_iff {f : Field} :
    (¬∃ x, f.check (raw.get? f.name) = .ok x) ↔
      (raw.get? f.name = none ∧ f.isRequired = true) ∨
        ∃ v, raw.get? f.name = some v ∧ ¬f.Accepts v := by
  cases given : raw.get? f.name with
  | none => simp [Field.check_none_ok_iff]
  | some v => simp [Field.check_some_ok_iff]

/-- No field is at fault exactly when the required fields are given and each field takes the
value given for it. -/
theorem fieldIssues_eq_nil_iff (distinct : raw.keys.Nodup) :
    s.fields.filterMap (issueOf (Mapping.ofBag raw)) = [] ↔
      (∀ f ∈ s.fields, f.isRequired = true → f.name ∈ raw.keys) ∧
      (∀ kv ∈ raw, ∀ f ∈ s.fields, f.name = kv.1 → f.Accepts kv.2) := by
  rw [List.filterMap_eq_nil_iff]
  simp only [issueOf_eq_none_iff, Mapping.get?_ofBag]
  constructor
  · intro allPass
    refine ⟨fun f member required => ?_, fun kv member f field named => ?_⟩
    · -- A required field left out would fail.
      cases found : raw.get? f.name with
      | none =>
        have passed := allPass f member
        rw [found, Field.check_none_ok_iff] at passed
        simp [passed] at required
      | some v => exact List.mem_map.mpr ⟨_, Bag.mem_of_get? found, rfl⟩
    · -- Keys being distinct, each entry is what its key finds.
      have found := Bag.get?_of_mem distinct member
      rw [← named] at found
      exact Field.check_some_ok_iff.mp (found ▸ allPass f field)
  · rintro ⟨given, taken⟩ f member
    cases found : raw.get? f.name with
    | none =>
      -- A field left out is not required.
      refine Field.check_none_ok_iff.mpr ?_
      cases required : f.isRequired
      · rfl
      · exact absurd (given f member required) (Bag.get?_eq_none_iff.mp found)
    | some v => exact Field.check_some_ok_iff.mpr (taken _ (Bag.mem_of_get? found) f member rfl)

/-- The fields at fault are the fields that fail their checks, each at its name. -/
theorem mem_fieldIssues_loc {loc : List String} :
    loc ∈ (s.fields.filterMap (issueOf (Mapping.ofBag raw))).map Issue.loc ↔
      ∃ f ∈ s.fields, loc = [f.name] ∧ ¬∃ x, f.check (raw.get? f.name) = .ok x := by
  simp only [List.mem_map, List.mem_filterMap, issueOf_eq_some_iff, Mapping.get?_ofBag]
  constructor
  · rintro ⟨i, ⟨f, member, refused⟩, rfl⟩
    exact ⟨f, member, Field.check_error_loc refused, by simp [refused]⟩
  · rintro ⟨f, member, rfl, failed⟩
    cases checked : f.check (raw.get? f.name) with
    | ok x => exact absurd ⟨x, checked⟩ failed
    | error i => exact ⟨i, ⟨f, member, checked⟩, Field.check_error_loc checked⟩

/-- In a schema with distinct wire names, a field's entry is what its check gives. -/
theorem get?_entries {fields : List Field} (names : (fields.map (·.name)).Nodup) {f : Field}
    (member : f ∈ fields) (raw : Mapping) {x : Option Value}
    (passed : f.check (raw.get? (.str f.name)) = .ok x) :
    Bag.get? (fields.filterMap (entryOf raw)) f.name = x := by
  induction fields with
  | nil => simp at member
  | cons g rest ih =>
    simp only [List.map_cons, List.nodup_cons] at names
    rcases List.mem_cons.mp member with rfl | later
    · -- The field itself comes first; nothing after it has its name.
      have absent : ∀ e ∈ rest.filterMap (entryOf raw), e.1 ≠ f.name := by
        intro e entry same
        obtain ⟨g, member, made⟩ := List.mem_filterMap.mp entry
        exact names.1 (List.mem_map.mpr ⟨g, member, (entryOf_eq_some made).1.symm.trans same⟩)
      cases x with
      | none => simp [entryOf, passed, Bag.get?_eq_none absent]
      | some w => simp [entryOf, passed, Bag.get?]
    · have other : g.name ≠ f.name := fun same =>
        names.1 (List.mem_map.mpr ⟨f, later, same.symm⟩)
      rw [List.filterMap_cons]
      cases made : entryOf raw g with
      | none => exact ih names.2 later
      | some e =>
        -- The entry before is at another name, so the search passes it.
        simpa [Bag.get?, (entryOf_eq_some made).1, other] using ih names.2 later

/-- A bag with a key holding a lone unit is refused as a whole, at no location. -/
theorem validate_unreadable (unreadable : ∃ k ∈ raw.keys, Text.hasLoneUnit k = true) :
    s.validate (Mapping.ofBag raw) = .error [⟨[], .textEncoding⟩] := by
  obtain ⟨k, named, lone⟩ := unreadable
  obtain ⟨kv, member, rfl⟩ := List.mem_map.mp named
  have found : (Mapping.ofBag raw).any (unreadableKey ·.1) = true := by
    rw [any_unreadable_ofBag, List.any_eq_true]
    exact ⟨kv, member, lone⟩
  exact validate_eq_error_iff.mpr (.inl ⟨found, rfl⟩)

/-- A bag whose keys hold no lone unit has no unreadable key. -/
theorem any_unreadable_ofBag_false (readable : ∀ k ∈ raw.keys, Text.hasLoneUnit k = false) :
    (Mapping.ofBag raw).any (unreadableKey ·.1) = false := by
  rw [any_unreadable_ofBag, List.any_eq_false]
  intro kv member
  simp [readable kv.1 (List.mem_map_of_mem member)]

/-- In a schema of the package, a bag whose keys are all fields has readable keys. -/
theorem readable_of_known (member : s ∈ all) (known : ∀ k ∈ raw.keys, k ∈ s.fieldNames) :
    ∀ k ∈ raw.keys, Text.hasLoneUnit k = false :=
  fun k named => fieldNames_readable s member k (known k named)

/-- A bag with distinct keys passes a schema of the package exactly when the schema admits it. -/
theorem validate_ok_iff (member : s ∈ all) (distinct : raw.keys.Nodup) :
    (∃ b, s.validate (Mapping.ofBag raw) = .ok b) ↔ s.Admits raw := by
  constructor
  · rintro ⟨b, valid⟩
    obtain ⟨-, fieldsPass, keysKnown, -⟩ := validate_eq_ok_iff.mp valid
    exact ⟨unknownIssues_eq_nil_iff.mp keysKnown, (fieldIssues_eq_nil_iff distinct).mp fieldsPass⟩
  · rintro ⟨known, fieldsTake⟩
    -- Keys that are all wire names are readable, so the bag is not refused outright.
    exact ⟨_, validate_eq_ok_iff.mpr ⟨any_unreadable_ofBag_false (readable_of_known member known),
      (fieldIssues_eq_nil_iff distinct).mpr fieldsTake, unknownIssues_eq_nil_iff.mpr known, rfl⟩⟩

/-- When every key is readable, the locations of a refusal are exactly the keys at fault. -/
theorem mem_locs_of_validate_error (readable : ∀ k ∈ raw.keys, Text.hasLoneUnit k = false)
    {issues : List Issue} (refused : s.validate (Mapping.ofBag raw) = .error issues)
    (loc : List String) :
    loc ∈ issues.map Issue.loc ↔ ∃ k, loc = [k] ∧ s.Offends raw k := by
  rcases validate_eq_error_iff.mp refused with ⟨unreadable, -⟩ | ⟨-, -, rfl⟩
  · rw [any_unreadable_ofBag_false readable] at unreadable
    cases unreadable
  · -- The fields at fault come first, then the keys that are no field.
    rw [List.map_append, List.mem_append, mem_fieldIssues_loc, mem_unknownIssues_loc]
    constructor
    · rintro (⟨f, field, rfl, failed⟩ | ⟨k, named, unnamed, rfl⟩)
      · exact ⟨f.name, rfl, .inr ⟨f, field, rfl, check_fails_iff.mp failed⟩⟩
      · exact ⟨k, rfl, .inl ⟨named, unnamed⟩⟩
    · rintro ⟨k, rfl, ⟨named, unnamed⟩ | ⟨f, field, rfl, failed⟩⟩
      · exact .inr ⟨k, named, unnamed, rfl⟩
      · exact .inl ⟨f, field, rfl, check_fails_iff.mpr failed⟩

/-- Each field of a validated bag holds what the field's check gives on the raw bag. -/
theorem get?_validated (member : s ∈ all) {b : Bag}
    (valid : s.validate (Mapping.ofBag raw) = .ok b) {f : Field} (field : f ∈ s.fields) :
    ∃ x, f.check (raw.get? f.name) = .ok x ∧ b.get? f.name = x := by
  obtain ⟨-, fieldsPass, -, rfl⟩ := validate_eq_ok_iff.mp valid
  obtain ⟨x, passed⟩ := issueOf_eq_none_iff.mp (List.filterMap_eq_nil_iff.mp fieldsPass f field)
  refine ⟨x, by rwa [Mapping.get?_ofBag] at passed, ?_⟩
  exact get?_entries (fieldNames_nodup s member) field _ passed

/-- A bag that passes a schema of the package validates to the coerced values of the fields given
and the defaults of those left out, with no null and nothing else. -/
theorem validated_of_validate (member : s ∈ all) {b : Bag}
    (valid : s.validate (Mapping.ofBag raw) = .ok b) : s.Validated raw b := by
  refine ⟨fun f field v given => ?_, fun f field absent => ?_, fun kv entry => ?_⟩
  · obtain ⟨x, passed, found⟩ := get?_validated member valid field
    rw [given] at passed
    rw [found, Field.check_some_ok passed]
  · obtain ⟨x, passed, found⟩ := get?_validated member valid field
    rw [absent] at passed
    rw [found, Field.check_none_ok passed]
  · -- Every entry is a field's, made by its passing check.
    obtain ⟨-, -, -, rfl⟩ := validate_eq_ok_iff.mp valid
    obtain ⟨f, field, made⟩ := List.mem_filterMap.mp entry
    obtain ⟨named, passed⟩ := entryOf_eq_some made
    refine ⟨?_, Field.check_ok_ne_null (defaults_fit s member f field) passed⟩
    rw [named]
    exact List.mem_map_of_mem field

/-- A validated bag validates to itself. -/
theorem validate_validated (member : s ∈ all) {b : Bag}
    (valid : s.validate (Mapping.ofBag raw) = .ok b) : s.validate (Mapping.ofBag b) = .ok b := by
  -- Each field checks the validated bag as it checked the raw one, its value being stable.
  have same : ∀ f ∈ s.fields, f.check ((Mapping.ofBag b).get? (.str f.name)) =
      f.check ((Mapping.ofBag raw).get? (.str f.name)) := by
    intro f field
    obtain ⟨x, passed, found⟩ := get?_validated member valid field
    rw [Mapping.get?_ofBag, Mapping.get?_ofBag, found, passed]
    exact Field.check_stable (defaults_fit s member f field) passed
  have issues : s.fields.filterMap (issueOf (Mapping.ofBag b)) =
      s.fields.filterMap (issueOf (Mapping.ofBag raw)) :=
    List.filterMap_congr fun f field => by simp only [issueOf, same f field]
  have entries : s.fields.filterMap (entryOf (Mapping.ofBag b)) =
      s.fields.filterMap (entryOf (Mapping.ofBag raw)) :=
    List.filterMap_congr fun f field => by simp only [entryOf, same f field]
  have known : ∀ k ∈ b.keys, k ∈ s.fieldNames := by
    intro k named
    obtain ⟨e, entry, rfl⟩ := List.mem_map.mp named
    exact validate_keys valid e entry
  obtain ⟨-, fieldsPass, -, made⟩ := validate_eq_ok_iff.mp valid
  exact validate_eq_ok_iff.mpr ⟨any_unreadable_ofBag_false (readable_of_known member known),
    issues ▸ fieldsPass, unknownIssues_eq_nil_iff.mpr known, made.trans entries.symm⟩

end Bags

end Schema

/-- The options sent with a call are the bag without the two that steer the lookup. -/
theorem backendOptions_eq (b : Bag) :
    backendOptions b = (b.erase "mode").erase "ignoreStartupNodata" := by
  simp only [backendOptions, Bag.restrict, Bag.erase, List.filter_filter]
  congr 1
  funext kv
  simp only [lookupOnlyOptions, List.contains_cons, List.contains_nil, Bool.or_false, Bool.not_or,
    bne]
  exact Bool.and_comm _ _

section Options

variable {s : Schema} {raw : Mapping} {operation : String}

/-- Validating options passes with what the schema's validation gives. -/
theorem validateOptions_eq_ok_iff {b : Bag} :
    validateOptions s raw operation = .ok b ↔ s.validate raw = .ok b := by
  unfold validateOptions
  split <;> simp_all

/-- Validating options fails with the schema's issues, under the operation's name. -/
theorem validateOptions_eq_error_iff {e : RequestError} :
    validateOptions s raw operation = .error e ↔
      ∃ issues, s.validate raw = .error issues ∧ e = .invalidOptions operation issues := by
  cases validated : s.validate raw <;> simp [validateOptions, validated, eq_comm]

end Options

/-- A bag with distinct keys passes a schema of the package exactly when the schema admits it; a
refusal locates the keys at fault, and what passes holds the coerced values and defaults and
validates to itself. -/
theorem validateOptions_characterized {s : Schema} (member : s ∈ Schema.all) {raw : Bag}
    (distinct : raw.keys.Nodup) (operation : String) :
    ("ignoreStartupNodata" ∈ s.fieldNames ∧ "ignore_startup_nodata" ∉ s.fieldNames) ∧
    ((∃ b, validateOptions s (Mapping.ofBag raw) operation = .ok b) ↔ s.Admits raw) ∧
    (∀ e, validateOptions s (Mapping.ofBag raw) operation = .error e → ∃ issues,
      e = .invalidOptions operation issues ∧
      ((∃ k ∈ raw.keys, Text.hasLoneUnit k = true) → issues = [⟨[], .textEncoding⟩]) ∧
      ((∀ k ∈ raw.keys, Text.hasLoneUnit k = false) →
        ∀ loc, loc ∈ issues.map Issue.loc ↔ ∃ k, loc = [k] ∧ s.Offends raw k)) ∧
    (∀ b, validateOptions s (Mapping.ofBag raw) operation = .ok b →
      s.Validated raw b ∧ validateOptions s (Mapping.ofBag b) operation = .ok b ∧
      backendOptions b = (b.erase "mode").erase "ignoreStartupNodata") := by
  refine ⟨Schema.startup_flag_wire_name s member, ?_, fun e refused => ?_, fun b passed => ?_⟩
  · simp only [validateOptions_eq_ok_iff]
    exact Schema.validate_ok_iff member distinct
  · obtain ⟨issues, failed, rfl⟩ := validateOptions_eq_error_iff.mp refused
    refine ⟨issues, rfl, fun unreadable => ?_, fun readable =>
      Schema.mem_locs_of_validate_error readable failed⟩
    rw [Schema.validate_unreadable unreadable] at failed
    exact (Except.error.inj failed).symm
  · have valid := validateOptions_eq_ok_iff.mp passed
    exact ⟨Schema.validated_of_validate member valid,
      validateOptions_eq_ok_iff.mpr (Schema.validate_validated member valid), backendOptions_eq b⟩

/-- A key and a flag spelled as text, against the schema of reading keys and values. -/
theorem validateOptions_characterized_kvGet :
    let raw : Bag := [("key", .str "db"), ("wan", .str "yes")]
    Schema.kvGet ∈ Schema.all ∧ raw.keys.Nodup ∧
    ("ignoreStartupNodata" ∈ Schema.kvGet.fieldNames ∧
      "ignore_startup_nodata" ∉ Schema.kvGet.fieldNames) ∧
    ((∃ b, validateOptions Schema.kvGet (Mapping.ofBag raw) "kv.get" = .ok b) ↔
      Schema.kvGet.Admits raw) ∧
    (∀ e, validateOptions Schema.kvGet (Mapping.ofBag raw) "kv.get" = .error e → ∃ issues,
      e = .invalidOptions "kv.get" issues ∧
      ((∃ k ∈ raw.keys, Text.hasLoneUnit k = true) → issues = [⟨[], .textEncoding⟩]) ∧
      ((∀ k ∈ raw.keys, Text.hasLoneUnit k = false) →
        ∀ loc, loc ∈ issues.map Issue.loc ↔ ∃ k, loc = [k] ∧ Schema.kvGet.Offends raw k)) ∧
    (∀ b, validateOptions Schema.kvGet (Mapping.ofBag raw) "kv.get" = .ok b →
      Schema.kvGet.Validated raw b ∧ validateOptions Schema.kvGet (Mapping.ofBag b) "kv.get" = .ok b ∧
      backendOptions b = (b.erase "mode").erase "ignoreStartupNodata") :=
  ⟨by simp [Schema.all], by decide +kernel,
    validateOptions_characterized (by simp [Schema.all]) (by decide +kernel) "kv.get"⟩

/-- An unknown field beside a key holding a lone unit: the field offends, yet the refusal locates
neither key, only the bag as a whole. -/
theorem lone_unit_key_hides_offenders :
    let raw : Bag := [("bogus", .int 1), (String.ofList (Text.unitChars 0xD800), .str "x")]
    Schema.kvGet.Offends raw "bogus" ∧
      validateOptions Schema.kvGet (Mapping.ofBag raw) "kv.get" =
        .error (.invalidOptions "kv.get" [⟨[], .textEncoding⟩]) := by
  intro raw
  have unknown : "bogus" ∉ Schema.kvGet.fieldNames := by decide +kernel
  have lone : Text.hasLoneUnit (String.ofList (Text.unitChars 0xD800)) = true := by decide +kernel
  refine ⟨.inl ⟨List.mem_cons_self, unknown⟩, validateOptions_eq_error_iff.mpr ⟨_, ?_, rfl⟩⟩
  exact Schema.validate_unreadable ⟨_, List.mem_cons_of_mem _ List.mem_cons_self, lone⟩


end ConsulLookup
