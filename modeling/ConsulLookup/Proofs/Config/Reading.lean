import ConsulLookup.Proofs.Yaml.Values
import ConsulLookup.Proofs.Config.Failures
import ConsulLookup.Proofs.Value.Override
import ConsulLookup.Proofs.Call.Consistency

/-! Reading settings from a JSON object, field by field. -/

namespace ConsulLookup

namespace Yaml

/-- Two texts are the same key when they are equal. -/
@[simp] theorem Datum.sameKey_texts (a b : String) :
    (Datum.str a).sameKey (.str b) = (a == b) := rfl

end Yaml

namespace ConnectionConfig

open Yaml Store

section Entries

variable {s : Store} {b : Nat}

/-- A key of entries standing for fields is among them exactly when it is a key of the fields. -/
theorem any_sameKey_of_forall₂ {es : List (Datum × Datum)} {fields : Bag}
    (rel : List.Forall₂ (EntryFor s b) es fields) (k : String) :
    (es.any fun e => e.1.sameKey (.str k)) = fields.contains k := by
  induction rel with
  | nil => rfl
  | @cons e f _ _ head _ ih =>
    simp only [List.any_cons, head.1, Datum.sameKey_texts, ih, Bag.contains]

/-- A setting looked up among entries standing for fields is found exactly where the fields have
it, as a datum standing for its value. -/
theorem find_of_forall₂ {es : List (Datum × Datum)} {fields : Bag}
    (rel : List.Forall₂ (EntryFor s b) es fields) (name : String) :
    ((es.find? fun e => e.1.sameKey (.str name)).map (·.2) = none ∧ fields.get? name = none) ∨
      ∃ d v, (es.find? fun e => e.1.sameKey (.str name)).map (·.2) = some d ∧
        fields.get? name = some v ∧ StandsFor s b d v := by
  induction rel with
  | nil => exact .inl ⟨rfl, rfl⟩
  | @cons e f es fields head _ ih =>
    obtain ⟨key, stands⟩ := head
    by_cases same : f.1 = name
    · refine .inr ⟨e.2, f.2, ?_, ?_, stands⟩
      · simp [key, same, Datum.sameKey]
      · simp [Bag.get?, same]
    · have missed : e.1.sameKey (.str name) = false := by simp [key, same, Datum.sameKey]
      simpa [missed, Bag.get?, same] using ih

/-- A setting is looked up under the first key that is its name. -/
theorem setting_eq {α : Type} (entries : List (Datum × Datum)) (name : String)
    (coerce : Datum → Except (List Issue) α) (default : α) :
    setting entries name coerce default =
      match (entries.find? fun e => e.1.sameKey (.str name)).map (·.2) with
      | none => .ok default
      | some v => coerce v := rfl

/-- A setting present among fields that entries stand for, as a value only one datum stands for,
is read by coercing that datum. -/
theorem setting_of_present {α : Type} {es : List (Datum × Datum)} {fields : Bag}
    (rel : List.Forall₂ (EntryFor s b) es fields) {name : String} {v : Value}
    (present : fields.get? name = some v) {d : Datum} (only : ∀ d', StandsFor s b d' v → d' = d)
    (coerce : Datum → Except (List Issue) α) (default : α) :
    setting es name coerce default = coerce d := by
  rcases find_of_forall₂ rel name with ⟨-, missing⟩ | ⟨d', v', found, given, stands⟩
  · rw [present] at missing
    cases missing
  · rw [present, Option.some.injEq] at given
    subst given
    rw [setting_eq, found, only d' stands]

/-- A setting absent from fields that entries stand for takes its default. -/
theorem setting_of_absent {α : Type} {es : List (Datum × Datum)} {fields : Bag}
    (rel : List.Forall₂ (EntryFor s b) es fields) {name : String}
    (absent : fields.get? name = none) (coerce : Datum → Except (List Issue) α) (default : α) :
    setting es name coerce default = .ok default := by
  rcases find_of_forall₂ rel name with ⟨missed, -⟩ | ⟨d, v, -, given, -⟩
  · rw [setting_eq, missed]
  · rw [absent] at given
    cases given

/-- Setting a text key among entries standing for fields stands for setting it in the fields. -/
theorem setEntry_forall₂ {es : List (Datum × Datum)} {fields : Bag}
    (rel : List.Forall₂ (EntryFor s b) es fields) {k : String} {d : Datum} {v : Value}
    (stands : StandsFor s b d v) :
    List.Forall₂ (EntryFor s b) (setEntry es (.str k) d) (fields.insert k v) := by
  have present := any_sameKey_of_forall₂ rel k
  unfold setEntry Bag.insert
  rw [present]
  cases fields.contains k
  · -- A new key goes at the end of both.
    exact List.rel_append rel (.cons ⟨rfl, stands⟩ .nil)
  · -- A present key has its value replaced in place in both.
    simp only [if_true]
    refine List.rel_map (fun e f entry => ?_) rel
    obtain ⟨key, held⟩ := entry
    by_cases same : f.1 = k
    · simp [key, same, EntryFor, stands]
    · simp [key, same, EntryFor, held]

/-- A text key is a key of the defaults as itself. -/
theorem textSetting_str (n : String) : textSetting (.str n) = .ok n := rfl

/-- A keyed datum stands for a field: the same key, and the datum standing for the value. -/
def KeyedFor (s : Store) (b : Nat) (e : String × Datum) (f : String × Value) : Prop :=
  e.1 = f.1 ∧ StandsFor s b e.2 f.2

/-- Every entry standing for a field is keyed by the text of a field's name. -/
theorem exists_field_of_mem {es : List (Datum × Datum)} {fields : Bag}
    (rel : List.Forall₂ (EntryFor s b) es fields) {e : Datum × Datum} (member : e ∈ es) :
    ∃ f ∈ fields, e.1 = .str f.1 := by
  induction rel with
  | nil => cases member
  | @cons e' f _ _ head _ ih =>
    rcases List.mem_cons.mp member with rfl | later
    · exact ⟨f, List.mem_cons_self, head.1⟩
    · obtain ⟨f', field, key⟩ := ih later
      exact ⟨f', List.mem_cons_of_mem _ field, key⟩

/-- Setting a key among keyed data standing for fields stands for setting it in the fields. -/
theorem insertKeyed_forall₂ {K : List (String × Datum)} {G : Bag}
    (rel : List.Forall₂ (KeyedFor s b) K G) (k : String) {d : Datum} {v : Value}
    (stands : StandsFor s b d v) :
    List.Forall₂ (KeyedFor s b)
      (if (K.any fun x => x.1 == k) = true then
        K.map fun x => if (x.1 == k) = true then (x.1, d) else (x.1, x.2)
      else K ++ [(k, d)]) (G.insert k v) := by
  have present : (K.any fun x => x.1 == k) = G.contains k := by
    induction rel with
    | nil => rfl
    | @cons x f _ _ head _ ih => simp only [List.any_cons, head.1, ih, Bag.contains]
  unfold Bag.insert
  rw [present]
  cases G.contains k
  · exact List.rel_append rel (.cons ⟨rfl, stands⟩ .nil)
  · simp only [if_true]
    refine List.rel_map (fun x f entry => ?_) rel
    by_cases same : f.1 = k
    · simp [entry.1, same, KeyedFor, stands]
    · simp [entry.1, same, KeyedFor, entry.2]

/-- The keys of entries standing for fields are texts: they are taken as they are, a later value
of a key winning at the key's first place, as a mapping is built from the fields. -/
theorem defaultKeys_of_forall₂ {es : List (Datum × Datum)} {fields : Bag}
    (rel : List.Forall₂ (EntryFor s b) es fields) :
    ∃ K, defaultKeys s es = .ok K ∧ List.Forall₂ (KeyedFor s b) K (Bag.ofList fields) := by
  simp only [defaultKeys]
  split
  · -- Every key is a text, so no key is refused.
    rename_i refused
    rw [List.filterMap_eq_nil_iff.mpr ?_] at refused
    · simp at refused
    · intro x mapped
      obtain ⟨e, member, rfl⟩ := List.mem_map.mp mapped
      obtain ⟨f, -, key⟩ := exists_field_of_mem rel member
      simp [key, textSetting_str]
  · refine ⟨_, rfl, ?_⟩
    unfold Bag.ofList Bag.override
    -- Each text key is set in turn, as each field is set in the mapping.
    have keyed : List.Forall₂ (fun x f => x.2.1 = .ok f.1 ∧ StandsFor s b x.2.2 f.2)
        (es.map fun x => (x.1, textSetting x.1, x.2)) fields :=
      List.forall₂_map_left_iff.mpr (rel.imp fun e f entry => ⟨by rw [entry.1]; rfl, entry.2⟩)
    refine List.rel_foldl (fun acc accV accRel x f xRel => ?_) List.Forall₂.nil keyed
    obtain ⟨key, stands⟩ := xRel
    simp only [key]
    exact insertKeyed_forall₂ accRel f.1 stands

end Entries

/-- The entry kept of a requested default: none for a null, the text of the value for a text
option holding no text, and the value itself otherwise. -/
def keptEntry (kv : String × Value) : Option (String × Value) :=
  if kv.2.isNull then none
  else if textOptions.contains kv.1 && kv.2.str?.isNone then some (kv.1, .str kv.2.text)
  else some (kv.1, kv.2.canonical)

/-- The defaults kept of requested ones. -/
def keptDefaults (requested : Bag) : Bag :=
  requested.filterMap keptEntry

/-- Requested defaults that validation takes: every key a defaultable option, and every value of
a text option writable. -/
def Takes (requested : Bag) : Prop :=
  (∀ k ∈ requested.keys, k ∈ defaultableOptions) ∧
    ∀ kv ∈ requested, kv.1 ∈ textOptions → kv.2.writable = true

section Kept

variable {S : Store}

/-- A datum stands for null exactly when it is null. -/
theorem standsFor_null_iff {b : Nat} {d : Datum} {v : Value} (stands : StandsFor S b d v) :
    d = .null ↔ v = .null := by
  cases d <;> cases v <;> simp_all [StandsFor]

/-- A datum stands for a text exactly when it is that text. -/
theorem standsFor_str_iff {b : Nat} {d : Datum} {v : Value} (stands : StandsFor S b d v)
    (t : String) : d = .str t ↔ v = .str t := by
  cases d <;> cases v <;> simp_all [StandsFor]

/-- A datum stands for an integer exactly when it is that integer. -/
theorem standsFor_int_iff {b : Nat} {d : Datum} {v : Value} (stands : StandsFor S b d v)
    (n : Int) : d = .int n ↔ v = .int n := by
  cases d <;> cases v <;> simp_all [StandsFor]

/-- A datum stands for a boolean exactly when it is that boolean. -/
theorem standsFor_bool_iff {b : Nat} {d : Datum} {v : Value} (stands : StandsFor S b d v)
    (x : Bool) : d = .bool x ↔ v = .bool x := by
  cases d <;> cases v <;> simp_all [StandsFor]

/-- Keyed data standing for requested defaults are read one by one into the entries those keep:
the traversal succeeds exactly when every value of a text option can be written. -/
theorem mapM_keyed {step : String × Datum → Except Problem (Option (String × Value))}
    (spec : ∀ e f, KeyedFor S S.size e f → ∀ o,
      step e = .ok o ↔ (f.1 ∈ textOptions → f.2.writable = true) ∧ o = keptEntry f)
    {K : List (String × Datum)} {G : Bag} (rel : List.Forall₂ (KeyedFor S S.size) K G)
    {os : List (Option (String × Value))} :
    K.mapM step = .ok os ↔
      (∀ kv ∈ G, kv.1 ∈ textOptions → kv.2.writable = true) ∧ os = G.map keptEntry := by
  induction rel generalizing os with
  | nil => cases os <;> simp [pure, Except.pure]
  | @cons e f K G head _ ih =>
    simp only [mapM_cons_eq_ok, spec e f head, ih, List.mem_cons, forall_eq_or_imp,
      List.map_cons]
    constructor
    · rintro ⟨_, ⟨fits, rfl⟩, _, ⟨rest, rfl⟩, rfl⟩
      exact ⟨⟨fits, rest⟩, rfl⟩
    · rintro ⟨⟨fits, rest⟩, rfl⟩
      exact ⟨_, ⟨fits, rfl⟩, _, ⟨rest, rfl⟩, rfl⟩

/-- Keyed data are kept as their values are: the filtering traversal succeeds exactly when every
value of a text option can be written, and keeps the normal form of the values. -/
theorem filterMapM_keyed {step : String × Datum → Except Problem (Option (String × Value))}
    (spec : ∀ e f, KeyedFor S S.size e f → ∀ o,
      step e = .ok o ↔ (f.1 ∈ textOptions → f.2.writable = true) ∧ o = keptEntry f)
    {K : List (String × Datum)} {G : Bag} (rel : List.Forall₂ (KeyedFor S S.size) K G)
    {B : Bag} :
    K.filterMapM step = .ok B ↔
      (∀ kv ∈ G, kv.1 ∈ textOptions → kv.2.writable = true) ∧ B = keptDefaults G := by
  simp only [filterMapM_eq_ok_iff, mapM_keyed spec rel]
  -- Leaving out the entries dropped from those read gives the kept defaults.
  constructor
  · rintro ⟨_, ⟨fits, rfl⟩, rfl⟩
    exact ⟨fits, by simp [keptDefaults, List.filterMap_map]⟩
  · rintro ⟨fits, rfl⟩
    exact ⟨_, ⟨fits, rfl⟩, by simp [keptDefaults, List.filterMap_map]⟩

/-- A key set is empty exactly when the list it is made of is. -/
theorem sortedSet_isEmpty (xs : List String) : (sortedSet xs).isEmpty = xs.isEmpty := by
  rw [Bool.eq_iff_iff, List.isEmpty_iff, List.isEmpty_iff, List.eq_nil_iff_forall_not_mem,
    List.eq_nil_iff_forall_not_mem]
  simp [mem_sortedSet]

/-- Checking keyed data standing for requested defaults keeps the normal form of those, exactly
when validation takes them. -/
theorem checkDefaults_of_forall₂ {K : List (String × Datum)} {G : Bag}
    (rel : List.Forall₂ (KeyedFor S S.size) K G) {B : Bag} :
    checkDefaults S K = .ok B ↔ Takes G ∧ B = keptDefaults G := by
  -- The keyed data carry the keys of the requested defaults, so the same keys are refused.
  have keys : K.map (·.1) = G.keys := by
    induction rel with
    | nil => rfl
    | cons head _ ih =>
      simp only [List.map_cons, Bag.keys] at ih ⊢
      rw [ih, head.1]
  simp only [checkDefaults, keys, sortedSet_isEmpty]
  by_cases supported : ∀ k ∈ G.keys, k ∈ defaultableOptions
  · have noneRefused : (G.keys.filter fun k => !defaultableOptions.contains k).isEmpty = true := by
      simpa [List.filter_eq_nil_iff] using supported
    simp only [noneRefused, Bool.not_true, Bool.false_eq_true, if_false]
    rw [filterMapM_keyed (fun e f entry o => ?_) rel]
    · exact ⟨fun kept => ⟨⟨supported, kept.1⟩, kept.2⟩, fun kept => ⟨kept.1.2, kept.2⟩⟩
    -- One entry: a null is dropped, a text kept, and any other value written for a text
    -- option and read back for another.
    obtain ⟨k, d⟩ := e
    obtain ⟨key, stands⟩ := entry
    simp only at key stands ⊢
    subst key
    split
    next =>
      have null : f.2 = .null := (standsFor_null_iff stands).mp rfl
      simp [keptEntry, null, Value.isNull, Value.writable, eq_comm]
    next t =>
      have text : f.2 = .str t := (standsFor_str_iff stands t).mp rfl
      simp [keptEntry, text, Value.isNull, Value.writable, Value.str?, Value.canonical, eq_comm]
    next =>
      have present : f.2.isNull = false := by
        cases value : f.2 <;> simp_all [Value.isNull, standsFor_null_iff stands]
      have noText : f.2.str? = none := by
        cases value : f.2 <;> simp_all [Value.str?, standsFor_str_iff stands]
      by_cases option : f.1 ∈ textOptions
      · -- A text option's value is written, and refused when it is too long to write.
        cases text : S.text d with
        | ok t =>
          obtain ⟨fits, rfl⟩ := (text_of_standsFor stands).mp text
          simp only [List.elem_eq_mem, option, decide_true, if_true, Except.ok.injEq,
            keptEntry, present, noText, Option.isNone_none, Bool.and_true, Bool.false_eq_true,
            if_false, fits, true_implies, true_and]
          exact eq_comm
        | error reason =>
          have unwritable : f.2.writable = false := by
            by_contra fits
            have := (text_of_standsFor stands (t := f.2.text)).mpr ⟨by simpa using fits, rfl⟩
            rw [text] at this
            cases this
          simp [option, unwritable]
      · simp only [List.elem_eq_mem, option, decide_false, Bool.false_eq_true, if_false,
          Except.ok.injEq, keptEntry, present, Bool.false_and, false_implies, true_and,
          value_of_standsFor stands]
        exact eq_comm
  · -- Some key is no defaultable option, so the defaults are refused.
    have some : (G.keys.filter fun k => !defaultableOptions.contains k).isEmpty = false := by
      simpa [List.filter_eq_nil_iff] using supported
    simp only [some, Bool.not_false, if_true, reduceCtorEq, false_iff, not_and]
    intro takes
    exact absurd takes.1 supported

end Kept

section Gather

/-- The defaults a mapping of settings gives explicitly: the fields of the object under its first
`defaults` key, none when it has no such key, and `none` when that holds no object. -/
def explicitDefaults (fields : Bag) : Option Bag :=
  match fields.get? "defaults" with
  | none => some []
  | some (.obj given) => some given
  | some _ => none

/-- The defaults a mapping of settings asks for: its entries under keys that name no setting, then
its explicit defaults, a later value of a key winning at the place the key was first set. -/
def requestedDefaults (fields : Bag) : Bag :=
  Bag.ofList (fields.filter (fun f => !settingNames.contains f.1) ++ (explicitDefaults fields).getD [])

/-- Where a text key is set among entries, looking it up finds the value it was set to. -/
theorem find_setEntry_self (l : List (Datum × Datum)) (k : String) (d : Datum) :
    ((setEntry l (.str k) d).find? fun e => e.1.sameKey (.str k)).map (·.2) = some d := by
  unfold setEntry
  split
  · -- The key is present: its first entry is found, now holding the new value.
    rename_i present
    obtain ⟨e', member, hit⟩ := List.any_eq_true.mp present
    cases found : l.find? fun e => e.1.sameKey (.str k) with
    | none => exact absurd hit (by simpa using List.find?_eq_none.mp found e' member)
    | some e =>
    have same : e.1.sameKey (.str k) = true := by simpa using List.find?_some found
    rw [List.find?_map]
    have unchanged : ((fun e : Datum × Datum => e.1.sameKey (.str k)) ∘
        fun e : Datum × Datum => if e.1.sameKey (.str k) = true then (e.1, d) else (e.1, e.2)) =
        fun e => e.1.sameKey (.str k) := by
      funext e
      by_cases hit : e.1.sameKey (.str k) = true <;> simp [hit]
    rw [unchanged, found]
    simp [same]
  · -- The key is absent: it is found at the end.
    rename_i absent
    have missed : (l.find? fun e => e.1.sameKey (.str k)) = none :=
      List.find?_eq_none.mpr fun e member hit => absent (List.any_eq_true.mpr ⟨e, member, hit⟩)
    simp [List.find?_append, missed]

variable {s : Store}

/-- Entries standing for fields keep standing for them once more containers are added. -/
theorem entries_extend {S : Store} (ext : Extends s S) {raw : List (Datum × Datum)} {fields : Bag}
    (rel : List.Forall₂ (EntryFor s s.size) raw fields) :
    List.Forall₂ (EntryFor S S.size) raw fields :=
  rel.imp fun _ _ entry => ⟨entry.1, (entry.2.extend ext (Nat.le_refl _)).mono ext.size_le⟩

/-- The keys naming no setting stand for the fields naming none. -/
theorem extras_forall₂ {b : Nat} {raw : List (Datum × Datum)} {fields : Bag}
    (rel : List.Forall₂ (EntryFor s b) raw fields) :
    List.Forall₂ (EntryFor s b) (raw.filter fun e => !isSetting e.1)
      (fields.filter fun f => !settingNames.contains f.1) :=
  List.rel_filter (fun e f entry => by simp [entry.1, isSetting]) rel

/-- A mapping whose entries stand for fields gives the defaults setting by checking keyed data
standing for those fields, built into a mapping. -/
theorem defaultsOf_of_entries {d : Datum} {es : List (Datum × Datum)} {L : Bag}
    (mapping : s.entries? d = some es) (rel : List.Forall₂ (EntryFor s s.size) es L) :
    ∃ K, List.Forall₂ (KeyedFor s s.size) K (Bag.ofList L) ∧
      defaultsOf s d = (checkDefaults s K).mapError fun p => [⟨["defaults"], p⟩] := by
  obtain ⟨K, keyed, related⟩ := defaultKeys_of_forall₂ rel
  exact ⟨K, related, by simp [defaultsOf, mapping, keyed]⟩

/-- Settings whose defaults were gathered into a new mapping read them from that mapping. -/
theorem defaultsSetting_of_merged {settings merged : List (Datum × Datum)} {L : Bag}
    (rel : List.Forall₂ (EntryFor s s.size) merged L) :
    ∃ K, List.Forall₂ (KeyedFor (s.push (.map merged)) (s.push (.map merged)).size) K
        (Bag.ofList L) ∧
      setting (setEntry settings (.str "defaults") (.ref s.size)) "defaults"
          (defaultsOf (s.push (.map merged))) standard.defaults =
        (checkDefaults (s.push (.map merged)) K).mapError fun p => [⟨["defaults"], p⟩] := by
  have mapping : Store.entries? (s.push (.map merged)) (.ref s.size) = some merged := by
    simp [entries?, Store.get]
  rw [setting_eq, find_setEntry_self]
  exact defaultsOf_of_entries mapping (entries_extend (extends_push s _) rel)

/-- Settings whose keys all name settings read the defaults they give explicitly: refused when
those are no object, and otherwise by checking keyed data standing for them. -/
theorem defaultsSetting_of_settings {raw : List (Datum × Datum)} {fields : Bag}
    (rel : List.Forall₂ (EntryFor s s.size) raw fields)
    (noFlat : (fields.filter fun f => !settingNames.contains f.1) = []) :
    (explicitDefaults fields = none ∧
        ∃ e, setting raw "defaults" (defaultsOf s) standard.defaults = .error e) ∨
      ∃ K, List.Forall₂ (KeyedFor s s.size) K (requestedDefaults fields) ∧
        setting raw "defaults" (defaultsOf s) standard.defaults =
          (checkDefaults s K).mapError fun p => [⟨["defaults"], p⟩] := by
  have requested : requestedDefaults fields = Bag.ofList ((explicitDefaults fields).getD []) := by
    rw [requestedDefaults, noFlat, List.nil_append]
  rcases find_of_forall₂ rel "defaults" with ⟨-, missing⟩ | ⟨d, v, found, given, stands⟩
  · -- No defaults are given, and none are requested.
    refine .inr ⟨[], ?_, ?_⟩
    · simp [requested, explicitDefaults, missing, Bag.ofList, Bag.override]
    · rw [setting_of_absent rel missing]
      have nothing : checkDefaults s [] = .ok [] := by
        simp [checkDefaults, sortedSet_isEmpty]
        rfl
      rw [nothing]
      rfl
  · cases v with
    | obj given =>
      -- An object is given, and it is requested as it is.
      obtain ⟨es, mapping, entries⟩ := entries?_of_obj stands
      obtain ⟨K, keyed, result⟩ := defaultsOf_of_entries mapping entries
      refine .inr ⟨K, ?_, ?_⟩
      · simpa [requested, explicitDefaults, given] using keyed
      · rw [setting_eq, found]
        exact result
    | _ =>
      -- Anything else is no mapping.
      refine .inl ⟨by simp [explicitDefaults, given], [⟨["defaults"], .notMapping⟩], ?_⟩
      rw [setting_eq, found]
      simp [defaultsOf, entries?_of_not_obj stands (by simp)]

/-- Settings with keys naming no setting gather those, overridden by the explicit defaults, into a
new mapping and read the defaults from it; explicit defaults that are no object leave nothing to
gather into. -/
theorem defaultsSetting_of_extras {raw : List (Datum × Datum)} {fields : Bag}
    (rel : List.Forall₂ (EntryFor s s.size) raw fields) {s' : Store}
    {entries : List (Datum × Datum)} (gathered : gather s raw = .ok (s', entries))
    (flatKeys : (raw.filter fun e => !isSetting e.1).isEmpty = false) :
    ∃ K, List.Forall₂ (KeyedFor s' s'.size) K (requestedDefaults fields) ∧
      setting entries "defaults" (defaultsOf s') standard.defaults =
        (checkDefaults s' K).mapError fun p => [⟨["defaults"], p⟩] := by
  have flat := extras_forall₂ rel
  simp only [gather, flatKeys, Bool.false_eq_true, if_false] at gathered
  rw [find_defaults_of_settings] at gathered
  rcases find_of_forall₂ rel "defaults" with ⟨absent, missing⟩ | ⟨d, v, found, given, stands⟩
  · -- No defaults are given, so the flat keys alone are requested.
    rw [absent] at gathered
    simp only [Store.add, Except.ok.injEq, Prod.mk.injEq] at gathered
    obtain ⟨rfl, rfl⟩ := gathered
    have requested : requestedDefaults fields =
        Bag.ofList (fields.filter fun f => !settingNames.contains f.1) := by
      simp [requestedDefaults, explicitDefaults, missing]
    rw [requested]
    exact defaultsSetting_of_merged flat
  · rw [found] at gathered
    cases v with
    | obj explicit =>
      obtain ⟨es, mapping, entries⟩ := entries?_of_obj stands
      simp only [mapping, Store.add, Except.ok.injEq, Prod.mk.injEq] at gathered
      obtain ⟨rfl, rfl⟩ := gathered
      -- Each explicit default is set over the flat keys.
      have merged : List.Forall₂ (EntryFor s s.size)
          (es.foldl (fun acc e => setEntry acc e.1 e.2) (raw.filter fun e => !isSetting e.1))
          (Bag.override (fields.filter fun f => !settingNames.contains f.1) explicit) :=
        List.rel_foldl (fun acc accV accRel e f entry => by
          obtain ⟨key, held⟩ := entry
          simp only [key]
          exact setEntry_forall₂ accRel held) flat entries
      have requested : requestedDefaults fields = Bag.ofList
          (Bag.override (fields.filter fun f => !settingNames.contains f.1) explicit) := by
        simp only [requestedDefaults, explicitDefaults, given, Option.getD_some, Bag.ofList,
          Bag.override_append, Bag.override_override]
      rw [requested]
      exact defaultsSetting_of_merged merged
    | _ =>
      -- Defaults that are no mapping cannot be merged into.
      simp [entries?_of_not_obj stands (by simp)] at gathered

/-- The defaults setting of a mapping whose entries stand for fields, once the keys naming no
setting are gathered: refused when the explicit defaults are no object, and otherwise the check of
keyed data standing for the requested defaults. -/
theorem defaultsSetting_of_forall₂ {raw : List (Datum × Datum)} {fields : Bag}
    (rel : List.Forall₂ (EntryFor s s.size) raw fields) {s' : Store}
    {entries : List (Datum × Datum)} (gathered : gather s raw = .ok (s', entries)) :
    (explicitDefaults fields = none ∧
        ∃ e, setting entries "defaults" (defaultsOf s') standard.defaults = .error e) ∨
      ∃ K, List.Forall₂ (KeyedFor s' s'.size) K (requestedDefaults fields) ∧
        setting entries "defaults" (defaultsOf s') standard.defaults =
          (checkDefaults s' K).mapError fun p => [⟨["defaults"], p⟩] := by
  cases flatKeys : (raw.filter fun e => !isSetting e.1).isEmpty
  · exact .inr (defaultsSetting_of_extras rel gathered flatKeys)
  · -- Every key names a setting, so gathering keeps the entries as they are.
    have kept : gather s raw = .ok (s, raw) := by simp [gather, flatKeys]
    rw [kept, Except.ok.injEq, Prod.mk.injEq] at gathered
    obtain ⟨rfl, rfl⟩ := gathered
    have flat := extras_forall₂ rel
    rw [List.isEmpty_iff.mp flatKeys] at flat
    exact defaultsSetting_of_settings rel (List.forall₂_nil_left_iff.mp flat)

end Gather

section Read

/-- Settings are read exactly when the datum is a mapping whose keys can be gathered and each of
the five settings is read from the gathered entries. -/
theorem read_eq_ok_iff {s : Store} {d : Datum} {c : ConnectionConfig} :
    read s d = .ok c ↔ ∃ raw s' entries, s.entries? d = some raw ∧
      gather s raw = .ok (s', entries) ∧
      setting entries "host" (atName "host" textSetting) standard.host = .ok c.host ∧
      setting entries "port" (atName "port" integerSetting) standard.port = .ok c.port ∧
      setting entries "secure" (atName "secure" flagSetting) standard.secure = .ok c.secure ∧
      setting entries "verify" (atName "verify" flagSetting) standard.verify = .ok c.verify ∧
      setting entries "defaults" (defaultsOf s') standard.defaults = .ok c.defaults := by
  unfold read
  cases mapping : s.entries? d with
  | none => simp
  | some raw =>
    simp only [Option.some.injEq, exists_and_left, exists_eq_left']
    cases gathered : gather s raw with
    | error e => simp
    | ok r =>
      obtain ⟨s', entries⟩ := r
      simp only [Except.ok.injEq, Prod.mk.injEq, and_assoc, exists_and_left, exists_eq_left']
      -- The settings are made exactly when all five are read.
      cases host : setting entries "host" (atName "host" textSetting) standard.host <;>
      cases port : setting entries "port" (atName "port" integerSetting) standard.port <;>
      cases secure : setting entries "secure" (atName "secure" flagSetting) standard.secure <;>
      cases verify : setting entries "verify" (atName "verify" flagSetting) standard.verify <;>
      cases defaults : setting entries "defaults" (defaultsOf s') standard.defaults <;>
      simp
      cases c
      simp

/-- Settings of a value are read from the datum the value becomes in an empty store. -/
theorem ofValue_eq_read (v : Value) :
    ConnectionConfig.ofValue v = read (Store.ofValue #[] v).1 (Store.ofValue #[] v).2 := rfl

/-- A JSON object becomes a mapping whose entries stand for its fields. -/
theorem entries_of_ofValue_obj (fields : Bag) :
    ∃ raw, (Store.ofValue #[] (.obj fields)).1.entries? (Store.ofValue #[] (.obj fields)).2 =
        some raw ∧
      List.Forall₂ (EntryFor (Store.ofValue #[] (.obj fields)).1
        (Store.ofValue #[] (.obj fields)).1.size) raw fields :=
  entries?_of_obj (ofValue_standsFor #[] (.obj fields)).2

/-- The defaults of settings read from a JSON object are the normal form of the defaults the
object requests, and validation takes those. -/
theorem defaults_of_ofValue_obj {fields : Bag} {c : ConnectionConfig}
    (accepted : ConnectionConfig.ofValue (.obj fields) = .ok c) :
    Takes (requestedDefaults fields) ∧ c.defaults = keptDefaults (requestedDefaults fields) := by
  obtain ⟨raw, mapping, rel⟩ := entries_of_ofValue_obj fields
  rw [ofValue_eq_read] at accepted
  obtain ⟨raw', s', entries, mapping', gathered, -, -, -, -, defaults⟩ :=
    read_eq_ok_iff.mp accepted
  rw [mapping, Option.some.injEq] at mapping'
  subst mapping'
  rcases defaultsSetting_of_forall₂ rel gathered with ⟨-, e, refused⟩ | ⟨K, keyed, checked⟩
  · rw [refused] at defaults
    cases defaults
  · rw [checked, mapError_eq_ok] at defaults
    exact (checkDefaults_of_forall₂ keyed).mp defaults

/- A flat `dc` is overridden by the explicit one, which holds no text and so is kept as the text
of its value; the null `token` is dropped. -/
example : ConnectionConfig.ofValue (.obj [("dc", .int 1), ("port", .int 8080),
    ("defaults", .obj [("wait", .str "5s"), ("dc", .bool true), ("token", .null)])]) =
    .ok ⟨"localhost", 8080, false, true, [("dc", .str "True"), ("wait", .str "5s")]⟩ := by
  with_unfolding_all rfl

end Read

end ConnectionConfig

end ConsulLookup
