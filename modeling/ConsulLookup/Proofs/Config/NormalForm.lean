import ConsulLookup.Proofs.Config.Reading

/-! Connection settings in normal form, and reading them back. -/

namespace ConsulLookup

namespace ConnectionConfig

open Yaml Store

section Form

/-- A default in the form validation keeps it in: not null, a text where the option holds texts,
and with its NaNs canonical. -/
structure KeptForm (kv : String × Value) : Prop where
  present : kv.2.isNull = false
  text : kv.1 ∈ textOptions → ∃ t, kv.2 = .str t
  canonical : kv.2.canonical = kv.2

/-- Settings as validation leaves them: defaults under distinct keys, each a defaultable option,
and each in kept form. -/
structure Valid (c : ConnectionConfig) : Prop where
  distinct : c.defaults.keys.Nodup
  defaultable : ∀ k ∈ c.defaults.keys, k ∈ defaultableOptions
  kept : ∀ kv ∈ c.defaults, KeptForm kv

/-- Making the NaNs of a value canonical keeps it from being null. -/
@[simp] theorem isNull_canonical (v : Value) : v.canonical.isNull = v.isNull := by
  cases v with
  | float x =>
    by_cases nan : Value.isNaN (.float x) = true <;> simp [Value.canonical, nan, Value.isNull]
  | _ => rfl

/-- A default is dropped exactly when it is null. -/
theorem keptEntry_eq_none_iff {kv : String × Value} : keptEntry kv = none ↔ kv.2.isNull = true := by
  unfold keptEntry
  by_cases null : kv.2.isNull = true
  · simp [null]
  · -- A default that is not null is kept, as a text or as itself.
    simp only [null, Bool.false_eq_true, if_false, iff_false]
    split <;> simp

/-- A default that is kept is kept in kept form, under its own key. -/
theorem keptEntry_keptForm {kv kv' : String × Value} (kept : keptEntry kv = some kv') :
    kv'.1 = kv.1 ∧ KeptForm kv' := by
  unfold keptEntry at kept
  split at kept
  · cases kept
  · rename_i present
    split at kept
    · -- A text option holding no text is kept as the text of its value.
      cases kept
      exact ⟨rfl, rfl, fun _ => ⟨_, rfl⟩, rfl⟩
    · -- Any other default is kept as its value, a text option's being a text.
      rename_i kind
      cases kept
      refine ⟨rfl, by simpa using present, fun option => ?_, Value.canonical_canonical _⟩
      cases value : kv.2 <;> simp_all [Value.str?, Value.canonical]

/-- A default in kept form is kept as it is. -/
theorem keptEntry_of_keptForm {kv : String × Value} (form : KeptForm kv) : keptEntry kv = some kv := by
  obtain ⟨k, v⟩ := kv
  by_cases option : k ∈ textOptions
  · obtain ⟨t, rfl⟩ := form.text option
    simp [keptEntry, Value.isNull, Value.str?, Value.canonical]
  · simp [keptEntry, form.present, option, form.canonical]

/-- Defaults all in kept form are kept as they are. -/
theorem keptDefaults_of_keptForm {G : Bag} (form : ∀ kv ∈ G, KeptForm kv) : keptDefaults G = G := by
  induction G with
  | nil => rfl
  | cons kv rest ih =>
    simp only [keptDefaults] at ih ⊢
    rw [List.filterMap_cons, keptEntry_of_keptForm (form kv List.mem_cons_self),
      ih fun kv' member => form kv' (List.mem_cons_of_mem _ member)]

/-- The kept defaults are those under the keys of the requested ones that are not null. -/
theorem keys_keptDefaults (G : Bag) :
    (keptDefaults G).keys = Bag.keys (G.filter fun kv => !kv.2.isNull) := by
  induction G with
  | nil => rfl
  | cons kv rest ih =>
    simp only [keptDefaults, Bag.keys] at ih ⊢
    rw [List.filterMap_cons, List.filter_cons]
    cases kept : keptEntry kv with
    | none =>
      simp [keptEntry_eq_none_iff.mp kept, ih]
    | some kv' =>
      have present : kv.2.isNull = false :=
        Bool.eq_false_iff.mpr fun null => by simp [keptEntry_eq_none_iff.mpr null] at kept
      simp [present, (keptEntry_keptForm kept).1, ih]

/-- Requested defaults under distinct keys that validation takes are kept as valid defaults. -/
theorem valid_keptDefaults {G : Bag} (distinct : G.keys.Nodup) (takes : Takes G)
    (host : String) (port : Int) (secure verify : Bool) :
    Valid ⟨host, port, secure, verify, keptDefaults G⟩ := by
  have sub : (keptDefaults G).keys.Sublist G.keys := by
    rw [keys_keptDefaults]
    exact (List.filter_sublist).map _
  refine ⟨sub.nodup distinct, fun k member => takes.1 k (sub.subset member), fun kv member => ?_⟩
  obtain ⟨kv₀, -, kept⟩ := List.mem_filterMap.mp member
  exact (keptEntry_keptForm kept).2

/-- Valid settings take their own defaults. -/
theorem Valid.takes {c : ConnectionConfig} (valid : Valid c) : Takes c.defaults := by
  refine ⟨valid.defaultable, fun kv member option => ?_⟩
  obtain ⟨t, text⟩ := (valid.kept kv member).text option
  simp [text, Value.writable]

end Form

section Plain

/-- An object whose fields all name settings, with a text host, an integer port, a flag for a
secure connection, perhaps a flag for verification and an object of defaults, is read as those
settings with the normal form of its defaults, exactly when validation takes the defaults. -/
theorem ofValue_plain_eq_ok_iff {fields : Bag} {c : ConnectionConfig} (host : String)
    (port : Int) (secure : Bool) (verify : Option Bool) (given : Bag)
    (named : ∀ f ∈ fields, f.1 ∈ settingNames)
    (hostField : fields.get? "host" = some (.str host))
    (portField : fields.get? "port" = some (.int port))
    (secureField : fields.get? "secure" = some (.bool secure))
    (verifyField : fields.get? "verify" = verify.map .bool)
    (defaultsField : fields.get? "defaults" = some (.obj given)) :
    ConnectionConfig.ofValue (.obj fields) = .ok c ↔ Takes (Bag.ofList given) ∧
      c = ⟨host, port, secure, verify.getD standard.verify, keptDefaults (Bag.ofList given)⟩ := by
  obtain ⟨raw, mapping, rel⟩ := entries_of_ofValue_obj fields
  rw [ofValue_eq_read, read_eq_ok_iff]
  generalize Store.ofValue #[] (.obj fields) = object at mapping rel ⊢
  obtain ⟨S, d⟩ := object
  dsimp only at mapping rel
  -- Every key names a setting, so gathering keeps the entries as they are.
  have gathered : gather S raw = .ok (S, raw) := by
    refine gather_of_settings fun e member => ?_
    obtain ⟨f, field, key⟩ := exists_field_of_mem rel member
    rw [key, isSetting_str]
    exact named f field
  have requested : requestedDefaults fields = Bag.ofList given := by
    have noFlat : (fields.filter fun f => !settingNames.contains f.1) = [] := by
      simpa [List.filter_eq_nil_iff] using named
    rw [requestedDefaults, noFlat]
    simp [explicitDefaults, defaultsField]
  -- Each of the other settings is read as the scalar given, or as its default.
  have hostRead : setting raw "host" (atName "host" textSetting) standard.host = .ok host :=
    setting_of_present rel hostField (fun _ stands => (standsFor_str_iff stands host).mpr rfl) _ _
  have portRead : setting raw "port" (atName "port" integerSetting) standard.port = .ok port :=
    setting_of_present rel portField (fun _ stands => (standsFor_int_iff stands port).mpr rfl) _ _
  have secureRead :
      setting raw "secure" (atName "secure" flagSetting) standard.secure = .ok secure :=
    setting_of_present rel secureField
      (fun _ stands => (standsFor_bool_iff stands secure).mpr rfl) _ _
  have verifyRead : setting raw "verify" (atName "verify" flagSetting) standard.verify =
      .ok (verify.getD standard.verify) := by
    cases verify with
    | none => exact setting_of_absent rel verifyField _ standard.verify
    | some x =>
      exact setting_of_present rel verifyField
        (fun _ stands => (standsFor_bool_iff stands x).mpr rfl) _ _
  obtain ⟨K, keyed, defaultsRead⟩ := (defaultsSetting_of_forall₂ rel gathered).resolve_left
    fun refused => by simp [explicitDefaults, defaultsField] at refused
  rw [requested] at keyed
  have defaultsTaken : ∀ B, setting raw "defaults" (defaultsOf S) standard.defaults = .ok B ↔
      Takes (Bag.ofList given) ∧ B = keptDefaults (Bag.ofList given) := fun B => by
    rw [defaultsRead, mapError_eq_ok, checkDefaults_of_forall₂ keyed]
  constructor
  · -- Reading is determined: the mapping, the gathered entries and each setting are as above.
    rintro ⟨raw', s', entries, mapping', gathered', h, p, sec, v, defaults⟩
    rw [mapping, Option.some.injEq] at mapping'
    subst mapping'
    rw [gathered, Except.ok.injEq, Prod.mk.injEq] at gathered'
    obtain ⟨rfl, rfl⟩ := gathered'
    obtain ⟨takes, kept⟩ := (defaultsTaken _).mp defaults
    rw [hostRead, Except.ok.injEq] at h
    rw [portRead, Except.ok.injEq] at p
    rw [secureRead, Except.ok.injEq] at sec
    rw [verifyRead, Except.ok.injEq] at v
    refine ⟨takes, ?_⟩
    cases c
    simp_all
  · rintro ⟨takes, rfl⟩
    exact ⟨raw, S, raw, mapping, gathered, hostRead, portRead, secureRead, verifyRead,
      (defaultsTaken _).mpr ⟨takes, rfl⟩⟩

end Plain

section Revalidation

/-- Settings are read only from a JSON object. -/
theorem obj_of_ofValue {v : Value} {c : ConnectionConfig}
    (accepted : ConnectionConfig.ofValue v = .ok c) : ∃ fields, v = .obj fields := by
  by_cases object : ∃ fields, v = .obj fields
  · exact object
  · -- Any other value becomes a datum that is no mapping.
    rw [ofValue_eq_read] at accepted
    obtain ⟨raw, -, -, mapping, -⟩ := read_eq_ok_iff.mp accepted
    rw [entries?_of_not_obj (ofValue_standsFor #[] v).2 fun fields same => object ⟨fields, same⟩]
      at mapping
    cases mapping

/-- Settings read from any value are valid. -/
theorem valid_of_ofValue {v : Value} {c : ConnectionConfig}
    (accepted : ConnectionConfig.ofValue v = .ok c) : Valid c := by
  obtain ⟨fields, rfl⟩ := obj_of_ofValue accepted
  obtain ⟨takes, kept⟩ := defaults_of_ofValue_obj accepted
  obtain ⟨host, port, secure, verify, defaults⟩ := c
  simp only at kept
  subst kept
  -- The requested defaults form a bag, so their keys are distinct.
  exact valid_keptDefaults (Bag.keys_ofList_nodup _) takes host port secure verify

/-- Valid settings, dumped, are read back as themselves. -/
theorem ofValue_dump_of_valid {c : ConnectionConfig} (valid : Valid c) :
    ConnectionConfig.ofValue c.dump = .ok c := by
  -- The dump names only settings, so it requests its defaults as they are.
  have bag : Bag.ofList c.defaults = c.defaults := Bag.ofList_of_nodup valid.distinct
  unfold dump
  refine (ofValue_plain_eq_ok_iff c.host c.port c.secure (some c.verify) c.defaults
    (by simp [settingNames]) (by simp [Bag.get?]) (by simp [Bag.get?]) (by simp [Bag.get?])
    (by simp [Bag.get?]) (by simp [Bag.get?])).mpr ⟨?_, ?_⟩
  · rw [bag]
    exact valid.takes
  · rw [bag, keptDefaults_of_keptForm valid.kept]
    rfl

/-- Dumped settings are read back as themselves exactly when they are valid. -/
theorem ofValue_dump_eq_ok_iff {c : ConnectionConfig} :
    ConnectionConfig.ofValue c.dump = .ok c ↔ Valid c :=
  ⟨valid_of_ofValue, ofValue_dump_of_valid⟩

end Revalidation

section Uri

/-- The port of a bootstrap URI: the one given unless it is missing or zero, else 443 for a
secure connection and 80 otherwise. -/
theorem effectivePort_eq (secure : Bool) (port : Option Nat) :
    effectivePort secure port = (port.filter (· != 0)).getD (if secure then 443 else 80) := by
  cases port with
  | none => rfl
  | some p => by_cases zero : p = 0 <;> simp [effectivePort, Option.filter, zero]

/-- The query pairs are read into entries under their names, each value read as a query value. -/
theorem readPairs_eq_ok_iff {room : Nat} {qs : List (String × String)} {pairs : Bag} :
    qs.mapM (fun (k, v) => (k, ·) <$> queryValue room v) = .ok pairs ↔
      List.Forall₂ (fun q p => p.1 = q.1 ∧ queryValue room q.2 = .ok p.2) qs pairs := by
  have each : ∀ (q : String × String) (p : String × Value),
      (q.1, ·) <$> queryValue room q.2 = .ok p ↔ p.1 = q.1 ∧ queryValue room q.2 = .ok p.2 := by
    intro q p
    cases queryValue room q.2 <;> simp [Functor.map, Except.map, Prod.ext_iff, eq_comm]
  rw [mapM_eq_ok_iff]
  exact ⟨fun rel => rel.imp fun q p => (each q p).mp, fun rel => rel.imp fun q p => (each q p).mpr⟩

/-- The settings a bootstrap URI gives: exactly when it splits, has a host and an accepted port,
each of its non-blank query values is read (as JSON when it is JSON, else as its text) and
validation takes the defaults they make, the last value of a name winning. The connection goes to
that host, at the port given unless it is missing or zero and else at that of the scheme, is
secure exactly for `https`, is verified, and has the normal form of those defaults. -/
theorem ofUri_eq_ok_iff {room : Nat} {uri : String} {c : ConnectionConfig} :
    ofUri room uri = .ok c ↔ ∃ parts host port pairs, Url.split uri = .ok parts ∧
      parts.hostname = some host ∧ parts.port = .ok port ∧
      List.Forall₂ (fun q p => p.1 = q.1 ∧ queryValue room q.2 = .ok p.2)
        (Query.pairs false parts.query) pairs ∧
      Takes (Bag.ofList pairs) ∧
      c = ⟨host, ((port.filter (· != 0)).getD (if parts.scheme == "https" then 443 else 80) : Nat),
        parts.scheme == "https", standard.verify, keptDefaults (Bag.ofList pairs)⟩ := by
  simp only [← readPairs_eq_ok_iff]
  unfold ofUri
  -- The URL, its host, its port and its query values are each read in turn.
  cases split : Url.split uri with
  | error e => simp
  | ok parts =>
    cases named : parts.hostname with
    | none => simp [named]
    | some host =>
      cases ported : parts.port with
      | error e => simp [named, ported]
      | ok port =>
        simp only [named, ported, bind, Except.bind]
        cases values : (Query.pairs false parts.query).mapM
            (fun (k, v) => (k, ·) <$> queryValue room v) with
        | error e => simp [values]
        | ok pairs =>
          -- The four settings make an object that is read as they are.
          simp only [mapError_eq_ok]
          rw [ofValue_plain_eq_ok_iff host (effectivePort (parts.scheme == "https") port)
            (parts.scheme == "https") none (Bag.ofList pairs) (by simp [settingNames])
            (by simp [Bag.get?]) (by simp [Bag.get?]) (by simp [Bag.get?]) (by simp [Bag.get?])
            (by simp [Bag.get?])]
          simp only at values
          simp [named, ported, values, Bag.ofList_ofList, effectivePort_eq]

/-- Settings a bootstrap URI gives are valid. -/
theorem valid_of_ofUri {room : Nat} {uri : String} {c : ConnectionConfig}
    (accepted : ofUri room uri = .ok c) : Valid c := by
  obtain ⟨parts, host, port, pairs, -, -, -, -, takes, rfl⟩ := ofUri_eq_ok_iff.mp accepted
  -- The query values form a bag, so their keys are distinct.
  exact valid_keptDefaults (Bag.keys_ofList_nodup _) takes _ _ _ _

end Uri

/-- Settings read from an object hold the normal form of the defaults it requests; settings read
back from their dump are themselves; and a bootstrap URI gives its host, port, scheme and the
normal form of its query values. -/
theorem settings_normal_form :
    (∀ (fields : Bag) (c : ConnectionConfig), ConnectionConfig.ofValue (.obj fields) = .ok c →
      Takes (requestedDefaults fields) ∧ c.defaults = keptDefaults (requestedDefaults fields) ∧
        ∀ k ∈ c.defaults.keys, k ∈ defaultableOptions) ∧
    (∀ fields : Bag, (∃ k ∈ (requestedDefaults fields).keys, k ∉ defaultableOptions) →
      ∃ e, ConnectionConfig.ofValue (.obj fields) = .error e) ∧
    (∀ (v : Value) (c : ConnectionConfig), ConnectionConfig.ofValue v = .ok c →
      ConnectionConfig.ofValue c.dump = .ok c) ∧
    (∀ (room : Nat) (uri : String) (c : ConnectionConfig), ofUri room uri = .ok c →
      ConnectionConfig.ofValue c.dump = .ok c) ∧
    (∀ (room : Nat) (uri : String) (c : ConnectionConfig), ofUri room uri = .ok c ↔
      ∃ parts host port pairs, Url.split uri = .ok parts ∧
        parts.hostname = some host ∧ parts.port = .ok port ∧
        List.Forall₂ (fun q p => p.1 = q.1 ∧ queryValue room q.2 = .ok p.2)
          (Query.pairs false parts.query) pairs ∧
        Takes (Bag.ofList pairs) ∧
        c = ⟨host,
          ((port.filter (· != 0)).getD (if parts.scheme == "https" then 443 else 80) : Nat),
          parts.scheme == "https", standard.verify, keptDefaults (Bag.ofList pairs)⟩) := by
  refine ⟨fun fields c accepted => ?_, fun fields unsupported => ?_,
    fun v c accepted => ofValue_dump_of_valid (valid_of_ofValue accepted),
    fun room uri c accepted => ofValue_dump_of_valid (valid_of_ofUri accepted),
    fun room uri c => ofUri_eq_ok_iff⟩
  · obtain ⟨takes, kept⟩ := defaults_of_ofValue_obj accepted
    exact ⟨takes, kept, (valid_of_ofValue accepted).defaultable⟩
  · -- Settings read would take the requested defaults, the unsupported key among them.
    obtain ⟨k, requested, other⟩ := unsupported
    cases result : ConnectionConfig.ofValue (.obj fields) with
    | error e => exact ⟨e, rfl⟩
    | ok c => exact absurd ((defaults_of_ofValue_obj result).1.1 k requested) other

end ConnectionConfig

end ConsulLookup
