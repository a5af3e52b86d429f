import ConsulLookup.Config.Load

/-! Which failures reading connection settings ends in. -/

namespace ConsulLookup

/-- A traversal in `Except` fails only with the failure of one of the elements. -/
theorem mapM_eq_error {α β ε : Type} {f : α → Except ε β} {xs : List α} {e : ε}
    (failed : xs.mapM f = .error e) : ∃ x ∈ xs, f x = .error e := by
  induction xs with
  | nil => cases failed
  | cons x rest ih =>
    rw [List.mapM_cons] at failed
    cases head : f x with
    | error e' =>
      rw [head] at failed
      cases failed
      exact ⟨x, List.mem_cons_self, head⟩
    | ok y =>
      rw [head] at failed
      cases tail : rest.mapM f with
      | error e' =>
        rw [tail] at failed
        cases failed
        obtain ⟨z, member, fz⟩ := ih tail
        exact ⟨z, List.mem_cons_of_mem x member, fz⟩
      | ok ys =>
        rw [tail] at failed
        cases failed

/-- A traversal in `Except` that succeeds succeeds on every element. -/
theorem mapM_ok_of_mem {α β ε : Type} {f : α → Except ε β} {xs : List α} {ys : List β}
    (passed : xs.mapM f = .ok ys) {x : α} (member : x ∈ xs) : ∃ y, f x = .ok y := by
  induction xs generalizing ys with
  | nil => cases member
  | cons first rest ih =>
    rw [List.mapM_cons] at passed
    cases head : f first with
    | error e =>
      rw [head] at passed
      cases passed
    | ok y =>
      rw [head] at passed
      cases tail : rest.mapM f with
      | error e =>
        rw [tail] at passed
        cases passed
      | ok later =>
        rcases List.mem_cons.mp member with rfl | member
        · exact ⟨y, head⟩
        · exact ih tail member

namespace ConnectionConfig

open Yaml

/-- The `defaults` given among the entries of a mapping: the value of the first key that is the
text `defaults`. -/
def givenDefaults (entries : List (Datum × Datum)) : Option Datum :=
  (entries.find? fun e => e.1.sameKey (.str "defaults")).map (·.2)

/-- A `defaults` that entries cannot be merged into: the one given is no mapping, while a key
names no setting, so that the keys have to be merged. -/
def Unmergeable (s : Store) (entries : List (Datum × Datum)) (d : Datum) : Prop :=
  (∃ x ∈ entries, isSetting x.1 = false) ∧ givenDefaults entries = some d ∧ s.entries? d = none

@[simp]
theorem isSetting_str (name : String) : isSetting (.str name) = true ↔ name ∈ settingNames := by
  simp [isSetting]

/-- The key that is the text `defaults` names a setting. -/
theorem isSetting_of_sameKey_defaults {k : Datum} (same : k.sameKey (.str "defaults") = true) :
    isSetting k = true := by
  cases k <;> simp_all [Datum.sameKey, Datum.number?, isSetting, settingNames]

/-- Keeping only the keys that name settings keeps the `defaults` given. -/
theorem find_defaults_of_settings (entries : List (Datum × Datum)) :
    ((entries.filter fun e => isSetting e.1).find? fun e => e.1.sameKey (.str "defaults")) =
      entries.find? fun e => e.1.sameKey (.str "defaults") := by
  rw [List.find?_filter]
  congr 1
  funext e
  by_cases same : e.1.sameKey (.str "defaults") = true
  · simp [same, isSetting_of_sameKey_defaults same]
  · simp [same]

/-- Entries whose keys all name settings are kept as they are. -/
theorem gather_of_settings {s : Store} {entries : List (Datum × Datum)}
    (named : ∀ e ∈ entries, isSetting e.1 = true) : gather s entries = .ok (s, entries) := by
  have kept : (entries.filter fun e => !isSetting e.1) = [] := by
    simpa [List.filter_eq_nil_iff] using named
  simp [gather, kept]

/-- Gathering fails exactly when keys that name no setting meet a `defaults` that is no mapping,
and then on the kind of that `defaults`. -/
theorem gather_eq_error_iff {s : Store} {entries : List (Datum × Datum)} {e : ConfigError} :
    gather s entries = .error e ↔
      ∃ d, Unmergeable s entries d ∧ e = .notMergeable (s.kindName d) := by
  -- Keys that all name settings are kept as they are; otherwise the keys are merged into the
  -- `defaults` given, which fails only when one is given and it is no mapping.
  by_cases named : ∀ x ∈ entries, isSetting x.1 = true
  · rw [gather_of_settings named]
    simp only [reduceCtorEq, false_iff, not_exists, not_and]
    rintro d ⟨⟨x, member, flat⟩, -⟩
    simp [named x member] at flat
  · have extras : (entries.filter fun e => !isSetting e.1).isEmpty = false := by
      simpa [List.filter_eq_nil_iff] using named
    have flat : ∃ x ∈ entries, isSetting x.1 = false := by simpa using named
    simp only [gather, extras, find_defaults_of_settings, Bool.false_eq_true, if_false]
    unfold Unmergeable givenDefaults
    simp only [flat, true_and]
    cases given : (entries.find? fun e => e.1.sameKey (.str "defaults")) with
    | none => simp
    | some entry =>
      cases own : s.entries? entry.2 with
      | none =>
        simp only [Option.map_some, own]
        constructor
        · intro same
          cases same
          exact ⟨entry.2, ⟨rfl, own⟩, rfl⟩
        · rintro ⟨d, ⟨same, -⟩, rfl⟩
          cases same
          rfl
      | some own => simp [own]

/-- Entries cannot be merged into at most one `defaults`: the one given. -/
theorem Unmergeable.unique {s : Store} {entries : List (Datum × Datum)} {d d' : Datum}
    (first : Unmergeable s entries d) (second : Unmergeable s entries d') : d = d' :=
  Option.some.inj (first.2.1.symm.trans second.2.1)

/-- Reading settings fails on a merge exactly when the datum is a mapping whose keys cannot be
merged into its defaults, and then on the kind of those; every other failure is a list of
issues. -/
theorem read_eq_notMergeable_iff (s : Store) (d : Datum) (k : String) :
    read s d = .error (.notMergeable k) ↔
      ∃ raw, s.entries? d = some raw ∧ ∃ v, Unmergeable s raw v ∧ k = s.kindName v := by
  unfold read
  cases mapping : s.entries? d with
  | none => simp
  | some raw =>
    simp only [Option.some.injEq, exists_eq_left']
    cases gathered : gather s raw with
    | error e =>
      obtain ⟨v, unmerged, rfl⟩ := gather_eq_error_iff.mp gathered
      constructor
      · intro same
        cases same
        exact ⟨v, unmerged, rfl⟩
      · rintro ⟨v', unmerged', rfl⟩
        rw [unmerged.unique unmerged']
    | ok r =>
      obtain ⟨s', entries⟩ := r
      -- the keys are gathered, so each setting is read and only issues remain
      have merged : ∀ v, ¬ Unmergeable s raw v := by
        intro v unmerged
        have refused := gather_eq_error_iff.mpr ⟨v, unmerged, rfl⟩
        rw [gathered] at refused
        cases refused
      simp only [merged, false_and, exists_false, iff_false]
      intro failed
      split at failed <;> cases failed

example : read #[.map [(.str "dc", .str "x"), (.str "defaults", .null)]] (.ref 0) =
    .error (.notMergeable "NoneType") := rfl

/-- The fields of a JSON object become entries keyed by their texts. -/
theorem keys_ofFields (s : Store) (fields : List (String × Value)) :
    (Store.ofFields s fields).2.map Prod.fst = fields.map fun f => Datum.str f.1 := by
  induction fields generalizing s with
  | nil => simp [Store.ofFields]
  | cons field rest ih => simp [Store.ofFields, ih]

/-- A JSON object becomes a mapping of the store, holding the entries of its fields. -/
theorem entries_ofValue_obj (s : Store) (fields : List (String × Value)) :
    (Store.ofValue s (.obj fields)).1.entries? (Store.ofValue s (.obj fields)).2 =
      some (Store.ofFields s fields).2 := by
  simp [Store.ofValue, Store.add, Store.entries?, Store.get]

/-- Settings of a JSON object whose fields all name settings never fail on a merge. -/
theorem ofValue_ne_notMergeable {fields : List (String × Value)}
    (named : ∀ f ∈ fields, f.1 ∈ settingNames) (k : String) :
    ofValue (.obj fields) ≠ .error (.notMergeable k) := by
  intro failed
  let object := Store.ofValue #[] (.obj fields)
  obtain ⟨raw, found, v, ⟨⟨x, member, flat⟩, -⟩, -⟩ :=
    (read_eq_notMergeable_iff object.1 object.2 k).mp failed
  rw [entries_ofValue_obj, Option.some.injEq] at found
  -- the key of every entry is the text of a field
  have keyed : x.1 ∈ fields.map fun f => Datum.str f.1 := by
    rw [← keys_ofFields #[] fields, found]
    exact List.mem_map_of_mem member
  obtain ⟨f, field, same⟩ := List.mem_map.mp keyed
  rw [← same, (isSetting_str f.1).mpr (named f field)] at flat
  cases flat

end ConnectionConfig

/-- A query value is refused only when it nests too deeply, read as JSON, for its room. -/
theorem queryValue_eq_error_iff {room : Nat} {v : String} {e : UriError} :
    queryValue room v = .error e ↔ ∃ n, Json.read room v = .error (.tooDeep n) ∧ e = .tooDeep n := by
  unfold queryValue
  cases Json.read room v with
  | ok w => simp
  | error fault => cases fault <;> simp [eq_comm]

/-- A bootstrap URI whose host and port are accepted and one of whose query values nests deeper
than `room`. -/
def DeepQuery (room : Nat) (uri : String) : Prop :=
  ∃ parts host port, Url.split uri = .ok parts ∧ parts.hostname = some host ∧
    parts.port = .ok port ∧
    ∃ q ∈ Query.pairs false parts.query, ∃ n, Json.read room q.2 = .error (.tooDeep n)

namespace ConnectionConfig

/-- How a bootstrap URI fails: on its URL, its host or its port, on one of its query values, or
on the settings object they make, whose fields all name settings. -/
theorem ofUri_eq_error_cases {room : Nat} {uri : String} {e : UriError}
    (failed : ofUri room uri = .error e) :
    (∃ u, e = .url u) ∨ e = .noHost uri ∨
      ∃ parts host port, Url.split uri = .ok parts ∧ parts.hostname = some host ∧
        parts.port = .ok port ∧
        ((∃ q ∈ Query.pairs false parts.query, queryValue room q.2 = .error e) ∨
          ∃ fields c, (∀ f ∈ fields, f.1 ∈ settingNames) ∧ ofValue (.obj fields) = .error c ∧
            e = .config c) := by
  unfold ofUri at failed
  cases split : Url.split uri with
  | error u =>
    rw [split] at failed
    cases failed
    exact .inl ⟨u, rfl⟩
  | ok parts =>
    simp only [split] at failed
    cases named : parts.hostname with
    | none =>
      simp only [named] at failed
      cases failed
      exact .inr (.inl rfl)
    | some host =>
      simp only [named] at failed
      cases ported : parts.port with
      | error u =>
        simp only [ported] at failed
        cases failed
        exact .inl ⟨u, rfl⟩
      | ok port =>
        simp only [ported, bind, Except.bind] at failed
        refine .inr (.inr ⟨parts, host, port, rfl, named, ported, ?_⟩)
        split at failed
        · -- a query value is refused
          rename_i refused
          cases failed
          obtain ⟨q, member, fq⟩ := mapM_eq_error refused
          refine .inl ⟨q, member, ?_⟩
          cases value : queryValue room q.2 <;> simp_all [Functor.map, Except.map]
        · -- the object of the four settings is refused
          cases object : ofValue _ with
          | ok c =>
            rw [object] at failed
            cases failed
          | error c =>
            rw [object] at failed
            cases failed
            exact .inr ⟨_, c, by simp [settingNames], object, rfl⟩

/-- A bootstrap URI fails with a value error (a validation error is one), or with a recursion
error when a query value nests too deeply; it never fails on a merge. -/
theorem ofUri_error_kind {room : Nat} {uri : String} {e : UriError}
    (failed : ofUri room uri = .error e) :
    e.kind = "ValueError" ∨ e.kind = "PydanticValidationError" ∨ ∃ n, e = .tooDeep n := by
  rcases ofUri_eq_error_cases failed with ⟨u, rfl⟩ | rfl |
    ⟨parts, host, port, -, -, -, ⟨q, -, refused⟩ | ⟨fields, c, named, refused, rfl⟩⟩
  · simp [UriError.kind]
  · simp [UriError.kind]
  · obtain ⟨n, -, rfl⟩ := queryValue_eq_error_iff.mp refused
    exact .inr (.inr ⟨n, rfl⟩)
  · cases c with
    | issues found => simp [UriError.kind]
    | notMergeable k => exact absurd refused (ofValue_ne_notMergeable named k)

/-- A bootstrap URI fails on the nesting of its values exactly when its host and port are
accepted and one of its query values nests deeper than the room. -/
theorem ofUri_tooDeep_iff (room : Nat) (uri : String) :
    (∃ n, ofUri room uri = .error (.tooDeep n)) ↔ DeepQuery room uri := by
  constructor
  · rintro ⟨n, failed⟩
    rcases ofUri_eq_error_cases failed with ⟨u, refused⟩ | refused |
      ⟨parts, host, port, split, named, ported, ⟨q, member, refused⟩ | ⟨fields, c, -, -, refused⟩⟩
    · cases refused
    · cases refused
    · obtain ⟨n', read, -⟩ := queryValue_eq_error_iff.mp refused
      exact ⟨parts, host, port, split, named, ported, q, member, n', read⟩
    · cases refused
  · rintro ⟨parts, host, port, split, named, ported, q, member, n, read⟩
    have refused : queryValue room q.2 = .error (.tooDeep n) :=
      queryValue_eq_error_iff.mpr ⟨n, read, rfl⟩
    simp only [ofUri, split, named, ported, bind, Except.bind]
    split
    · -- the first value refused is refused for its nesting too
      rename_i e failed
      obtain ⟨q', -, fq⟩ := mapM_eq_error failed
      cases value : queryValue room q'.2 with
      | ok v => simp [value, Functor.map, Except.map] at fq
      | error e' =>
        simp only [value, Functor.map, Except.map, Except.error.injEq] at fq
        obtain ⟨n', -, rfl⟩ := queryValue_eq_error_iff.mp value
        exact ⟨n', by rw [← fq]⟩
    · -- every value read, the deep one among them: impossible
      rename_i pairs passed
      obtain ⟨y, fq⟩ := mapM_ok_of_mem passed member
      simp [refused, Functor.map, Except.map] at fq

end ConnectionConfig

/-- How a settings file fails: on its YAML, on a document or a `consul` entry that is no mapping,
or on the settings read from that entry. -/
theorem settingsOfFile_eq_error {room : Nat} {path content : String} {e : LoadError}
    (failed : settingsOfFile room path content = .error e) :
    (∃ y, e = .yaml path y) ∨ e = .notMapping path ∨
      ∃ s d c, ConnectionConfig.read s d = .error c ∧ e = .invalid c := by
  unfold settingsOfFile at failed
  split at failed
  · -- the YAML is refused
    cases failed
    exact .inl ⟨_, rfl⟩
  · cases failed
  · split at failed
    · cases failed
    · split at failed
      · -- the document is no mapping
        cases failed
        exact .inr (.inl rfl)
      · split at failed
        · cases failed
        · split at failed
          · -- the `consul` entry is no mapping
            cases failed
            exact .inr (.inl rfl)
          · split at failed
            · cases failed
            · -- the settings read from the entry are refused
              cases failed
              exact .inr (.inr ⟨_, _, _, by assumption, rfl⟩)

/-- Loading settings fails on their source: a file that is missing or a directory, a file whose
settings fail, or a bootstrap URI that fails. -/
theorem loadConfig_eq_error {room : Nat} {lookup : String → FileEntry}
    {env : List (String × String)} {path : Option String} {e : LoadError}
    (failed : loadConfig room lookup env path = .error e) :
    (∃ p, settingsSource env path = .file p ∧
      ((e = .notFound (normalizePath p)) ∨
        (e = .isDirectory (normalizePath p) ∧ lookup (normalizePath p) = .directory) ∨
        ∃ content, settingsOfFile (room - 1) (normalizePath p) content = .error e)) ∨
      ∃ u c, settingsSource env path = .uri u ∧ ConnectionConfig.ofUri (room - 1) u = .error c ∧
        e = .uri c := by
  unfold loadConfig at failed
  -- A file fails on what its path names before its text is read.
  cases source : settingsSource env path with
  | file p =>
    simp only [source] at failed
    refine .inl ⟨p, rfl, ?_⟩
    unfold settingsAt at failed
    cases entry : lookup (normalizePath p) with
    | missing =>
      simp only [entry] at failed
      cases failed
      exact .inl rfl
    | directory =>
      simp only [entry] at failed
      cases failed
      exact .inr (.inl ⟨rfl, rfl⟩)
    | file content =>
      simp only [entry] at failed
      exact .inr (.inr ⟨content, failed⟩)
  | uri u =>
    simp only [source, settingsOfUri] at failed
    cases read : ConnectionConfig.ofUri (room - 1) u with
    | ok c =>
      rw [read] at failed
      cases failed
    | error c =>
      rw [read] at failed
      cases failed
      exact .inr ⟨u, c, rfl, read, rfl⟩

/-- The kinds loading settings is documented to fail with: a missing file, and value errors, of
which a validation error is one. -/
def documentedKinds : List String :=
  ["FileNotFoundError", "ValueError", "PydanticValidationError"]

/-- The failures of loading settings beyond the documented kinds, each with its cause: a path that
is a directory, a failure the YAML library reports as its own kind, settings whose keys cannot be
merged into their defaults, and a bootstrap URI with a query value nested too deeply for the room
it is read in. -/
inductive LoadEscape (lookup : String → FileEntry) (env : List (String × String))
    (path : Option String) (room : Nat) : LoadError → Prop
  | directory (p : String) (entry : lookup p = .directory) :
    LoadEscape lookup env path room (.isDirectory p)
  | yamlLibrary (p kind message : String) :
    LoadEscape lookup env path room (.yaml p (.foreign kind message))
  | unmergeable (s : Yaml.Store) (raw : List (Yaml.Datum × Yaml.Datum)) (d : Yaml.Datum)
    (unmerged : ConnectionConfig.Unmergeable s raw d) :
    LoadEscape lookup env path room (.invalid (.notMergeable (s.kindName d)))
  | deepQuery (u : String) (n : Json.Nesting) (source : settingsSource env path = .uri u)
    (deep : DeepQuery room u) :
    LoadEscape lookup env path room (.uri (.tooDeep n))

/-- Loading settings fails with a documented kind or escapes it for one of four causes; a merge
and a deeply nested URI query are the only other failures of reading settings. -/
theorem load_fails_documented_or_escapes (room : Nat) (lookup : String → FileEntry)
    (env : List (String × String)) (path : Option String) :
    (∀ (s : Yaml.Store) (d : Yaml.Datum) (k : String),
      ConnectionConfig.read s d = .error (.notMergeable k) ↔
        ∃ raw, s.entries? d = some raw ∧
          ∃ v, ConnectionConfig.Unmergeable s raw v ∧ k = s.kindName v) ∧
    (∀ (room : Nat) (uri : String) (e : UriError), ConnectionConfig.ofUri room uri = .error e →
      e.kind = "ValueError" ∨ e.kind = "PydanticValidationError" ∨ ∃ n, e = .tooDeep n) ∧
    (∀ (room : Nat) (uri : String),
      (∃ n, ConnectionConfig.ofUri room uri = .error (.tooDeep n)) ↔ DeepQuery room uri) ∧
    (∀ e, loadConfig room lookup env path = .error e →
      e.kind ∈ documentedKinds ∨ LoadEscape lookup env path (room - 1) e) := by
  refine ⟨ConnectionConfig.read_eq_notMergeable_iff, fun _ _ _ => ConnectionConfig.ofUri_error_kind,
    ConnectionConfig.ofUri_tooDeep_iff, ?_⟩
  intro e failed
  rcases loadConfig_eq_error failed with
    ⟨p, -, rfl | ⟨rfl, directory⟩ | ⟨content, refused⟩⟩ | ⟨u, c, source, refused, rfl⟩
  · -- a missing file
    simp [LoadError.kind, documentedKinds]
  · exact .inr (.directory _ directory)
  · rcases settingsOfFile_eq_error refused with ⟨y, rfl⟩ | rfl | ⟨s, d, c, read, rfl⟩
    · -- the YAML library's own failures keep their kinds, the others are value errors
      cases y with
      | foreign kind message => exact .inr (.yamlLibrary _ kind message)
      | marked _ => simp [LoadError.kind, documentedKinds]
      | unprintable _ _ => simp [LoadError.kind, documentedKinds]
    · simp [LoadError.kind, documentedKinds]
    · cases c with
      | issues _ => simp [LoadError.kind, documentedKinds]
      | notMergeable k =>
        obtain ⟨raw, -, v, unmerged, rfl⟩ :=
          (ConnectionConfig.read_eq_notMergeable_iff s d k).mp read
        exact .inr (.unmergeable s raw v unmerged)
  · rcases ConnectionConfig.ofUri_error_kind refused with kind | kind | ⟨n, rfl⟩
    · simp [LoadError.kind, documentedKinds, kind]
    · simp [LoadError.kind, documentedKinds, kind]
    · exact .inr (.deepQuery u n source ((ConnectionConfig.ofUri_tooDeep_iff _ u).mp ⟨n, refused⟩))

end ConsulLookup
