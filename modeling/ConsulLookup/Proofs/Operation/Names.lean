import Mathlib.Data.List.TakeDrop
import Mathlib.Data.List.TakeWhile
import ConsulLookup.Request
import ConsulLookup.Proofs.Expression.Split

/-! The names of a registry and the descriptor each resolves to. -/

namespace ConsulLookup

namespace Expression

/-- A name an expression can carry is split back out of it. -/
theorem split_carried {n : String} (carried : Carries n) (q : String) :
    (split (.str (n ++ "?" ++ q))).mapError RequestError.expression =
      .ok (n, String.ofList (Text.dropTrailing Text.isBlank q.toList)) := by
  rw [split_str, splitText_carried carried]
  rfl

end Expression

namespace Registry

/-- The names a list of descriptors claims, in the order a registry scans them. -/
def claims (ds : List Descriptor) : List String :=
  ds.flatMap Descriptor.names

/-- The names a scan has recorded after accepting `done`, each with the canonical name of the
descriptor that claims it, the latest descriptor first. -/
def ledger (done : List Descriptor) : List (String × String) :=
  done.reverse.flatMap fun d => d.names.map (·, d.name)

/-- A scan that accepted `done` finds its first conflict at `d` and reports it as `e`: `d`'s own
name is the canonical name of an earlier descriptor; or else, the names before it being distinct
from each other and from every earlier claim, a name of `d` was claimed by an earlier descriptor
or by an earlier name of `d`, and the report names that owner. -/
def FirstConflict (done : List Descriptor) (d : Descriptor) (e : RegistryError) : Prop :=
  (d.name ∈ done.map Descriptor.name ∧ e = .duplicate d.name) ∨
  (d.name ∉ done.map Descriptor.name ∧ ∃ before n after owner,
    d.names = before ++ n :: after ∧ (claims done ++ before).Nodup ∧
    e = .claimed n d.name owner ∧
    ((∃ p ∈ done, n ∈ p.names ∧ owner = p.name) ∨ (n ∈ before ∧ owner = d.name)))

@[simp] theorem claims_nil : claims [] = [] :=
  rfl

@[simp] theorem claims_cons (d : Descriptor) (ds : List Descriptor) :
    claims (d :: ds) = d.names ++ claims ds :=
  rfl

@[simp] theorem claims_append (ds ds' : List Descriptor) :
    claims (ds ++ ds') = claims ds ++ claims ds' :=
  List.flatMap_append

theorem mem_claims {ds : List Descriptor} {n : String} :
    n ∈ claims ds ↔ ∃ d ∈ ds, n ∈ d.names :=
  List.mem_flatMap

/-- An operation's own name is the first of its names. -/
theorem name_mem_names (d : Descriptor) : d.name ∈ d.names :=
  List.mem_cons_self

/-- Looking a name up in a table with one owner's names in front. -/
theorem lookup_owned (names : List String) (owner n : String) (rest : List (String × String)) :
    (names.map (·, owner) ++ rest).lookup n =
      if n ∈ names then some owner else rest.lookup n := by
  induction names with
  | nil => simp
  | cons m more ih =>
    by_cases same : n = m
    · simp [same]
    · have differ : (n == m) = false := by simpa using same
      rw [List.map_cons, List.cons_append, List.lookup_cons, differ]
      simp [same, ih]

/-- Looking a name up in a table with one more entry in front. -/
theorem lookup_joined (m self n : String) (claimed : List (String × String)) :
    ((m, self) :: claimed).lookup n = if n = m then some self else claimed.lookup n := by
  simpa using lookup_owned [m] self n claimed

/-- A name free in a table with one more entry in front is not that entry's name, and is free
behind it. -/
theorem lookup_cons_eq_none {m self n : String} {claimed : List (String × String)}
    (free : ((m, self) :: claimed).lookup n = none) : n ≠ m ∧ claimed.lookup n = none := by
  rw [lookup_joined] at free
  split at free
  · cases free
  · rename_i other
    exact ⟨other, free⟩

section Ledger

variable {n owner : String}

/-- In a table of the claims of several descriptors, a name has no owner exactly when none of
them claims it. -/
theorem lookup_claimed_eq_none {ds : List Descriptor} :
    (ds.flatMap fun d => d.names.map (·, d.name)).lookup n = none ↔ n ∉ claims ds := by
  induction ds with
  | nil => simp
  | cons d rest ih =>
    rw [List.flatMap_cons, lookup_owned]
    by_cases named : n ∈ d.names <;> simp [named, ih]

/-- An owner a name has in such a table is the canonical name of a descriptor claiming it. -/
theorem lookup_claimed_owner {ds : List Descriptor}
    (found : (ds.flatMap fun d => d.names.map (·, d.name)).lookup n = some owner) :
    ∃ p ∈ ds, n ∈ p.names ∧ owner = p.name := by
  induction ds with
  | nil => simp at found
  | cons d rest ih =>
    rw [List.flatMap_cons, lookup_owned] at found
    by_cases named : n ∈ d.names
    · simp only [named, if_true, Option.some.injEq] at found
      exact ⟨d, List.mem_cons_self, named, found.symm⟩
    · simp only [named, if_false] at found
      obtain ⟨p, member, claimed, owned⟩ := ih found
      exact ⟨p, List.mem_cons_of_mem _ member, claimed, owned⟩

theorem lookup_ledger_eq_none {done : List Descriptor} :
    (ledger done).lookup n = none ↔ n ∉ claims done := by
  rw [ledger, lookup_claimed_eq_none]
  simp [mem_claims]

theorem lookup_ledger_owner {done : List Descriptor} (found : (ledger done).lookup n = some owner) :
    ∃ p ∈ done, n ∈ p.names ∧ owner = p.name := by
  obtain ⟨p, member, claimed, owned⟩ := lookup_claimed_owner found
  exact ⟨p, List.mem_reverse.mp member, claimed, owned⟩

/-- The ledger after one more descriptor has its names in front. -/
theorem ledger_append (done : List Descriptor) (d : Descriptor) :
    ledger (done ++ [d]) = d.names.map (·, d.name) ++ ledger done := by
  simp [ledger]

end Ledger

section Scan

/-- Scanning one descriptor's names against a table finds nothing exactly when the names are
distinct and the table has none of them. -/
theorem claimedIn_eq_none_iff (self : String) (names : List String)
    (claimed : List (String × String)) :
    conflict?.claimedIn claimed self names = none ↔
      names.Nodup ∧ ∀ n ∈ names, claimed.lookup n = none := by
  induction names generalizing claimed with
  | nil => simp [conflict?.claimedIn]
  | cons m more ih =>
    -- Each name scanned joins the table under the descriptor's own name.
    cases found : claimed.lookup m with
    | some owner =>
      simp only [conflict?.claimedIn, found, reduceCtorEq, false_iff, not_and]
      intro _ fresh
      rw [fresh m List.mem_cons_self] at found
      cases found
    | none =>
      simp only [conflict?.claimedIn, found, ih]
      constructor
      · rintro ⟨distinct, fresh⟩
        refine ⟨List.nodup_cons.mpr ⟨fun again => ?_, distinct⟩, ?_⟩
        · exact (lookup_cons_eq_none (fresh m again)).1 rfl
        · intro n member
          rcases List.mem_cons.mp member with rfl | later
          · exact found
          · exact (lookup_cons_eq_none (fresh n later)).2
      · rintro ⟨distinct, fresh⟩
        obtain ⟨apart, distinct⟩ := List.nodup_cons.mp distinct
        refine ⟨distinct, fun n member => ?_⟩
        have other : n ≠ m := fun same => apart (same ▸ member)
        rw [lookup_joined, if_neg other, fresh n (List.mem_cons_of_mem _ member)]

/-- Scanning one descriptor's names stops at the first one claimed before, by the table or by an
earlier name of the same descriptor, and reports its owner. -/
theorem claimedIn_eq_some (self : String) (names : List String) (claimed : List (String × String))
    {n owner : String} (found : conflict?.claimedIn claimed self names = some (n, owner)) :
    ∃ before after, names = before ++ n :: after ∧ before.Nodup ∧
      (∀ m ∈ before, claimed.lookup m = none) ∧
      (claimed.lookup n = some owner ∨ (n ∈ before ∧ owner = self)) := by
  induction names generalizing claimed with
  | nil => simp [conflict?.claimedIn] at found
  | cons m more ih =>
    cases earlier : claimed.lookup m with
    | some o =>
      -- The first name is claimed already: it is the conflict.
      simp only [conflict?.claimedIn, earlier, Option.some.injEq, Prod.mk.injEq] at found
      obtain ⟨rfl, rfl⟩ := found
      exact ⟨[], more, rfl, List.nodup_nil, by simp, .inl earlier⟩
    | none =>
      -- The first name is free: it joins the table, and the conflict lies further on.
      simp only [conflict?.claimedIn, earlier] at found
      obtain ⟨before, after, split, distinct, fresh, owned⟩ := ih _ found
      have apart : m ∉ before := fun member => (lookup_cons_eq_none (fresh m member)).1 rfl
      refine ⟨m :: before, after, by rw [split]; rfl, List.nodup_cons.mpr ⟨apart, distinct⟩,
        ?_, ?_⟩
      · intro k member
        rcases List.mem_cons.mp member with rfl | later
        · exact earlier
        · exact (lookup_cons_eq_none (fresh k later)).2
      · rcases owned with table | ⟨member, rfl⟩
        · rw [lookup_joined] at table
          split at table
          · rename_i same
            exact .inr ⟨same ▸ List.mem_cons_self, (Option.some.inj table).symm⟩
          · exact .inl table
        · exact .inr ⟨List.mem_cons_of_mem _ member, rfl⟩

/-- One more descriptor keeps the claims distinct exactly when its own names are distinct and
none was claimed before. -/
theorem claimedIn_ledger_eq_none_iff {done : List Descriptor} (distinct : (claims done).Nodup)
    (d : Descriptor) :
    conflict?.claimedIn (ledger done) d.name d.names = none ↔ (claims (done ++ [d])).Nodup := by
  rw [claimedIn_eq_none_iff, claims_append, List.nodup_append]
  simp only [lookup_ledger_eq_none, claims_cons, claims_nil, List.append_nil]
  constructor
  · rintro ⟨own, fresh⟩
    exact ⟨distinct, own, fun a earlier b current same => fresh b current (same ▸ earlier)⟩
  · rintro ⟨-, own, apart⟩
    exact ⟨own, fun n current earlier => apart n earlier n current rfl⟩

/-- A canonical name used before is a name claimed before. -/
theorem mem_claims_of_name {done : List Descriptor} {n : String}
    (used : n ∈ done.map Descriptor.name) : n ∈ claims done := by
  obtain ⟨p, member, rfl⟩ := List.mem_map.mp used
  exact mem_claims.mpr ⟨p, member, name_mem_names p⟩

/-- The scan's tables after one more descriptor are those of the longer accepted list. -/
theorem scan_tables (done : List Descriptor) (d : Descriptor) :
    d.name :: (done.map Descriptor.name).reverse = ((done ++ [d]).map Descriptor.name).reverse ∧
      d.names.map (·, d.name) ++ ledger done = ledger (done ++ [d]) := by
  simp [ledger_append]

/-- A scan that accepted `done`, whose names are distinct, goes through the rest exactly when
all names are distinct. -/
theorem conflict?_eq_none_iff (ds : List Descriptor) : ∀ (done : List Descriptor),
    (claims done).Nodup →
    (conflict? (done.map Descriptor.name).reverse (ledger done) ds = none ↔
      (claims (done ++ ds)).Nodup) := by
  -- The induction is on the descriptors left; the accepted ones grow by one at each step.
  induction ds with
  | nil => intro done distinct; simpa [conflict?] using distinct
  | cons d rest ih =>
    intro done distinct
    have prefixOf : (claims (done ++ d :: rest)).Nodup → (claims (done ++ [d])).Nodup := by
      intro all
      rw [show done ++ d :: rest = (done ++ [d]) ++ rest by simp, claims_append] at all
      exact (List.nodup_append.mp all).1
    rw [conflict?]
    by_cases again : d.name ∈ done.map Descriptor.name
    · -- An earlier canonical name: the name is claimed twice.
      simp only [List.contains_iff_mem, List.mem_reverse, again, if_true, reduceCtorEq,
        false_iff]
      intro all
      have twice := List.nodup_append.mp (claims_append done [d] ▸ prefixOf all)
      exact twice.2.2 _ (mem_claims_of_name again) _ (by simp [name_mem_names]) rfl
    · simp only [List.contains_iff_mem, List.mem_reverse, again, if_false]
      cases found : conflict?.claimedIn (ledger done) d.name d.names with
      | some conflict =>
        -- A name of `d` claimed before, or twice by `d`.
        simp only [reduceCtorEq, false_iff]
        exact fun all => by
          simp [(claimedIn_ledger_eq_none_iff distinct d).mpr (prefixOf all)] at found
      | none =>
        have grown := (claimedIn_ledger_eq_none_iff distinct d).mp found
        obtain ⟨seen, claimed⟩ := scan_tables done d
        simp only [seen, claimed]
        rw [ih (done ++ [d]) grown]
        simp

/-- A scan that accepted `done`, whose names are distinct, and finds a conflict in the rest finds
the first: the descriptors before it keep all names distinct, and the conflict is as
`FirstConflict` says. -/
theorem conflict?_eq_some (ds : List Descriptor) : ∀ (done : List Descriptor) {e : RegistryError},
    (claims done).Nodup →
    conflict? (done.map Descriptor.name).reverse (ledger done) ds = some e →
    ∃ pre d post, ds = pre ++ d :: post ∧ (claims (done ++ pre)).Nodup ∧
      FirstConflict (done ++ pre) d e := by
  induction ds with
  | nil => intro done e _ found; simp [conflict?] at found
  | cons d rest ih =>
    intro done e distinct found
    rw [conflict?] at found
    by_cases again : d.name ∈ done.map Descriptor.name
    · -- The conflict is `d`'s canonical name.
      simp only [List.contains_iff_mem, List.mem_reverse, again, if_true,
        Option.some.injEq] at found
      exact ⟨[], d, rest, rfl, by simpa using distinct, by simpa using .inl ⟨again, found.symm⟩⟩
    · simp only [List.contains_iff_mem, List.mem_reverse, again, if_false] at found
      cases claimedIn : conflict?.claimedIn (ledger done) d.name d.names with
      | some conflict =>
        -- The conflict is a name of `d`, with the owner the scan had recorded.
        obtain ⟨n, owner⟩ := conflict
        simp only [claimedIn, Option.some.injEq] at found
        obtain ⟨before, after, split, fresh, unclaimed, owned⟩ :=
          claimedIn_eq_some _ _ _ claimedIn
        refine ⟨[], d, rest, rfl, by simpa using distinct, .inr ⟨by simpa using again, before, n,
          after, owner, split, ?_, by simpa using found.symm, ?_⟩⟩
        · simp only [List.append_nil]
          refine List.nodup_append.mpr ⟨distinct, fresh, fun a earlier b current same => ?_⟩
          exact lookup_ledger_eq_none.mp (unclaimed b current) (same ▸ earlier)
        · rcases owned with table | mine
          · exact .inl (by simpa using lookup_ledger_owner table)
          · exact .inr mine
      | none =>
        -- `d` is accepted, and the conflict lies further on.
        simp only [claimedIn] at found
        obtain ⟨seen, claimed⟩ := scan_tables done d
        rw [seen, claimed] at found
        obtain ⟨pre, d', post, split, distinct', first⟩ :=
          ih (done ++ [d]) ((claimedIn_ledger_eq_none_iff distinct d).mp claimedIn) found
        refine ⟨d :: pre, d', post, by rw [split]; rfl, ?_, ?_⟩
        · simpa using distinct'
        · simpa using first

end Scan

/-- A list of descriptors with distinct names makes the registry of that list. -/
theorem build_of_nodup {ds : List Descriptor} (distinct : (claims ds).Nodup) :
    build ds = .ok ⟨ds⟩ := by
  have accepted : conflict? [] [] ds = none :=
    (conflict?_eq_none_iff ds [] (by simp)).mpr (by simpa using distinct)
  simp only [build, accepted]

/-- A list of descriptors makes a registry only of itself, and only with distinct names. -/
theorem build_eq_ok {ds : List Descriptor} {r : Registry} (built : build ds = .ok r) :
    r = ⟨ds⟩ ∧ (claims ds).Nodup := by
  simp only [build] at built
  split at built
  · cases built
  · rename_i clear
    cases built
    exact ⟨rfl, by simpa using (conflict?_eq_none_iff ds [] (by simp)).mp clear⟩

/-- A refused list is refused at its first conflict. -/
theorem build_eq_error {ds : List Descriptor} {e : RegistryError} (refused : build ds = .error e) :
    ∃ pre d post, ds = pre ++ d :: post ∧ (claims pre).Nodup ∧ FirstConflict pre d e := by
  simp only [build] at refused
  split at refused
  · rename_i found
    cases refused
    simpa using conflict?_eq_some ds [] (by simp) found
  · cases refused

section Resolve

variable {ds : List Descriptor}

/-- With every name claimed once, a name resolves to the descriptor claiming it. -/
theorem resolve_of_mem (distinct : (claims ds).Nodup) {d : Descriptor} (member : d ∈ ds)
    {n : String} (named : n ∈ d.names) : (⟨ds⟩ : Registry).resolve n = some d := by
  induction ds with
  | nil => simp at member
  | cons p rest ih =>
    rw [claims_cons, List.nodup_append] at distinct
    simp only [resolve, List.find?_cons]
    by_cases mine : n ∈ p.names
    · -- `p` claims the name, and no later descriptor can.
      rcases List.mem_cons.mp member with rfl | later
      · simp [mine]
      · exact absurd rfl (distinct.2.2 n mine n (mem_claims.mpr ⟨d, later, named⟩))
    · have later : d ∈ rest := by
        rcases List.mem_cons.mp member with rfl | later
        · exact absurd named mine
        · exact later
      simpa [mine, resolve] using ih distinct.2.1 later

/-- A name no descriptor claims resolves to nothing. -/
theorem resolve_of_not_mem {n : String} (unclaimed : n ∉ claims ds) :
    (⟨ds⟩ : Registry).resolve n = none := by
  simp only [resolve, List.find?_eq_none]
  intro d member named
  exact unclaimed (mem_claims.mpr ⟨d, member, by simpa using named⟩)

/-- A name resolves exactly when some descriptor claims it. -/
theorem resolve_isSome_iff (distinct : (claims ds).Nodup) {n : String} :
    ((⟨ds⟩ : Registry).resolve n).isSome ↔ n ∈ claims ds := by
  constructor
  · intro found
    by_contra unclaimed
    simp [resolve_of_not_mem unclaimed] at found
  · intro claimed
    obtain ⟨d, member, named⟩ := mem_claims.mp claimed
    simp [resolve_of_mem distinct member named]

end Resolve

/-- Looking a text name up gives the descriptor it resolves to, or refuses it as naming no
operation. -/
theorem get_str (r : Registry) (n : String) :
    r.get (.str n) = match r.resolve n with
      | some d => .ok d
      | none => .error (.unknownOperation (.str n)) := by
  simp only [get, find]
  cases r.resolve n <;> rfl

/-- An expression that carries a name asks for the operation the name resolves to, with the
options of its query. -/
theorem parseRequest_carried (r : Registry) (defaults : Mapping) {n : String}
    (carried : Expression.Carries n) (q : String) :
    parseRequest r defaults (.str (n ++ "?" ++ q)) = (do
      let d ← r.get (.str n)
      let query := String.ofList (Text.dropTrailing Text.isBlank q.toList)
      let raw := defaults.override (Mapping.ofBag (Query.decode query))
      let options ← validateOptions d.schema raw d.name
      pure ⟨d, options⟩) := by
  simp only [parseRequest, Expression.split_carried carried, bind, Except.bind]

/-- Two names that resolve to one descriptor, written in front of the same query, parse alike. -/
theorem parseRequest_same_operation {r : Registry} {a c : String} {d : Descriptor}
    (ra : r.resolve a = some d) (rc : r.resolve c = some d) (ca : Expression.Carries a)
    (cc : Expression.Carries c) (defaults : Mapping) (q : String) :
    parseRequest r defaults (.str (a ++ "?" ++ q)) = parseRequest r defaults (.str (c ++ "?" ++ q)) := by
  rw [parseRequest_carried r defaults ca, parseRequest_carried r defaults cc, get_str, get_str, ra,
    rc]

/-- A list of descriptors makes a registry exactly when no name is claimed twice; each name then
resolves to the one descriptor claiming it, and a list that makes none is refused at its first
conflict. -/
theorem build_exactly_when_names_distinct (ds : List Descriptor) :
    ((∃ r, build ds = .ok r) ↔ (claims ds).Nodup) ∧
    (∀ r, build ds = .ok r →
      r.operations = ds ∧ r.names = ds.map Descriptor.name ∧
      (∀ d ∈ ds, ∀ n ∈ d.names, r.resolve n = some d) ∧
      (∀ n, n ∉ claims ds → r.resolve n = none) ∧
      (∀ n, r.contains n = true ↔ n ∈ claims ds) ∧
      (∀ n, r.get (.str n) = .error (.unknownOperation (.str n)) ↔ r.resolve n = none) ∧
      (∀ d ∈ ds, ∀ a ∈ d.names, ∀ c ∈ d.names, Expression.Carries a → Expression.Carries c →
        ∀ defaults q, parseRequest r defaults (.str (a ++ "?" ++ q)) =
          parseRequest r defaults (.str (c ++ "?" ++ q)))) ∧
    (∀ e, build ds = .error e →
      ∃ pre d post, ds = pre ++ d :: post ∧ (claims pre).Nodup ∧ FirstConflict pre d e) := by
  refine ⟨⟨fun ⟨_, built⟩ => (build_eq_ok built).2, fun distinct => ⟨_, build_of_nodup distinct⟩⟩,
    fun r built => ?_, fun e refused => build_eq_error refused⟩
  obtain ⟨rfl, distinct⟩ := build_eq_ok built
  refine ⟨rfl, rfl, fun d member n named => resolve_of_mem distinct member named,
    fun n unclaimed => resolve_of_not_mem unclaimed, fun n => resolve_isSome_iff distinct,
    fun n => ?_, fun d member a na c nc ca cc defaults q =>
      parseRequest_same_operation (resolve_of_mem distinct member na)
        (resolve_of_mem distinct member nc) ca cc defaults q⟩
  -- A name is refused exactly when it resolves to nothing.
  rw [get_str]
  cases (⟨ds⟩ : Registry).resolve n <;> simp

/-- An alias with a `?` in it resolves, yet no expression can carry it: `k?v?dc=x` names an
operation `k`, which the registry does not know, while `kv.get?dc=x` reaches the operation. -/
theorem alias_with_question_mark_unparsed :
    let d : Descriptor := ⟨"kv.get", "kv.get", Schema.base, ["k?v"], [], [], [], ""⟩
    build [d] = .ok ⟨[d]⟩ ∧ (⟨[d]⟩ : Registry).resolve "k?v" = some d ∧
      parseRequest ⟨[d]⟩ [] (.str ("k?v" ++ "?" ++ "dc=x")) =
        .error (.unknownOperation (.str "k")) ∧
      parseRequest ⟨[d]⟩ [] (.str ("k?v" ++ "?" ++ "dc=x")) ≠
        parseRequest ⟨[d]⟩ [] (.str ("kv.get" ++ "?" ++ "dc=x")) := by
  intro d
  have distinct : (claims [d]).Nodup := by decide
  have unknown : parseRequest ⟨[d]⟩ [] (.str ("k?v" ++ "?" ++ "dc=x")) =
      .error (.unknownOperation (.str "k")) := by
    have split : (Expression.split (.str ("k?v" ++ "?" ++ "dc=x"))).mapError
        RequestError.expression = .ok ("k", "v?dc=x") := rfl
    have missing : (⟨[d]⟩ : Registry).get (.str "k") = .error (.unknownOperation (.str "k")) := by
      rw [get_str, resolve_of_not_mem (by decide)]
    simp only [parseRequest, split, missing, bind, Except.bind]
  refine ⟨build_of_nodup distinct, resolve_of_mem distinct (List.mem_singleton_self d)
    (by decide), unknown, ?_⟩
  -- The operation's own name reaches it, so the answer is no refusal of the name.
  have found : (⟨[d]⟩ : Registry).get (.str "kv.get") = .ok d := by
    rw [get_str, resolve_of_mem distinct (List.mem_singleton_self d) (by decide)]
  rw [unknown, parseRequest_carried _ _ (by decide), found]
  simp only [bind, Except.bind]
  split
  · -- A refusal at this point is one of the options.
    rename_i err refused
    unfold validateOptions at refused
    split at refused <;> cases refused
    simp
  · simp [pure, Except.pure]

end Registry

end ConsulLookup
