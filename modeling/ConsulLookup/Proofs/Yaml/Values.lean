import Mathlib.Data.List.Forall2
import ConsulLookup.Config.Load

/-! JSON values held as data of a store, and read back. -/

namespace ConsulLookup

/-- A traversal in `Except` succeeds on a list exactly when it succeeds on its head and on the
rest. -/
theorem mapM_cons_eq_ok {α β ε : Type} {f : α → Except ε β} {x : α} {xs : List α}
    {ys : List β} :
    (x :: xs).mapM f = .ok ys ↔ ∃ y, f x = .ok y ∧ ∃ rest, xs.mapM f = .ok rest ∧ ys = y :: rest := by
  rw [List.mapM_cons]
  cases f x <;> cases xs.mapM f <;> simp [bind, Except.bind, pure, Except.pure, eq_comm]

/-- A step of a computation in `Except` succeeds exactly when the first part does and the rest
succeeds on its result. -/
theorem bind_eq_ok {α β ε : Type} {x : Except ε α} {f : α → Except ε β} {b : β} :
    x >>= f = .ok b ↔ ∃ a, x = .ok a ∧ f a = .ok b := by
  cases x <;> simp [bind, Except.bind]

/-- A traversal in `Except` succeeds exactly when each element succeeds, on the corresponding
element of the result. -/
theorem mapM_eq_ok_iff {α β ε : Type} {f : α → Except ε β} {xs : List α} {ys : List β} :
    xs.mapM f = .ok ys ↔ List.Forall₂ (fun x y => f x = .ok y) xs ys := by
  induction xs generalizing ys with
  | nil => cases ys <;> simp [pure, Except.pure]
  | cons x xs ih =>
    rw [mapM_cons_eq_ok]
    cases ys with
    | nil => simp
    | cons y ys => simp [ih]

/-- A filtering traversal in `Except` succeeds exactly when the traversal does, leaving out what
it drops. -/
theorem filterMapM_eq_ok_iff {α β ε : Type} {f : α → Except ε (Option β)} {xs : List α}
    {ys : List β} :
    xs.filterMapM f = .ok ys ↔ ∃ os, xs.mapM f = .ok os ∧ ys = os.filterMap id := by
  induction xs generalizing ys with
  | nil => simp [pure, Except.pure, eq_comm]
  | cons x xs ih =>
    rw [List.filterMapM_cons, bind_eq_ok]
    simp only [mapM_cons_eq_ok]
    constructor
    · -- The head's result is dropped or put in front of what the rest gives.
      rintro ⟨o, fx, rest⟩
      cases o with
      | none =>
        obtain ⟨os, mapped, rfl⟩ := ih.mp rest
        exact ⟨none :: os, ⟨none, fx, os, mapped, rfl⟩, rfl⟩
      | some y =>
        obtain ⟨zs, kept, same⟩ := bind_eq_ok.mp rest
        obtain ⟨os, mapped, rfl⟩ := ih.mp kept
        cases same
        exact ⟨some y :: os, ⟨_, fx, os, mapped, rfl⟩, rfl⟩
    · rintro ⟨_, ⟨o, fx, os, mapped, rfl⟩, rfl⟩
      refine ⟨o, fx, ?_⟩
      cases o with
      | none => exact ih.mpr ⟨os, mapped, rfl⟩
      | some y => exact bind_eq_ok.mpr ⟨_, ih.mpr ⟨os, mapped, rfl⟩, rfl⟩

/-- A computation whose refusal is reported otherwise succeeds exactly when it did. -/
theorem mapError_eq_ok {α ε ε' : Type} {x : Except ε α} {f : ε → ε'} {a : α} :
    x.mapError f = .ok a ↔ x = .ok a := by
  cases x with
  | error e => exact ⟨nofun, nofun⟩
  | ok b =>
    show (Except.ok b : Except ε' α) = .ok a ↔ (Except.ok b : Except ε α) = .ok a
    simp only [Except.ok.injEq]

namespace Value

mutual
/-- A value with every NaN float made the NaN that JSON reads, `0.0 / 0.0`. -/
def canonical : Value → Value
  | .float x => if isNaN (.float x) then .float (0.0 / 0.0) else .float x
  | .list items => .list (canonicalItems items)
  | .obj fields => .obj (canonicalFields fields)
  | v => v

def canonicalItems : List Value → List Value
  | [] => []
  | v :: rest => canonical v :: canonicalItems rest

def canonicalFields : List (String × Value) → List (String × Value)
  | [] => []
  | (k, v) :: rest => (k, canonical v) :: canonicalFields rest
end

mutual
/-- Whether a value can be written: every integer in it has at most `Yaml.maxDigits` digits. -/
def writable : Value → Bool
  | .int n => (Nat.repr n.natAbs).length ≤ Yaml.maxDigits
  | .list items => writableItems items
  | .obj fields => writableFields fields
  | _ => true

def writableItems : List Value → Bool
  | [] => true
  | v :: rest => writable v && writableItems rest

def writableFields : List (String × Value) → Bool
  | [] => true
  | (_, v) :: rest => writable v && writableFields rest
end


mutual
/-- Making the NaNs of a value canonical twice is making them canonical once. -/
theorem canonical_canonical : ∀ v : Value, v.canonical.canonical = v.canonical
  | .null | .bool _ | .int _ | .str _ => rfl
  | .float x => by
    by_cases nan : isNaN (.float x) = true
    · simp only [canonical, nan, if_true, ite_self]
    · simp only [canonical, nan, Bool.false_eq_true, if_false]
  | .list items => by
    simp only [canonical, canonicalItems_canonicalItems items]
  | .obj fields => by
    simp only [canonical, canonicalFields_canonicalFields fields]

theorem canonicalItems_canonicalItems :
    ∀ items : List Value, canonicalItems (canonicalItems items) = canonicalItems items
  | [] => rfl
  | v :: rest => by
    simp only [canonicalItems, canonical_canonical v, canonicalItems_canonicalItems rest]

theorem canonicalFields_canonicalFields :
    ∀ fields : List (String × Value), canonicalFields (canonicalFields fields) = canonicalFields fields
  | [] => rfl
  | (k, v) :: rest => by
    simp only [canonicalFields, canonical_canonical v, canonicalFields_canonicalFields rest]
end

end Value

namespace Yaml.Store

/-- A store extends another when it holds every container of the other at the same place. -/
def Extends (s S : Store) : Prop :=
  ∀ (p : Nat) (c : Container), s[p]? = some c → S[p]? = some c

theorem Extends.refl (s : Store) : Extends s s := fun _ _ held => held

theorem Extends.trans {s s' S : Store} (first : Extends s s') (second : Extends s' S) :
    Extends s S :=
  fun p c held => second p c (first p c held)

theorem extends_push (s : Store) (c : Container) : Extends s (s.push c) := by
  intro p c' held
  have below := (Array.getElem?_eq_some_iff.mp held).1
  simpa [Array.getElem?_push, Nat.ne_of_lt below] using held

theorem Extends.size_le {s S : Store} (ext : Extends s S) : s.size ≤ S.size := by
  cases size : s.size with
  | zero => omega
  | succ n =>
    -- The last container of the smaller store is held at the same place by the larger one.
    have last : s[n]? = some s[n] := Array.getElem?_eq_getElem (by omega)
    have := (Array.getElem?_eq_some_iff.mp (ext n _ last)).1
    omega

theorem Extends.get {s S : Store} (ext : Extends s S) {p : Nat} (below : p < s.size) :
    S.get p = s.get p := by
  simp [Store.get, ext p s[p] (Array.getElem?_eq_getElem below), Array.getElem?_eq_getElem below]


mutual
/-- The datum `d` stands in the store `s` for the JSON value `v`. -/
def StandsFor (s : Store) (bound : Nat) : Datum → Value → Prop
  | .null, .null => True
  | .bool a, .bool b => a = b
  | .int m, .int n => m = n
  | .float y, .float x => y = x ∧ Value.isNaN (.float x) = false
  | .nan _, .float x => Value.isNaN (.float x) = true
  | .str a, .str b => a = b
  | .ref p, .list items => p < bound ∧ ∃ ds, s.get p = .list ds ∧ ItemsStandFor s p ds items
  | .ref p, .obj fields => p < bound ∧ ∃ es, s.get p = .map es ∧ EntriesStandFor s p es fields
  | _, _ => False

def ItemsStandFor (s : Store) (bound : Nat) : List Datum → List Value → Prop
  | [], [] => True
  | d :: ds, v :: vs => StandsFor s bound d v ∧ ItemsStandFor s bound ds vs
  | _, _ => False

def EntriesStandFor (s : Store) (bound : Nat) : List (Datum × Datum) → List (String × Value) → Prop
  | [], [] => True
  | (k, d) :: es, (name, v) :: fs =>
    k = .str name ∧ StandsFor s bound d v ∧ EntriesStandFor s bound es fs
  | _, _ => False
end


/-- A datum standing for a value under a bound stands for it under any larger bound: the bound
only limits the outermost container. -/
theorem StandsFor.mono {s : Store} {b b' : Nat} (le : b ≤ b') {d : Datum} {v : Value}
    (stands : StandsFor s b d v) : StandsFor s b' d v := by
  cases d <;> cases v <;> simp only [StandsFor] at stands ⊢
  all_goals first | exact stands | exact ⟨by omega, stands.2⟩

mutual
/-- What a datum stands for below the size of a store, it stands for in every extension. -/
theorem StandsFor.extend {s S : Store} (ext : Extends s S) {b : Nat} (within : b ≤ s.size) :
    ∀ (v : Value) (d : Datum), StandsFor s b d v → StandsFor S b d v
  | .null, d, stands => by cases d <;> simp_all [StandsFor]
  | .bool _, d, stands => by cases d <;> simp_all [StandsFor]
  | .int _, d, stands => by cases d <;> simp_all [StandsFor]
  | .float _, d, stands => by cases d <;> simp_all [StandsFor]
  | .str _, d, stands => by cases d <;> simp_all [StandsFor]
  | .list items, d, stands => by
    cases d <;> simp only [StandsFor] at stands ⊢
    obtain ⟨below, ds, held, inner⟩ := stands
    -- The container at the datum's place is unchanged in the larger store.
    exact ⟨below, ds, (ext.get (by omega)).trans held,
      ItemsStandFor.extend ext (by omega) items ds inner⟩
  | .obj fields, d, stands => by
    cases d <;> simp only [StandsFor] at stands ⊢
    obtain ⟨below, es, held, inner⟩ := stands
    exact ⟨below, es, (ext.get (by omega)).trans held,
      EntriesStandFor.extend ext (by omega) fields es inner⟩

theorem ItemsStandFor.extend {s S : Store} (ext : Extends s S) {b : Nat} (within : b ≤ s.size) :
    ∀ (items : List Value) (ds : List Datum), ItemsStandFor s b ds items → ItemsStandFor S b ds items
  | [], [], _ => trivial
  | v :: vs, d :: ds, ⟨head, tail⟩ =>
    ⟨StandsFor.extend ext within v d head, ItemsStandFor.extend ext within vs ds tail⟩
  | [], _ :: _, stands => stands.elim
  | _ :: _, [], stands => stands.elim

theorem EntriesStandFor.extend {s S : Store} (ext : Extends s S) {b : Nat} (within : b ≤ s.size) :
    ∀ (fields : List (String × Value)) (es : List (Datum × Datum)),
      EntriesStandFor s b es fields → EntriesStandFor S b es fields
  | [], [], _ => trivial
  | (_, v) :: fs, (_, d) :: es, ⟨key, head, tail⟩ =>
    ⟨key, StandsFor.extend ext within v d head, EntriesStandFor.extend ext within fs es tail⟩
  | [], _ :: _, stands => stands.elim
  | _ :: _, [], stands => stands.elim
end

/-- A float adds nothing to a store; a NaN is a NaN of the data. -/
theorem ofValue_float_standsFor (s : Store) (x : Float) :
    Extends s (ofValue s (.float x)).1 ∧
      StandsFor (ofValue s (.float x)).1 (ofValue s (.float x)).1.size (ofValue s (.float x)).2
        (.float x) := by
  have added : ofValue s (.float x) =
      (s, if Value.isNaN (.float x) then .nan 0 else .float x) := by
    rw [ofValue]
  rw [added]
  refine ⟨.refl s, ?_⟩
  -- A NaN is held as the NaN datum, any other float as itself.
  cases nan : Value.isNaN (.float x)
  · simp [nan, StandsFor]
  · simp [nan, StandsFor]

mutual
/-- A JSON value added to a store stands for itself there: the store only grows, and the datum's
containers lie below the new size. -/
theorem ofValue_standsFor (s : Store) : ∀ v : Value,
    Extends s (ofValue s v).1 ∧ StandsFor (ofValue s v).1 (ofValue s v).1.size (ofValue s v).2 v
  | .null => ⟨.refl s, trivial⟩
  | .bool _ => ⟨.refl s, rfl⟩
  | .int _ => ⟨.refl s, rfl⟩
  | .float x => ofValue_float_standsFor s x
  | .str _ => ⟨.refl s, rfl⟩
  | .list items => by
    -- The items go into the store first, and the list above them, at the size they leave.
    obtain ⟨ext, inner⟩ := ofItems_standsFor s items
    have pushed := extends_push (ofItems s items).1 (.list (ofItems s items).2)
    simp only [ofValue, Store.add, StandsFor, Array.size_push]
    refine ⟨ext.trans pushed, by omega, _, ?_, ItemsStandFor.extend pushed (Nat.le_refl _) _ _ inner⟩
    simp [Store.get]
  | .obj fields => by
    obtain ⟨ext, inner⟩ := ofFields_standsFor s fields
    have pushed := extends_push (ofFields s fields).1 (.map (ofFields s fields).2)
    simp only [ofValue, Store.add, StandsFor, Array.size_push]
    refine ⟨ext.trans pushed, by omega, _, ?_, EntriesStandFor.extend pushed (Nat.le_refl _) _ _ inner⟩
    simp [Store.get]

theorem ofItems_standsFor (s : Store) : ∀ items : List Value,
    Extends s (ofItems s items).1 ∧
      ItemsStandFor (ofItems s items).1 (ofItems s items).1.size (ofItems s items).2 items
  | [] => ⟨.refl s, trivial⟩
  | v :: rest => by
    obtain ⟨first, head⟩ := ofValue_standsFor s v
    obtain ⟨later, tail⟩ := ofItems_standsFor (ofValue s v).1 rest
    simp only [ofItems, ItemsStandFor]
    -- The head was built first: it stands in the final store under its own, smaller size.
    exact ⟨first.trans later,
      (head.extend later (Nat.le_refl _) |>.mono later.size_le), tail⟩

theorem ofFields_standsFor (s : Store) : ∀ fields : List (String × Value),
    Extends s (ofFields s fields).1 ∧
      EntriesStandFor (ofFields s fields).1 (ofFields s fields).1.size (ofFields s fields).2 fields
  | [] => ⟨.refl s, trivial⟩
  | (k, v) :: rest => by
    obtain ⟨first, head⟩ := ofValue_standsFor s v
    obtain ⟨later, tail⟩ := ofFields_standsFor (ofValue s v).1 rest
    refine ⟨first.trans later, ?_⟩
    show EntriesStandFor _ _ ((.str k, (ofValue s v).2) :: (ofFields (ofValue s v).1 rest).2)
      ((k, v) :: rest)
    exact ⟨rfl, (head.extend later (Nat.le_refl _) |>.mono later.size_le), tail⟩
end

/-- Entering a container below the bound keeps every container being read at or above the
container's own place. -/
theorem within_opened {p b : Nat} {opened : List Nat} (below : p < b)
    (outside : ∀ q ∈ opened, b ≤ q) : ∀ q ∈ p :: opened, p ≤ q := by
  intro q member
  rcases List.mem_cons.mp member with rfl | later
  · exact Nat.le_refl q
  · exact Nat.le_of_lt (Nat.lt_of_lt_of_le below (outside q later))

/-- A container below the bound is not being read when every container being read lies at or
above the bound: entering it opens no cycle. -/
theorem not_opened {p b : Nat} {opened : List Nat} (below : p < b)
    (outside : ∀ q ∈ opened, b ≤ q) : opened.contains p = false := by
  simpa using fun member => Nat.lt_irrefl p (Nat.lt_of_lt_of_le below (outside p member))

/-- A fuel above the bound is a step and more. -/
theorem exists_succ_of_lt {b fuel : Nat} (below : b < fuel) : ∃ f, fuel = f + 1 ∧ b ≤ f :=
  ⟨fuel - 1, by omega, by omega⟩

mutual
/-- A datum standing for a JSON value reads back as that value, each NaN as the NaN JSON reads,
when the fuel exceeds the bound and no container being read lies below it. -/
theorem toValue_of_standsFor {S : Store} : ∀ (v : Value) (d : Datum) {b fuel : Nat}
    {opened : List Nat}, StandsFor S b d v → b < fuel → (∀ q ∈ opened, b ≤ q) →
      S.toValue fuel opened d = v.canonical
  | .null, d, _, fuel, _, stands, enough, _ => by
    obtain ⟨f, rfl, -⟩ := exists_succ_of_lt enough
    cases d <;> simp_all [StandsFor, toValue, Value.canonical]
  | .bool _, d, _, fuel, _, stands, enough, _ => by
    obtain ⟨f, rfl, -⟩ := exists_succ_of_lt enough
    cases d <;> simp_all [StandsFor, toValue, Value.canonical]
  | .int _, d, _, fuel, _, stands, enough, _ => by
    obtain ⟨f, rfl, -⟩ := exists_succ_of_lt enough
    cases d <;> simp_all [StandsFor, toValue, Value.canonical]
  | .float _, d, _, fuel, _, stands, enough, _ => by
    obtain ⟨f, rfl, -⟩ := exists_succ_of_lt enough
    cases d <;> simp_all [StandsFor, toValue, Value.canonical]
  | .str _, d, _, fuel, _, stands, enough, _ => by
    obtain ⟨f, rfl, -⟩ := exists_succ_of_lt enough
    cases d <;> simp_all [StandsFor, toValue, Value.canonical]
  | .list items, d, b, fuel, opened, stands, enough, outside => by
    obtain ⟨f, rfl, le⟩ := exists_succ_of_lt enough
    cases d <;> simp only [StandsFor] at stands
    rename_i p
    obtain ⟨below, ds, held, inner⟩ := stands
    -- The container is not being read yet: it is entered and its members read above it.
    have fresh := not_opened below outside
    simp only [toValue, fresh, held, Value.canonical, Bool.false_eq_true, if_false]
    rw [toValue_items items ds inner (by omega) (within_opened below outside)]
  | .obj fields, d, b, fuel, opened, stands, enough, outside => by
    obtain ⟨f, rfl, le⟩ := exists_succ_of_lt enough
    cases d <;> simp only [StandsFor] at stands
    rename_i p
    obtain ⟨below, es, held, inner⟩ := stands
    -- The container is not being read yet: it is entered and its members read above it.
    have fresh := not_opened below outside
    simp only [toValue, fresh, held, Value.canonical, Bool.false_eq_true, if_false]
    rw [toValue_fields fields es _ (fun _ _ => rfl) inner (by omega) (within_opened below outside)]

theorem toValue_items {S : Store} : ∀ (items : List Value) (ds : List Datum) {p f : Nat}
    {inner : List Nat}, ItemsStandFor S p ds items → p < f → (∀ q ∈ inner, p ≤ q) →
      ds.map (S.toValue f inner) = Value.canonicalItems items
  | [], [], _, _, _, _, _, _ => rfl
  | v :: vs, d :: ds, _, _, _, ⟨head, tail⟩, enough, outside => by
    simp only [List.map_cons, Value.canonicalItems]
    rw [toValue_of_standsFor v d head enough outside, toValue_items vs ds tail enough outside]
  | [], _ :: _, _, _, _, stands, _, _ => stands.elim
  | _ :: _, [], _, _, _, stands, _, _ => stands.elim

theorem toValue_fields {S : Store} : ∀ (fields : List (String × Value))
    (es : List (Datum × Datum)) {p f : Nat} {inner : List Nat} (g : Datum × Datum → String × Value),
      (∀ t d, g (.str t, d) = (t, S.toValue f inner d)) → EntriesStandFor S p es fields → p < f →
        (∀ q ∈ inner, p ≤ q) → es.map g = Value.canonicalFields fields
  | [], [], _, _, _, _, _, _, _, _ => rfl
  | (k, v) :: fs, (key, d) :: es, _, _, _, g, reads, ⟨named, head, tail⟩, enough, outside => by
    subst named
    simp only [List.map_cons, Value.canonicalFields, reads]
    rw [toValue_of_standsFor v d head enough outside,
      toValue_fields fs es g reads tail enough outside]
  | [], _ :: _, _, _, _, _, _, stands, _, _ => stands.elim
  | _ :: _, [], _, _, _, _, _, stands, _, _ => stands.elim
end


/-- A NaN float is written `nan`. -/
theorem render_of_isNaN {x : Float} (nan : Value.isNaN (.float x) = true) :
    Value.textLayout.render x = "nan" := by
  simp only [Value.isNaN, beq_iff_eq] at nan
  simp [FloatLayout.render, nan, Value.textLayout]

/-- An integer is written in decimal exactly when it has at most `maxDigits` digits. -/
theorem intText?_eq_ok_iff {n : Int} {w : String} :
    intText? n = .ok w ↔ (Nat.repr n.natAbs).length ≤ maxDigits ∧ w = Value.intText n := by
  by_cases short : (Nat.repr n.natAbs).length ≤ maxDigits
  · simp [intText?, Value.intText, Nat.not_lt.mpr short, short, eq_comm]
  · simp [intText?, Nat.lt_of_not_le short, short]

/-- A float standing for a JSON float is written as that float is. -/
theorem written_float {S : Store} {d : Datum} {b f : Nat} {opened : List Nat} {x : Float}
    {w : String} (stands : StandsFor S b d (.float x)) :
    S.written (f + 1) opened d = .ok w ↔ w = Value.textLayout.render x := by
  cases d <;> simp only [StandsFor] at stands
  · rw [stands.1]
    simp [written, eq_comm]
  · simp [written, render_of_isNaN stands, eq_comm]

/-- Wrapping the one result a part can have succeeds exactly when the part does. -/
theorem exists_wrapped_iff {α β ε : Type} {P : Prop} {x : α} {f : α → β} {w : β} :
    (∃ a, (P ∧ a = x) ∧ (pure (f a) : Except ε β) = .ok w) ↔ P ∧ w = f x := by
  constructor
  · rintro ⟨_, ⟨holds, rfl⟩, same⟩
    exact ⟨holds, (Except.ok.inj same).symm⟩
  · rintro ⟨holds, rfl⟩
    exact ⟨_, ⟨holds, rfl⟩, rfl⟩

mutual
/-- A datum standing for a JSON value is written as that value is, exactly when each integer in
it is short enough to be written. -/
theorem written_of_standsFor {S : Store} : ∀ (v : Value) (d : Datum) {b fuel : Nat}
    {opened : List Nat} {w : String}, StandsFor S b d v → b < fuel → (∀ q ∈ opened, b ≤ q) →
      (S.written fuel opened d = .ok w ↔ v.writable = true ∧ w = v.written)
  | .null, d, _, fuel, _, _, stands, enough, _ => by
    obtain ⟨f, rfl, -⟩ := exists_succ_of_lt enough
    cases d <;> simp_all [StandsFor, written, Value.writable, Value.written, eq_comm]
  | .bool _, d, _, fuel, _, _, stands, enough, _ => by
    obtain ⟨f, rfl, -⟩ := exists_succ_of_lt enough
    cases d <;> simp_all [StandsFor, written, Value.writable, Value.written, eq_comm]
  | .int _, d, _, fuel, _, _, stands, enough, _ => by
    obtain ⟨f, rfl, -⟩ := exists_succ_of_lt enough
    cases d <;> simp only [StandsFor] at stands
    subst stands
    simp [written, intText?_eq_ok_iff, Value.writable, Value.written]
  | .float _, d, _, fuel, _, _, stands, enough, _ => by
    obtain ⟨f, rfl, -⟩ := exists_succ_of_lt enough
    simp [written_float stands, Value.writable, Value.written]
  | .str _, d, _, fuel, _, _, stands, enough, _ => by
    obtain ⟨f, rfl, -⟩ := exists_succ_of_lt enough
    cases d <;> simp_all [StandsFor, written, Value.writable, Value.written, eq_comm]
  | .list items, d, b, fuel, opened, w, stands, enough, outside => by
    obtain ⟨f, rfl, le⟩ := exists_succ_of_lt enough
    cases d <;> simp only [StandsFor] at stands
    rename_i p
    obtain ⟨below, ds, held, inner⟩ := stands
    -- The container is not being read yet: it is entered and its members written above it.
    have fresh := not_opened below outside
    simp only [written, fresh, held, Bool.false_eq_true, if_false, bind_eq_ok,
      written_items items ds inner (Nat.lt_of_lt_of_le below le) (within_opened below outside),
      Value.writable, Value.written]
    exact exists_wrapped_iff
  | .obj fields, d, b, fuel, opened, w, stands, enough, outside => by
    obtain ⟨f, rfl, le⟩ := exists_succ_of_lt enough
    cases d <;> simp only [StandsFor] at stands
    rename_i p
    obtain ⟨below, es, held, inner⟩ := stands
    -- The container is not being read yet: it is entered and its members written above it.
    have fresh := not_opened below outside
    simp only [written, fresh, held, Bool.false_eq_true, if_false, bind_eq_ok]
    -- The keys are texts, written at one step less, which is a step at least.
    obtain ⟨f', rfl, -⟩ := exists_succ_of_lt (Nat.lt_of_lt_of_le below le)
    refine Iff.trans (exists_congr fun parts => and_congr_left fun _ =>
      written_fields fields es _ ?_ inner (Nat.lt_of_lt_of_le below le)
        (within_opened below outside)) ?_
    · exact fun _ _ => rfl
    simp only [Value.writable, Value.written]
    exact exists_wrapped_iff

theorem written_items {S : Store} : ∀ (items : List Value) (ds : List Datum) {p f : Nat}
    {inner : List Nat} {parts : List String}, ItemsStandFor S p ds items → p < f →
      (∀ q ∈ inner, p ≤ q) →
        (ds.mapM (S.written f inner) = .ok parts ↔
          Value.writableItems items = true ∧ parts = Value.writtenItems items)
  | [], [], _, _, _, _, _, _, _ => by
    simp [Value.writableItems, Value.writtenItems, pure, Except.pure, eq_comm]
  | v :: vs, d :: ds, _, _, _, _, ⟨head, tail⟩, enough, outside => by
    simp only [mapM_cons_eq_ok, written_of_standsFor v d head enough outside,
      written_items vs ds tail enough outside, Value.writableItems, Value.writtenItems]
    constructor
    · rintro ⟨_, ⟨writable, rfl⟩, _, ⟨rest, rfl⟩, rfl⟩
      exact ⟨by simp [writable, rest], rfl⟩
    · intro ⟨both, same⟩
      simp only [Bool.and_eq_true] at both
      exact ⟨_, ⟨both.1, rfl⟩, _, ⟨both.2, rfl⟩, same⟩
  | [], _ :: _, _, _, _, _, stands, _, _ => stands.elim
  | _ :: _, [], _, _, _, _, stands, _, _ => stands.elim

theorem written_fields {S : Store} : ∀ (fields : List (String × Value))
    (es : List (Datum × Datum)) {p f : Nat} {inner : List Nat} {parts : List String}
    (g : Datum × Datum → Except String String),
      (∀ t d, g (.str t, d) = S.written f inner d >>= fun vs => pure (Text.quote t ++ ": " ++ vs)) →
        EntriesStandFor S p es fields → p < f → (∀ q ∈ inner, p ≤ q) →
          (es.mapM g = .ok parts ↔
            Value.writableFields fields = true ∧ parts = Value.writtenFields fields)
  | [], [], _, _, _, _, _, _, _, _, _ => by
    simp [Value.writableFields, Value.writtenFields, pure, Except.pure, eq_comm]
  | (k, v) :: fs, (key, d) :: es, _, _, _, _, g, reads, ⟨named, head, tail⟩, enough, outside => by
    subst named
    simp only [mapM_cons_eq_ok, reads, bind_eq_ok, written_of_standsFor v d head enough outside,
      written_fields fs es g reads tail enough outside, Value.writableFields, Value.writtenFields]
    constructor
    · rintro ⟨_, ⟨_, ⟨writable, rfl⟩, same⟩, _, ⟨rest, rfl⟩, rfl⟩
      simp only [pure, Except.pure, Except.ok.injEq] at same
      exact ⟨by simp [writable, rest], by rw [same]⟩
    · intro ⟨both, same⟩
      simp only [Bool.and_eq_true] at both
      exact ⟨_, ⟨_, ⟨both.1, rfl⟩, rfl⟩, _, ⟨both.2, rfl⟩, same⟩
  | [], _ :: _, _, _, _, _, _, _, stands, _, _ => stands.elim
  | _ :: _, [], _, _, _, _, _, _, stands, _, _ => stands.elim
end


/-- A datum standing for a JSON value in its store reads back as the value, each NaN the NaN
JSON reads. -/
theorem value_of_standsFor {S : Store} {d : Datum} {v : Value}
    (stands : StandsFor S S.size d v) : S.value d = v.canonical :=
  toValue_of_standsFor v d stands (by simp only [depth]; omega) (by simp)

/-- The text of a datum standing for a JSON value is the value's text, exactly when the value
can be written. -/
theorem text_of_standsFor {S : Store} {d : Datum} {v : Value} {t : String}
    (stands : StandsFor S S.size d v) : S.text d = .ok t ↔ v.writable = true ∧ t = v.text := by
  cases v with
  | str s =>
    cases d <;> simp only [StandsFor] at stands
    subst stands
    simp [text, Value.writable, Value.text, eq_comm]
  | _ =>
    -- A datum standing for no text is no text, date or moment: its text is its written form.
    simp only [Value.text]
    rw [← @written_of_standsFor S _ d S.size S.depth [] t stands (by simp only [depth]; omega)
      (by simp)]
    cases d <;> simp_all [StandsFor, text]

/-- An entry of a mapping stands for a field of an object: its key is the field's name, and its
datum stands for the field's value. -/
def EntryFor (s : Store) (b : Nat) (e : Datum × Datum) (f : String × Value) : Prop :=
  e.1 = .str f.1 ∧ StandsFor s b e.2 f.2

/-- Entries stand for fields exactly when they do so one by one. -/
theorem entriesStandFor_iff {s : Store} {b : Nat} : ∀ {es : List (Datum × Datum)}
    {fields : List (String × Value)}, EntriesStandFor s b es fields ↔
      List.Forall₂ (EntryFor s b) es fields
  | [], [] => by simp [EntriesStandFor]
  | [], _ :: _ => by simp [EntriesStandFor]
  | _ :: _, [] => by simp [EntriesStandFor]
  | (k, d) :: es, (name, v) :: fs => by
    simp only [EntriesStandFor, List.forall₂_cons, entriesStandFor_iff, EntryFor, and_assoc]

/-- A datum standing for an object is a mapping of the store, whose entries stand for its
fields. -/
theorem entries?_of_obj {s : Store} {b : Nat} {d : Datum} {fields : List (String × Value)}
    (stands : StandsFor s b d (.obj fields)) :
    ∃ es, s.entries? d = some es ∧ List.Forall₂ (EntryFor s b) es fields := by
  cases d <;> simp only [StandsFor] at stands
  obtain ⟨below, es, held, inner⟩ := stands
  refine ⟨es, by simp [entries?, held], ?_⟩
  -- The entries stand for the fields below the mapping's place, so below any bound above it.
  exact (entriesStandFor_iff.mp inner).imp fun _ _ entry =>
    ⟨entry.1, entry.2.mono (Nat.le_of_lt below)⟩

/-- A datum standing for anything but an object is no mapping of the store. -/
theorem entries?_of_not_obj {s : Store} {b : Nat} {d : Datum} {v : Value}
    (stands : StandsFor s b d v) (other : ∀ fields, v ≠ .obj fields) : s.entries? d = none := by
  cases d <;> cases v <;> simp_all [StandsFor, entries?]
  -- A list is held as a list.
  obtain ⟨-, ds, held, -⟩ := stands
  simp [held]

end Yaml.Store

end ConsulLookup
