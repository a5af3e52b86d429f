import ConsulLookup.Call

/-! Mappings keyed by texts, whose calls are always built. -/

namespace ConsulLookup

namespace Value

/-- A key is the same key as a text exactly when it is that text. -/
@[simp] theorem sameKey_str (key : Value) (k : String) :
    key.sameKey (.str k) = (key.str? == some k) := by
  -- Only a text compares equal to a text, and no text is a NaN.
  cases key <;> simp [sameKey, isNaN, equal, str?, number?]

/-- A text is the same key as a value exactly when that value is the text. -/
theorem str_sameKey (k : String) (key : Value) :
    (Value.str k).sameKey key = (key.str? == some k) := by
  rw [Bool.eq_iff_iff]
  cases key <;> simp [sameKey, isNaN, equal, str?, number?]
  exact eq_comm

@[simp] theorem str?_str (s : String) : (Value.str s).str? = some s := rfl

/-- A value that is a text. -/
def IsText (v : Value) : Prop :=
  ∃ s, v = .str s

/-- Two texts are always ordered one way or the other. -/
theorem before_texts {a b : Value} (left : a.IsText) (right : b.IsText) :
    ∃ r, a.before b = .ok r := by
  obtain ⟨s, rfl⟩ := left
  obtain ⟨t, rfl⟩ := right
  exact ⟨_, rfl⟩

end Value

namespace KeySort

/-- An ascending run over texts is always measured. -/
theorem ascendingRun_texts (prev : Value) (rest : List Value) (first : prev.IsText)
    (texts : ∀ x ∈ rest, x.IsText) : ∃ n, ascendingRun prev rest = .ok n := by
  -- Each comparison is between two texts, so the walk never stops at a fault.
  induction rest generalizing prev with
  | nil => exact ⟨0, rfl⟩
  | cons x rest ih =>
    obtain ⟨r, compared⟩ := Value.before_texts (texts x (by simp)) first
    obtain ⟨n, measured⟩ := ih x (texts x (by simp)) (fun y member => texts y (by simp [member]))
    cases r <;> simp [ascendingRun, compared, measured, bind, Except.bind, pure, Except.pure]

/-- A descending run over texts is always measured. -/
theorem descendingRun_texts (prev : Value) (rest : List Value) (first : prev.IsText)
    (texts : ∀ x ∈ rest, x.IsText) : ∃ n, descendingRun prev rest = .ok n := by
  induction rest generalizing prev with
  | nil => exact ⟨0, rfl⟩
  | cons x rest ih =>
    obtain ⟨r, compared⟩ := Value.before_texts (texts x (by simp)) first
    obtain ⟨n, measured⟩ := ih x (texts x (by simp)) (fun y member => texts y (by simp [member]))
    cases r <;> simp [descendingRun, compared, measured, bind, Except.bind, pure, Except.pure]

/-- The halving search places a text among sorted texts without a fault, as long as it searches
inside the list. -/
theorem place_texts (pivot : Value) (sorted : List Value) (text : pivot.IsText)
    (texts : ∀ x ∈ sorted, x.IsText) :
    ∀ fuel low high, high ≤ sorted.length → ∃ n, place pivot sorted fuel low high = .ok n := by
  intro fuel
  -- Each halving keeps the upper end inside the list, so every probe reads a text.
  induction fuel with
  | zero => intro low _ _; exact ⟨low, rfl⟩
  | succ fuel ih =>
    intro low high within
    by_cases searching : low < high
    · have inside : low + (high - low) / 2 < sorted.length := by omega
      obtain ⟨r, compared⟩ := Value.before_texts text (texts _ (List.getElem_mem inside))
      cases r
      · obtain ⟨n, placed⟩ := ih (low + (high - low) / 2 + 1) high within
        exact ⟨n, by simp [place, searching, List.getElem?_eq_getElem inside, compared, placed,
          bind, Except.bind]⟩
      · obtain ⟨n, placed⟩ := ih low (low + (high - low) / 2) (by omega)
        exact ⟨n, by simp [place, searching, List.getElem?_eq_getElem inside, compared, placed,
          bind, Except.bind]⟩
    · exact ⟨low, by simp [place, searching]⟩

/-- Inserting texts one by one among sorted texts never faults. -/
theorem insertAll_texts (sorted rest : List Value) (sortedTexts : ∀ x ∈ sorted, x.IsText)
    (restTexts : ∀ x ∈ rest, x.IsText) : ∃ ys, insertAll sorted rest = .ok ys := by
  -- The list grows by one text at a time, so it stays a list of texts.
  induction rest generalizing sorted with
  | nil => exact ⟨sorted, rfl⟩
  | cons x rest ih =>
    obtain ⟨slot, placed⟩ := place_texts x sorted (restTexts x (by simp)) sortedTexts
      (sorted.length + 1) 0 sorted.length (Nat.le_refl _)
    have grown : ∀ y ∈ sorted.take slot ++ x :: sorted.drop slot, y.IsText := by
      intro y member
      simp only [List.mem_append, List.mem_cons] at member
      rcases member with member | rfl | member
      · exact sortedTexts y (List.mem_of_mem_take member)
      · exact restTexts y (by simp)
      · exact sortedTexts y (List.mem_of_mem_drop member)
    obtain ⟨ys, inserted⟩ := ih _ grown (fun y member => restTexts y (by simp [member]))
    exact ⟨ys, by simp [insertAll, placed, inserted, bind, Except.bind]⟩

end KeySort

/-- Texts are always sorted: no two of them lack an order. -/
theorem sortValues_texts (xs : List Value) (texts : ∀ x ∈ xs, x.IsText) :
    ∃ ys, sortValues xs = .ok ys := by
  match xs, texts with
  | [], _ => exact ⟨[], rfl⟩
  | [a], _ => exact ⟨[a], rfl⟩
  | a :: b :: rest, texts =>
    obtain ⟨descending, compared⟩ := Value.before_texts (texts b (by simp)) (texts a (by simp))
    have restTexts : ∀ x ∈ rest, x.IsText := fun x member => texts x (by simp [member])
    have taken : ∀ n, ∀ x ∈ (a :: b :: rest).take n, x.IsText :=
      fun n x member => texts x (List.mem_of_mem_take member)
    have left : ∀ n, ∀ x ∈ (a :: b :: rest).drop n, x.IsText :=
      fun n x member => texts x (List.mem_of_mem_drop member)
    -- The leading run is measured, then the rest is inserted, all between texts.
    cases descending
    · obtain ⟨more, measured⟩ := KeySort.ascendingRun_texts b rest (texts b (by simp)) restTexts
      obtain ⟨ys, inserted⟩ := KeySort.insertAll_texts _ _ (taken (2 + more)) (left (2 + more))
      exact ⟨ys, by simp [sortValues, compared, measured, inserted, bind, Except.bind]⟩
    · obtain ⟨more, measured⟩ := KeySort.descendingRun_texts b rest (texts b (by simp)) restTexts
      obtain ⟨ys, inserted⟩ := KeySort.insertAll_texts _ _
        (fun x member => taken (2 + more) x (List.mem_reverse.mp member)) (left (2 + more))
      exact ⟨ys, by simp [sortValues, compared, measured, inserted, bind, Except.bind]⟩

namespace Mapping

/-- Looking a text up reads the first entry whose key is that text. -/
theorem get?_str (m : Mapping) (k : String) :
    m.get? (.str k) = (m.find? fun p => p.1.str? == some k).map (·.2) := by
  simp [get?]

/-- A bag looked up as a mapping answers as the bag does. -/
@[simp] theorem get?_ofBag (b : Bag) (k : String) : (ofBag b).get? (.str k) = b.get? k := by
  induction b with
  | nil => rfl
  | cons p rest ih =>
    obtain ⟨k', v⟩ := p
    by_cases same : k' = k
    · simp [get?, Bag.get?, ofBag, same]
    · simpa [get?, Bag.get?, ofBag, same] using ih

/-- A text key just set answers with its new value. -/
@[simp] theorem get?_insert_self (m : Mapping) (k : String) (v : Value) :
    (m.insert (.str k) v).get? (.str k) = some v := by
  rw [get?_str]
  unfold insert
  split
  · rename_i present
    simp only [List.any_eq_true, Value.sameKey_str] at present
    -- Setting the value keeps every key, so the entry found is one the value was set into.
    simp only [List.find?_map, Value.sameKey_str]
    have keys : ((fun p : Value × Value => p.1.str? == some k) ∘
        fun (x : Value × Value) => if (x.1.str? == some k) = true then (x.1, v) else x) =
        fun p => p.1.str? == some k := by
      funext p
      simp only [Function.comp]
      split <;> rfl
    rw [keys]
    cases found : m.find? (fun p => p.1.str? == some k) with
    | none =>
      obtain ⟨p, member, hit⟩ := present
      exact absurd hit (by simpa using List.find?_eq_none.mp found p member)
    | some e =>
      have named : e.1.str? = some k := by simpa using List.find?_some found
      simp [named]
  · rename_i absent
    simp only [List.any_eq_true, not_exists, not_and, Value.sameKey_str] at absent
    -- Nothing answered to the key before, so the entry set at the end does.
    have none : m.find? (fun p => p.1.str? == some k) = none := by
      simpa [List.find?_eq_none] using absent
    simp [List.find?_append, none]

/-- Setting a key that is not a given text leaves that text's value alone. -/
theorem get?_insert_ne (m : Mapping) {key : Value} {k : String} (v : Value)
    (other : key.str? ≠ some k) : (m.insert key v).get? (.str k) = m.get? (.str k) := by
  rw [get?_str, get?_str]
  unfold insert
  split
  · -- Setting a value keeps every key, and the entry found is not among those set.
    have keys : ((fun p : Value × Value => p.1.str? == some k) ∘
        fun (x : Value × Value) => if x.1.sameKey key = true then (x.1, v) else x) =
        fun p => p.1.str? == some k := by
      funext p
      simp only [Function.comp]
      split <;> rfl
    simp only [List.find?_map, keys]
    cases found : m.find? (fun p => p.1.str? == some k) with
    | none => rfl
    | some e =>
      have named : e.1.str? = some k := by simpa using List.find?_some found
      obtain ⟨text, isText⟩ : ∃ t, e.1 = .str t := by
        cases e with
        | mk key' w => cases key' <;> simp_all [Value.str?]
      have unmatched : e.1.sameKey key = false := by
        rw [isText] at named ⊢
        simp only [Value.str?_str, Option.some.injEq] at named
        subst named
        rw [Value.str_sameKey]
        simpa using other
      simp [unmatched]
  · simp [List.find?_append, other]

/-- Erasing a text key removes its value and leaves every other text's. -/
theorem get?_erase_str (m : Mapping) (k k' : String) :
    (m.erase (.str k)).get? (.str k') = if k = k' then none else m.get? (.str k') := by
  simp only [get?_str, erase, List.find?_filter, Value.sameKey_str]
  split
  · -- No entry is both kept and the erased key.
    rename_i same
    subst same
    simp
  · -- An entry with the other key is never the one erased.
    rename_i differs
    congr 2
    funext p
    by_cases hit : p.1.str? = some k'
    · simp [hit, Ne.symm differs]
    · simp [hit]

/-- Setting entries whose keys are not a text leaves that text's value alone. -/
theorem get?_override_of_absent (m n : Mapping) {k : String} (absent : n.get? (.str k) = none) :
    (m.override n).get? (.str k) = m.get? (.str k) := by
  -- Each entry of `n` is set in turn, and none of them is the text.
  induction n generalizing m with
  | nil => rfl
  | cons p rest ih =>
    have head : p.1.str? ≠ some k := by
      intro hit
      simp [get?_str, hit] at absent
    have tail : get? rest (.str k) = none := by
      simpa [get?_str, head] using absent
    simp only [override, List.foldl_cons] at ih ⊢
    rw [ih _ tail, get?_insert_ne _ _ head]

/-- Every key of the mapping is a text. -/
def TextKeyed (m : Mapping) : Prop :=
  ∀ p ∈ m, p.1.IsText

theorem textKeyed_ofBag (b : Bag) : TextKeyed (ofBag b) := by
  intro p member
  obtain ⟨⟨k, v⟩, _, rfl⟩ := List.mem_map.mp member
  exact ⟨k, rfl⟩

theorem TextKeyed.insert {m : Mapping} (keyed : TextKeyed m) (k : String) (v : Value) :
    TextKeyed (m.insert (.str k) v) := by
  -- Setting a value keeps the keys, and a new entry has the text as its key.
  intro p member
  unfold Mapping.insert at member
  split at member
  · obtain ⟨⟨key, w⟩, kept, rfl⟩ := List.mem_map.mp member
    dsimp only
    split <;> exact keyed (key, w) kept
  · rcases List.mem_append.mp member with kept | added
    · exact keyed p kept
    · simp only [List.mem_singleton] at added
      exact ⟨k, by rw [added]⟩

theorem TextKeyed.erase {m : Mapping} (keyed : TextKeyed m) (k : Value) :
    TextKeyed (m.erase k) :=
  fun p member => keyed p (List.mem_filter.mp member).1

theorem TextKeyed.override {m n : Mapping} (keyed : TextKeyed m) (more : TextKeyed n) :
    TextKeyed (m.override n) := by
  -- Each entry of `n` is set in turn, and each has a text for its key.
  induction n generalizing m with
  | nil => exact keyed
  | cons p rest ih =>
    obtain ⟨key, v⟩ := p
    obtain ⟨k, named⟩ := more (key, v) List.mem_cons_self
    simp only at named
    subst named
    exact ih (keyed.insert k v) (fun q member => more q (List.mem_cons_of_mem _ member))

end Mapping

namespace Call

/-- The options left for keywords: every argument name taken out, then `consistent` and
`stale`. -/
def rest (d : Descriptor) (options : Mapping) : Mapping :=
  let remaining := d.arguments.foldl (fun m a => m.erase (.str a)) options
  (remaining.erase (.str "consistent")).erase (.str "stale")

/-- The consistency the options ask for once the arguments are taken out. -/
def requested (d : Descriptor) (options : Mapping) : Option String :=
  let remaining := d.arguments.foldl (fun m a => m.erase (.str a)) options
  consistency ((remaining.get? (.str "consistent")).getD (.bool false))
    ((remaining.get? (.str "stale")).getD (.bool false))

/-- The keywords a call starts from: the fixed ones, with the consistency asked for. -/
def base (d : Descriptor) (options : Mapping) : Mapping :=
  match requested d options with
  | some c => (Mapping.ofBag d.fixed).insert (.str "consistency") (.str c)
  | none => Mapping.ofBag d.fixed

/-- The keywords of a call before those the method does not take are left out: the fixed ones
and the consistency asked for, the rest of the options over them, and the index last. -/
def layers (d : Descriptor) (options : Mapping) (index : Value) : Mapping :=
  let kwargs := (base d options).override (rest d options)
  if index.isNull then kwargs else kwargs.insert (.str "index") index

/-- The keywords of the layers that the method takes. -/
def keep (d : Descriptor) (kwargs : Mapping) : Bag :=
  kwargs.filterMap fun (k, v) =>
    match k with
    | .str t => if d.keywords.contains t then some (t, v) else none
    | _ => none

/-- A call is built from its layers, unless the keys left out cannot be sorted. -/
theorem build_eq (d : Descriptor) (options : Mapping) (index : Value) :
    build d options index =
      match sortValues (dropped d (layers d options index)) with
      | .error f => .error ⟨"TypeError", f.message⟩
      | .ok _ => .ok ⟨takeArguments options d.arguments, keep d (layers d options index)⟩ :=
  rfl

/-- Options keyed by texts leave layers keyed by texts. -/
theorem layers_textKeyed (d : Descriptor) {options : Mapping} (keyed : options.TextKeyed)
    (index : Value) : (layers d options index).TextKeyed := by
  have restKeyed : (rest d options).TextKeyed := by
    have remaining : ∀ names : List String, ∀ m : Mapping, m.TextKeyed →
        (names.foldl (fun m a => m.erase (.str a)) m).TextKeyed := by
      intro names
      induction names with
      | nil => exact fun _ keyed => keyed
      | cons a names ih => exact fun m keyed => ih _ (keyed.erase _)
    exact ((remaining d.arguments options keyed).erase _).erase _
  have lower : (base d options).TextKeyed := by
    unfold base
    split
    · exact (Mapping.textKeyed_ofBag _).insert _ _
    · exact Mapping.textKeyed_ofBag _
  unfold layers
  split
  · exact lower.override restKeyed
  · exact (lower.override restKeyed).insert _ _

/-- Options keyed by texts always make a call: the keys left out are texts, which sort. -/
theorem build_ok {options : Mapping} (keyed : options.TextKeyed) (d : Descriptor)
    (index : Value) :
    build d options index =
      .ok ⟨takeArguments options d.arguments, keep d (layers d options index)⟩ := by
  have texts : ∀ x ∈ dropped d (layers d options index), x.IsText := by
    intro x member
    obtain ⟨⟨k, v⟩, present, chosen⟩ := List.mem_filterMap.mp member
    simp only at chosen
    split at chosen
    · cases chosen
    · cases chosen
      exact layers_textKeyed d keyed index _ present
  obtain ⟨sorted, fine⟩ := sortValues_texts _ texts
  rw [build_eq, fine]

end Call

end ConsulLookup
