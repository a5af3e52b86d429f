import ConsulLookup.Value.Basic

/-! Overriding bags: the last value of a key wins, at its first place. -/

namespace ConsulLookup

namespace Bag

/-- A bag with the value of a key replaced where the key stands. -/
def replace (b : Bag) (k : String) (v : Value) : Bag :=
  b.map fun kv => if kv.1 == k then (k, v) else kv

section Replace

variable {b c : Bag} {k k' : String} {v w : Value}

/-- Setting a present key replaces its value in place. -/
theorem insert_of_contains (present : b.contains k = true) : b.insert k v = b.replace k v := by
  simp [insert, present, replace]

/-- Setting an absent key adds it at the end. -/
theorem insert_of_not_contains (absent : b.contains k = false) : b.insert k v = b ++ [(k, v)] := by
  simp [insert, absent]

/-- Replacing the value of an absent key changes nothing. -/
theorem replace_of_not_contains (absent : b.contains k = false) : b.replace k v = b := by
  simp only [contains, List.any_eq_false, beq_iff_eq] at absent
  -- No entry has the key, so every entry is kept as it is.
  simp only [replace]
  conv => rhs; rw [← List.map_id b]
  exact List.map_congr_left fun kv member => by simp [absent kv member]

/-- The last replacement of a key's value wins. -/
@[simp] theorem replace_replace (b : Bag) (k : String) (v u : Value) :
    (b.replace k v).replace k u = b.replace k u := by
  simp only [replace, List.map_map]
  exact List.map_congr_left fun kv _ => by by_cases same : kv.1 = k <;> simp [same]

/-- Replacing a value leaves the keys present as they were. -/
@[simp] theorem contains_replace (b : Bag) (k k' : String) (v : Value) :
    (b.replace k v).contains k' = b.contains k' := by
  simp only [contains, replace, List.any_map]
  congr 1
  funext kv
  by_cases same : kv.1 = k <;> simp [same]

/-- A key just set is present. -/
theorem contains_insert_self (b : Bag) (k : String) (v : Value) : (b.insert k v).contains k = true := by
  cases present : b.contains k
  · simp [insert_of_not_contains present, contains]
  · rwa [insert_of_contains present, contains_replace]

/-- Setting a key keeps every key that was present. -/
theorem contains_insert_of_contains (b : Bag) (k : String) (v : Value) {k' : String}
    (present : b.contains k' = true) : (b.insert k v).contains k' = true := by
  cases here : b.contains k
  · simp only [insert_of_not_contains here, contains, List.any_append] at present ⊢
    simp [present]
  · rwa [insert_of_contains here, contains_replace]

/-- Replacing the value of one key and setting another commute. -/
theorem insert_replace_comm (other : k' ≠ k) (b : Bag) (v w : Value) :
    (b.replace k v).insert k' w = (b.insert k' w).replace k v := by
  cases present : b.contains k'
  · rw [insert_of_not_contains (by rwa [contains_replace]), insert_of_not_contains present]
    simp [replace, other]
  · rw [insert_of_contains (by rwa [contains_replace]), insert_of_contains present]
    simp only [replace, List.map_map]
    -- Each entry has at most one of the two keys, so the two replacements touch different entries.
    refine List.map_congr_left fun kv _ => ?_
    by_cases first : kv.1 = k <;> by_cases second : kv.1 = k' <;> simp_all [Ne.symm other]

/-- Setting a key is replacing its value in the bag where it was set to anything. -/
theorem insert_eq_replace_insert (b : Bag) (k : String) (v w : Value) :
    b.insert k v = (b.insert k w).replace k v := by
  cases present : b.contains k
  · have appended : (b ++ [(k, w)]).replace k v = b.replace k v ++ [(k, v)] := by
      simp [replace]
    rw [insert_of_not_contains present, insert_of_not_contains present, appended,
      replace_of_not_contains present]
  · rw [insert_of_contains present, insert_of_contains present, replace_replace]

end Replace

section Override

/-- Overriding by a list followed by more is overriding by the one, then the other. -/
theorem override_append (b : Bag) (l₁ l₂ : List (String × Value)) :
    b.override (l₁ ++ l₂) = (b.override l₁).override l₂ := by
  simp [override, List.foldl_append]

/-- Overriding keeps every key that was present. -/
theorem contains_override_of_contains {b : Bag} {k : String} (present : b.contains k = true)
    (l : List (String × Value)) : (b.override l).contains k = true := by
  induction l generalizing b with
  | nil => exact present
  | cons kv rest ih => exact ih (contains_insert_of_contains b kv.1 kv.2 present)

/-- Overriding gives every key of the list. -/
theorem contains_override_of_mem {k : String} {l : List (String × Value)}
    (named : k ∈ l.map (·.1)) (b : Bag) : (b.override l).contains k = true := by
  induction l generalizing b with
  | nil => simp at named
  | cons kv rest ih =>
    by_cases later : k ∈ rest.map (·.1)
    · exact ih later _
    · have here : kv.1 = k := (by simpa [later] using named : k = kv.1).symm
      exact contains_override_of_contains (here ▸ contains_insert_self b kv.1 kv.2) rest

/-- A replaced value stays replaced while keys other than its own are set. -/
theorem override_replace_of_not_mem {k : String} {l : List (String × Value)}
    (untouched : ∀ kv ∈ l, kv.1 ≠ k) (b : Bag) (v : Value) :
    (b.replace k v).override l = (b.override l).replace k v := by
  induction l generalizing b with
  | nil => rfl
  | cons kv rest ih =>
    simp only [override, List.foldl_cons] at ih ⊢
    rw [insert_replace_comm (untouched kv List.mem_cons_self),
      ih (fun kv' member => untouched kv' (List.mem_cons_of_mem _ member))]

/-- Two bags that hold a key and differ at most in its value go on differing at most in its value,
whatever is set in both. -/
theorem override_agree {k : String} (l : List (String × Value)) {b c : Bag}
    (inB : b.contains k = true) (inC : c.contains k = true)
    (agree : ∀ u, b.replace k u = c.replace k u) (u : Value) :
    (b.override l).replace k u = (c.override l).replace k u := by
  induction l generalizing b c with
  | nil => exact agree u
  | cons kv rest ih =>
    obtain ⟨k', w⟩ := kv
    simp only [override, List.foldl_cons] at ih ⊢
    refine ih (contains_insert_of_contains b k' w inB) (contains_insert_of_contains c k' w inC)
      fun u' => ?_
    by_cases same : k' = k
    · -- Setting the key itself replaces its value in both.
      subst same
      rw [insert_of_contains inB, insert_of_contains inC, replace_replace, replace_replace, agree]
    · rw [← insert_replace_comm same, ← insert_replace_comm same, agree]

/-- Overriding by a list whose value for a present key is replaced is overriding by the list, then
replacing. -/
theorem override_replace {k : String} {m : Bag} (named : k ∈ m.map (·.1))
    (b : Bag) (v : Value) :
    b.override (m.replace k v) = (b.override m).replace k v := by
  induction m generalizing b with
  | nil => simp at named
  | cons kv rest ih =>
    obtain ⟨k', w⟩ := kv
    by_cases same : k' = k
    · subst same
      have head : replace ((k', w) :: rest) k' v = (k', v) :: replace rest k' v := by
        simp [replace]
      rw [head]
      simp only [override, List.foldl_cons]
      by_cases later : k' ∈ rest.map (·.1)
      · -- The key is set again later: the two bags differ only in its value from here on.
        rw [← override, ih later, ← override]
        exact override_agree rest (contains_insert_self b k' v) (contains_insert_self b k' w)
          (fun u => by rw [← insert_eq_replace_insert, ← insert_eq_replace_insert]) v
      · -- The key is not set again: its value stays replaced to the end.
        have untouched : ∀ kv ∈ rest, kv.1 ≠ k' := fun kv member same =>
          later (List.mem_map.mpr ⟨kv, member, same⟩)
        have rest_kept : replace rest k' v = rest :=
          replace_of_not_contains (by simpa [contains] using untouched)
        rw [rest_kept, ← override, ← override, insert_eq_replace_insert b k' v w,
          override_replace_of_not_mem untouched]
    · have head : replace ((k', w) :: rest) k v = (k', w) :: replace rest k v := by
        simp [replace, same]
      have later : k ∈ rest.map (·.1) := by simpa [Ne.symm same] using named
      rw [head]
      simp only [override, List.foldl_cons]
      rw [← override, ih later, ← override]

/-- Overriding by a bag with one more key set is overriding, then setting the key. -/
theorem override_insert (b m : Bag) (k : String) (v : Value) :
    b.override (m.insert k v) = (b.override m).insert k v := by
  cases present : m.contains k
  · rw [insert_of_not_contains present, override_append]
    rfl
  · have named : k ∈ m.map (·.1) := by
      simpa [contains] using present
    rw [insert_of_contains present, override_replace named,
      insert_of_contains (contains_override_of_mem named b)]

/-- Overriding by a bag that was itself overridden is overriding by the first bag, then by what
overrode it. -/
theorem override_override (b c : Bag) (l : List (String × Value)) :
    b.override (c.override l) = (b.override c).override l := by
  induction l generalizing c with
  | nil => rfl
  | cons kv rest ih =>
    -- Overriding by a list starts by setting its first entry.
    show b.override ((c.insert kv.1 kv.2).override rest) = (b.override c).override (kv :: rest)
    rw [ih, override_insert]
    rfl

/-- Setting the entries of the bag a list makes is setting the entries of the list: the last value
of each key wins either way, at the place the key was first set. -/
theorem override_ofList (b : Bag) (l : List (String × Value)) :
    b.override (ofList l) = b.override l :=
  override_override b [] l

end Override

section Keys

/-- A key is absent from a bag exactly when it is none of its keys. -/
theorem contains_eq_false_iff {b : Bag} {k : String} : b.contains k = false ↔ k ∉ b.keys := by
  simp only [contains, keys, List.any_eq_false, beq_iff_eq, List.mem_map, not_exists, not_and]

/-- Replacing a value keeps the keys. -/
@[simp] theorem keys_replace (b : Bag) (k : String) (v : Value) : (b.replace k v).keys = b.keys := by
  simp only [replace, keys, List.map_map]
  refine List.map_congr_left fun kv _ => ?_
  by_cases same : kv.1 = k <;> simp [same]

/-- Setting a key keeps the keys of a bag distinct. -/
theorem keys_insert_nodup {b : Bag} (distinct : b.keys.Nodup) (k : String) (v : Value) :
    (b.insert k v).keys.Nodup := by
  cases present : b.contains k
  · -- A new key goes at the end, after keys that all differ from it.
    have fresh : k ∉ b.keys := contains_eq_false_iff.mp present
    rw [insert_of_not_contains present]
    simp only [keys, List.map_append, List.map_cons, List.map_nil]
    rw [List.nodup_append]
    refine ⟨distinct, by simp, ?_⟩
    intro a member k' single same
    rw [List.mem_singleton] at single
    exact fresh (single ▸ same ▸ member)
  · rw [insert_of_contains present, keys_replace]
    exact distinct

/-- Overriding keeps the keys of a bag distinct. -/
theorem keys_override_nodup {b : Bag} (distinct : b.keys.Nodup) (l : List (String × Value)) :
    (b.override l).keys.Nodup := by
  induction l generalizing b with
  | nil => exact distinct
  | cons kv rest ih => exact ih (keys_insert_nodup distinct kv.1 kv.2)

/-- A bag made of a list has each key once. -/
theorem keys_ofList_nodup (l : List (String × Value)) : (ofList l).keys.Nodup :=
  keys_override_nodup (b := []) List.nodup_nil l

/-- Overriding by entries under new keys, each once, appends them. -/
theorem override_of_nodup {b : Bag} {l : List (String × Value)}
    (distinct : (b.keys ++ l.map (·.1)).Nodup) : b.override l = b ++ l := by
  induction l generalizing b with
  | nil => simp [override]
  | cons kv rest ih =>
    -- The first entry's key is new, so it is appended, and the rest are new after it.
    have fresh : b.contains kv.1 = false := by
      refine contains_eq_false_iff.mpr fun member => ?_
      simp only [List.map_cons, List.nodup_append, List.nodup_cons] at distinct
      exact distinct.2.2 kv.1 member kv.1 List.mem_cons_self rfl
    have restDistinct : ((b ++ [kv]).keys ++ rest.map (·.1)).Nodup := by
      simpa [keys] using distinct
    simp only [override, List.foldl_cons, insert_of_not_contains fresh] at ih ⊢
    simpa using ih restDistinct

/-- A list whose keys are distinct is the bag it makes. -/
theorem ofList_of_nodup {l : List (String × Value)} (distinct : (l.map (·.1)).Nodup) :
    ofList l = l :=
  override_of_nodup (by simpa [keys] using distinct)

/-- Making a bag of a bag gives it back. -/
@[simp] theorem ofList_ofList (l : List (String × Value)) : ofList (ofList l) = ofList l :=
  ofList_of_nodup (keys_ofList_nodup l)

end Keys

end Bag

end ConsulLookup
