import ConsulLookup.Query
import ConsulLookup.Proofs.Expression.Split
import ConsulLookup.Proofs.Value.Override

/-! Query decoding, one `&`-separated segment at a time. -/

namespace ConsulLookup.Query

/-- Splitting no query gives one empty segment, which is skipped anyway. -/
theorem filterMap_segments {β : Type} (f : List Char → Option β) (skipped : f [] = none)
    (q : String) :
    (if q.isEmpty = true then [] else q.toList.splitOn '&').filterMap f =
      (q.toList.splitOn '&').filterMap f := by
  by_cases empty : q.isEmpty = true
  · have blank : q = "" := by simpa using empty
    subst blank
    simp [skipped]
  · rw [if_neg empty]

/-- The pairs of two queries joined by a `&` are those of the first, then those of the second. -/
theorem pairs_append (keepBlank : Bool) (q₁ q₂ : String) :
    pairs keepBlank (q₁ ++ "&" ++ q₂) = pairs keepBlank q₁ ++ pairs keepBlank q₂ := by
  have cut : (q₁ ++ "&" ++ q₂).toList.splitOn '&' = q₁.toList.splitOn '&' ++ q₂.toList.splitOn '&' := by
    rw [show (q₁ ++ "&" ++ q₂).toList = q₁.toList ++ '&' :: q₂.toList by simp,
      List.splitOn_append_cons_self]
  simp only [pairs]
  -- The segments of the joined query are those of its two parts; an empty one yields no pair.
  rw [filterMap_segments, filterMap_segments, filterMap_segments, cut, List.filterMap_append]
  all_goals rfl

/-- A segment split at its first `=`. -/
theorem splitPair_first_eq {name value : List Char} (first : '=' ∉ name) :
    splitPair (name ++ '=' :: value) = (name, some value) := by
  unfold splitPair
  rw [Expression.span_first_mark first]

/-- A segment without `=` is a name alone. -/
theorem splitPair_unnamed {segment : List Char} (unnamed : '=' ∉ segment) :
    splitPair segment = (segment, none) := by
  unfold splitPair
  rw [Expression.span_unmarked unnamed]

/-- A query without `&` is one segment. -/
theorem pairs_segment (keepBlank : Bool) {s : String} (single : '&' ∉ s.toList) (filled : s ≠ "") :
    pairs keepBlank s = (match splitPair s.toList with
      | (name, some value) =>
        if value.isEmpty && !keepBlank then [] else [(decodePart name, decodePart value)]
      | (name, none) => if keepBlank then [(decodePart name, "")] else []) := by
  have nonempty : s.toList ≠ [] := fun empty => filled (String.toList_eq_nil_iff.mp empty)
  have notEmpty : s.isEmpty = false := by simpa using filled
  simp only [pairs, notEmpty, Bool.false_eq_true, if_false, List.splitOn_eq_singleton single,
    List.filterMap_cons, List.filterMap_nil, List.isEmpty_eq_false_iff.mpr nonempty]
  split <;> split <;> simp_all

/-- The bag of two queries joined by a `&` is the bag of the first overridden by that of the
second. -/
theorem decode_append (q₁ q₂ : String) :
    decode (q₁ ++ "&" ++ q₂) = (decode q₁).override (decode q₂) := by
  unfold decode
  -- Both sides set the pairs of the first query, then those of the second.
  rw [pairs_append, List.map_append, Bag.override_ofList]
  exact Bag.override_append [] _ _

/-- A segment with an `=` decodes to its name and the value after the first `=`. -/
theorem decode_named {s : String} {name value : List Char} (single : '&' ∉ s.toList)
    (spelled : s.toList = name ++ '=' :: value) (first : '=' ∉ name) :
    decode s = [(decodePart name, .str (decodePart value))] := by
  have filled : s ≠ "" := fun empty => by simp [empty] at spelled
  simp only [decode, pairs_segment true single filled, spelled, splitPair_first_eq first]
  simp [Bag.ofList, Bag.override, Bag.insert, Bag.contains]

/-- A segment without an `=` decodes to its name with an empty value. -/
theorem decode_unnamed {s : String} (single : '&' ∉ s.toList) (unnamed : '=' ∉ s.toList)
    (filled : s ≠ "") : decode s = [(decodePart s.toList, .str "")] := by
  simp only [decode, pairs_segment true single filled, splitPair_unnamed unnamed]
  simp [Bag.ofList, Bag.override, Bag.insert, Bag.contains]

/-- Decoding two queries joined by a `&` is decoding the first overridden by the second; a
segment decodes to its name and the value after its first `=`, each part percent-decoded. -/
theorem decode_by_segments :
    (∀ q₁ q₂, decode (q₁ ++ "&" ++ q₂) = (decode q₁).override (decode q₂)) ∧
    decode "" = [] ∧
    (∀ (s : String) (name value : List Char), '&' ∉ s.toList →
      s.toList = name ++ '=' :: value → '=' ∉ name →
      decode s = [(decodePart name, .str (decodePart value))]) ∧
    (∀ s : String, '&' ∉ s.toList → '=' ∉ s.toList → s ≠ "" →
      decode s = [(decodePart s.toList, .str "")]) :=
  ⟨decode_append, rfl, fun _ _ _ single spelled first => decode_named single spelled first,
    fun _ single unnamed filled => decode_unnamed single unnamed filled⟩

/-- Escaped `=` and `&` stay inside their part, `+` is a space while an escaped `+` is not, and
empty segments are skipped. -/
example : pairs true "a%3Db=c%26d&e&&x=1+%2B" = [("a=b", "c&d"), ("e", ""), ("x", "1 +")] := by
  decide +kernel

end ConsulLookup.Query
