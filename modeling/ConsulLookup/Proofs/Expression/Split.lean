import Mathlib.Data.List.DropRight
import Mathlib.Data.List.TakeDrop
import ConsulLookup.Expression

/-! Splitting an expression at its first `?`, and back. -/

namespace ConsulLookup

namespace Expression

/-- A name an expression can carry before its `?`: not empty, without a `?`, and without a blank
at either end, so that splitting the expression gives it back. -/
def Carries (n : String) : Prop :=
  n.toList ≠ [] ∧ '?' ∉ n.toList ∧ Text.trimWith Text.isBlank n.toList = n.toList

instance : DecidablePred Carries :=
  fun _ => inferInstanceAs (Decidable (_ ∧ _ ∧ _))

section Trimming

variable {p : Char → Bool}

/-- Trailing characters are dropped from the end of a text only, past a character that stays. -/
theorem dropTrailing_append_kept {c : Char} (stays : p c = false) (before after : List Char) :
    Text.dropTrailing p (before ++ c :: after) = before ++ c :: Text.dropTrailing p after := by
  simp only [Text.dropTrailing, List.reverse_append, List.reverse_cons, List.append_assoc,
    List.singleton_append, List.dropWhile_append]
  -- Whether or not the end was all dropped, what is left of it comes before the kept character.
  split
  · rename_i allDropped
    rw [List.isEmpty_iff.mp allDropped, List.dropWhile_cons_of_neg (by simp [stays])]
    simp
  · simp

/-- Dropping from the end a second time drops nothing more. -/
theorem dropTrailing_dropTrailing (p : Char → Bool) (cs : List Char) :
    Text.dropTrailing p (Text.dropTrailing p cs) = Text.dropTrailing p cs := by
  simp [Text.dropTrailing, List.dropWhile_idempotent]

/-- A first character that stays is never dropped from the end. -/
theorem dropTrailing_cons_kept {c : Char} (stays : p c = false) (cs : List Char) :
    Text.dropTrailing p (c :: cs) = c :: Text.dropTrailing p cs := by
  simpa using dropTrailing_append_kept stays [] cs

/-- A text whose first character stays keeps it in front when trimmed. -/
theorem trimWith_cons_kept {c : Char} (stays : p c = false) (cs : List Char) :
    Text.trimWith p (c :: cs) = c :: Text.dropTrailing p cs := by
  rw [Text.trimWith, List.dropWhile_cons_of_neg (by simp [stays]), dropTrailing_cons_kept stays]

/-- A trimmed text starts with a character that stays. -/
theorem head_trimWith {cs rest : List Char} {c : Char}
    (trimmed : Text.trimWith p cs = c :: rest) : p c = false := by
  -- The front is dropped first: what is left starts with a character that stays, and dropping
  -- from the end keeps that character in front.
  cases front : cs.dropWhile p with
  | nil => simp [Text.trimWith, front, Text.dropTrailing] at trimmed
  | cons d ds =>
    have stays : p d = false := by
      simpa [front] using List.head_dropWhile_not p (l := cs) (by simp [front])
    rw [Text.trimWith, front, dropTrailing_cons_kept stays, List.cons.injEq] at trimmed
    exact trimmed.1 ▸ stays

/-- Trimming a trimmed text changes nothing. -/
theorem trimWith_trimWith (p : Char → Bool) (cs : List Char) :
    Text.trimWith p (Text.trimWith p cs) = Text.trimWith p cs := by
  cases trimmed : Text.trimWith p cs with
  | nil => rfl
  | cons c rest =>
    -- Its front stays, and its end was already dropped from.
    have ended : Text.dropTrailing p (c :: rest) = c :: rest := by
      rw [← trimmed, Text.trimWith, dropTrailing_dropTrailing]
    rw [Text.trimWith, List.dropWhile_cons_of_neg (by simp [head_trimWith trimmed]), ended]

/-- Trimming keeps characters of the text only. -/
theorem mem_of_mem_trimWith {a : Char} {cs : List Char} (kept : a ∈ Text.trimWith p cs) :
    a ∈ cs := by
  simp only [Text.trimWith, Text.dropTrailing, List.mem_reverse] at kept
  exact (List.dropWhile_sublist p).subset (List.mem_reverse.mp ((List.dropWhile_sublist p).subset kept))

end Trimming

/-- The characters of a trimmed expression. -/
theorem toList_trimBlank (x : String) :
    (Text.trimBlank x).toList = Text.trimWith Text.isBlank x.toList := by
  simp [Text.trimBlank]

/-- Without a separator in a text, all of it comes before one. -/
theorem span_unmarked {sep : Char} {cs : List Char} (unmarked : sep ∉ cs) :
    cs.span (· ≠ sep) = (cs, []) := by
  have before : ∀ x ∈ cs, decide (x ≠ sep) = true := by
    intro x member
    have other : x ≠ sep := fun same => unmarked (same ▸ member)
    simpa using other
  rw [List.span_eq_takeWhile_dropWhile, List.takeWhile_eq_self_iff.mpr before,
    List.dropWhile_eq_nil_iff.mpr before]

/-- A text is cut at its first separator. -/
theorem span_first_mark {sep : Char} {pre post : List Char} (first : sep ∉ pre) :
    (pre ++ sep :: post).span (· ≠ sep) = (pre, sep :: post) := by
  have before : ∀ x ∈ pre, decide (x ≠ sep) = true := by
    intro x member
    have other : x ≠ sep := fun same => first (same ▸ member)
    simpa using other
  rw [List.span_eq_takeWhile_dropWhile, List.takeWhile_append_of_pos before,
    List.dropWhile_append_of_pos before]
  simp

/-- A blank expression is refused as empty. -/
theorem splitText_of_blank {x : String} (blank : Text.trimBlank x = "") :
    splitText x = .error ⟨"", .empty⟩ := by
  simp [splitText, blank]

/-- A trimmed expression without a `?` is all operation. -/
theorem splitText_of_unmarked {x : String} (filled : Text.trimBlank x ≠ "")
    (unmarked : '?' ∉ (Text.trimBlank x).toList) :
    splitText x = .ok (Text.trimBlank x, "") := by
  have nonempty : (Text.trimBlank x).toList.isEmpty = false :=
    List.isEmpty_eq_false_iff.mpr fun empty => filled (String.toList_eq_nil_iff.mp empty)
  simp only [splitText, nonempty, Bool.false_eq_true, ↓reduceIte, span_unmarked unmarked]

/-- A trimmed expression with a `?` is cut at the first one. Nothing in front of it is a missing
operation; anything in front starts with a character that is no blank, so trimmed it is still an
operation. -/
theorem splitText_of_first_mark {x : String} {pre post : List Char}
    (spelled : (Text.trimBlank x).toList = pre ++ '?' :: post) (first : '?' ∉ pre) :
    splitText x = if pre = [] then .error ⟨Text.trimBlank x, .missingOperation⟩
      else .ok (Text.trimBlank (String.ofList pre), String.ofList post) := by
  simp only [splitText, spelled, span_first_mark first]
  cases pre with
  | nil => simp [Text.trimWith, Text.dropTrailing]
  | cons c rest =>
    -- The first character of a trimmed text is no blank.
    have stays : Text.isBlank c = false := by
      rw [toList_trimBlank] at spelled
      exact head_trimWith spelled
    simp [trimWith_cons_kept stays, Text.trimBlank]

/-- A value that is no text is refused, shown in its written form. -/
theorem split_of_not_text {v : Value} (notText : v.str? = none) :
    split v = .error ⟨v.written, .notText⟩ := by
  cases v <;> simp_all [split, Value.str?]

/-- A text splits as its characters do. -/
@[simp] theorem split_str (x : String) : split (.str x) = splitText x :=
  rfl

/-- An expression made of a carried name, a `?` and a query splits into the name and the query,
less the blanks at its end. -/
theorem splitText_carried {n : String} (carried : Carries n) (q : String) :
    splitText (n ++ "?" ++ q) =
      .ok (n, String.ofList (Text.dropTrailing Text.isBlank q.toList)) := by
  obtain ⟨nonempty, unmarked, trimmed⟩ := carried
  obtain ⟨c, cs, spelled⟩ := List.exists_cons_of_ne_nil nonempty
  have mark : Text.isBlank '?' = false := by decide
  -- The name has no blank in front, and the `?` keeps the blanks of the query's end from it.
  have front : Text.isBlank c = false := head_trimWith (spelled ▸ trimmed)
  have written : (n ++ "?" ++ q).toList = n.toList ++ '?' :: q.toList := by
    simp
  have trim : Text.trimWith Text.isBlank (n ++ "?" ++ q).toList =
      n.toList ++ '?' :: Text.dropTrailing Text.isBlank q.toList := by
    rw [Text.trimWith, written, spelled, List.cons_append,
      List.dropWhile_cons_of_neg (by simp [front]), ← List.cons_append, ← spelled,
      dropTrailing_append_kept mark]
  simp only [splitText, Text.trimBlank, trim, String.toList_ofList, span_first_mark unmarked,
    trimmed, String.ofList_toList]
  simp [nonempty]

/-- A name an expression can carry is all operation on its own. -/
theorem splitText_carried_alone {n : String} (carried : Carries n) : splitText n = .ok (n, "") := by
  obtain ⟨nonempty, unmarked, trimmed⟩ := carried
  have same : Text.trimBlank n = n := by
    rw [Text.trimBlank, trimmed, String.ofList_toList]
  have filled : Text.trimBlank n ≠ "" := by
    rw [same]
    exact fun empty => nonempty (by simp [empty])
  have unmarked' : '?' ∉ (Text.trimBlank n).toList := by
    rwa [same]
  rw [splitText_of_unmarked filled unmarked', same]

/-- What a text can split into: it is blank; or it has no `?` and is all operation; or it starts
with a `?` and misses its operation; or something stands in front of its first `?`. -/
theorem splitText_cases (x : String) :
    (Text.trimBlank x = "" ∧ splitText x = .error ⟨"", .empty⟩) ∨
    (Text.trimBlank x ≠ "" ∧ '?' ∉ (Text.trimBlank x).toList ∧
      splitText x = .ok (Text.trimBlank x, "")) ∨
    (∃ post, (Text.trimBlank x).toList = '?' :: post ∧
      splitText x = .error ⟨Text.trimBlank x, .missingOperation⟩) ∨
    (∃ pre post, (Text.trimBlank x).toList = pre ++ '?' :: post ∧ '?' ∉ pre ∧ pre ≠ [] ∧
      splitText x = .ok (Text.trimBlank (String.ofList pre), String.ofList post)) := by
  by_cases blank : Text.trimBlank x = ""
  · exact .inl ⟨blank, splitText_of_blank blank⟩
  by_cases marked : '?' ∈ (Text.trimBlank x).toList
  · -- The text is cut at its first `?`; what stands in front decides the outcome.
    obtain ⟨pre, post, spelled, first⟩ := List.eq_append_cons_of_mem marked
    have cut := splitText_of_first_mark spelled first
    cases pre with
    | nil => exact .inr (.inr (.inl ⟨post, spelled, by simpa using cut⟩))
    | cons c rest =>
      exact .inr (.inr (.inr ⟨c :: rest, post, spelled, first, by simp, by simpa using cut⟩))
  · exact .inr (.inl ⟨blank, marked, splitText_of_unmarked blank marked⟩)

/-- What stands in front of the first `?` of a trimmed text, trimmed again, is an operation an
expression can carry. -/
theorem carries_of_first_mark {x : String} {pre post : List Char}
    (spelled : (Text.trimBlank x).toList = pre ++ '?' :: post) (first : '?' ∉ pre)
    (filled : pre ≠ []) : Carries (Text.trimBlank (String.ofList pre)) := by
  obtain ⟨c, rest, rfl⟩ := List.exists_cons_of_ne_nil filled
  -- The first character of a trimmed text is no blank, so trimming keeps it.
  have stays : Text.isBlank c = false := by
    rw [toList_trimBlank] at spelled
    exact head_trimWith spelled
  refine ⟨by simp [toList_trimBlank, trimWith_cons_kept stays], fun marked => ?_, ?_⟩
  · rw [toList_trimBlank, String.toList_ofList] at marked
    exact first (mem_of_mem_trimWith marked)
  · rw [toList_trimBlank, trimWith_trimWith]

/-- A trimmed text with no `?` in it is an operation an expression can carry. -/
theorem carries_of_unmarked {x : String} (filled : Text.trimBlank x ≠ "")
    (unmarked : '?' ∉ (Text.trimBlank x).toList) : Carries (Text.trimBlank x) :=
  ⟨fun empty => filled (String.toList_eq_nil_iff.mp empty), unmarked,
    by rw [toList_trimBlank, trimWith_trimWith]⟩

/-- A value is refused exactly when it is no text, or is blank or starts with a `?` once
trimmed. -/
theorem split_refused_iff (v : Value) :
    (∃ e, split v = .error e) ↔ v.str? = none ∨
      ∃ x, v = .str x ∧ (Text.trimBlank x = "" ∨ (Text.trimBlank x).toList.head? = some '?') := by
  cases v with
  | str x =>
    simp only [split_str, Value.str?, reduceCtorEq, Value.str.injEq, exists_eq_left', false_or]
    rcases splitText_cases x with ⟨blank, split⟩ | ⟨filled, unmarked, split⟩ |
      ⟨post, spelled, split⟩ | ⟨pre, post, spelled, first, filled, split⟩
    · simp [split, blank]
    · -- An operation is given, and the text has no `?` to start with.
      have unstarted : (Text.trimBlank x).toList.head? ≠ some '?' := fun started =>
        unmarked (List.mem_of_mem_head? started)
      simp [split, filled, unstarted]
    · simp [split, spelled]
    · -- Something stands in front of the first `?`, so the text starts with something else.
      obtain ⟨c, rest, rfl⟩ := List.exists_cons_of_ne_nil filled
      have other : c ≠ '?' := fun same => first (same ▸ List.mem_cons_self)
      have filled : Text.trimBlank x ≠ "" := fun blank => by simp [blank] at spelled
      simp [split, filled, spelled, other]
  | _ => exact iff_of_true ⟨_, split_of_not_text rfl⟩ (.inl rfl)

/-- The operation of a split expression is one that an expression can carry. -/
theorem carries_of_split {v : Value} {op q : String} (split : Expression.split v = .ok (op, q)) :
    Carries op := by
  cases v with
  | str x =>
    rcases splitText_cases x with ⟨_, refused⟩ | ⟨filled, unmarked, answer⟩ |
      ⟨_, _, refused⟩ | ⟨pre, post, spelled, first, filled, answer⟩
    · simp [refused] at split
    · rw [split_str, answer, Except.ok.injEq, Prod.mk.injEq] at split
      exact split.1 ▸ carries_of_unmarked filled unmarked
    · simp [refused] at split
    · rw [split_str, answer, Except.ok.injEq, Prod.mk.injEq] at split
      exact split.1 ▸ carries_of_first_mark spelled first filled
  | _ =>
    rw [split_of_not_text rfl] at split
    cases split

/-- An operation is refused as missing only when the trimmed text starts with its `?`: a blank
operation in front of a later `?` never occurs. -/
theorem missing_operation_in_front {v : Value} {e : ExpressionError}
    (refused : split v = .error e) (missing : e.fault = .missingOperation) :
    ∃ x post, v = .str x ∧ (Text.trimBlank x).toList = '?' :: post := by
  cases v with
  | str x =>
    rcases splitText_cases x with ⟨_, answer⟩ | ⟨_, _, answer⟩ | ⟨post, spelled, _⟩ |
      ⟨_, _, _, _, _, answer⟩
    · rw [split_str, answer, Except.error.injEq] at refused
      simp [← refused] at missing
    · simp [answer] at refused
    · exact ⟨x, post, rfl, spelled⟩
    · simp [answer] at refused
  | _ =>
    rw [split_of_not_text (by simp [Value.str?]), Except.error.injEq] at refused
    simp [← refused] at missing

/-- An expression is refused exactly when it is no text, blank, or starts with a `?` once
trimmed; otherwise it splits at its first `?`, and an operation it can carry splits back out. -/
theorem split_at_first_mark :
    (∀ v : Value, (∃ e, split v = .error e) ↔ v.str? = none ∨
      ∃ x, v = .str x ∧ (Text.trimBlank x = "" ∨ (Text.trimBlank x).toList.head? = some '?')) ∧
    (∀ x : String, Text.trimBlank x ≠ "" → '?' ∉ (Text.trimBlank x).toList →
      split (.str x) = .ok (Text.trimBlank x, "")) ∧
    (∀ (x : String) (pre post : List Char), (Text.trimBlank x).toList = pre ++ '?' :: post →
      '?' ∉ pre → pre ≠ [] →
      split (.str x) = .ok (Text.trimBlank (String.ofList pre), String.ofList post)) ∧
    (∀ v op q, split v = .ok (op, q) → Carries op) ∧
    (∀ v e, split v = .error e → e.fault = .missingOperation →
      ∃ x post, v = .str x ∧ (Text.trimBlank x).toList = '?' :: post) ∧
    (∀ op q, Carries op →
      split (.str (op ++ "?" ++ q)) =
        .ok (op, String.ofList (Text.dropTrailing Text.isBlank q.toList)) ∧
      split (.str op) = .ok (op, "")) := by
  refine ⟨split_refused_iff, fun x filled unmarked => ?_, fun x pre post spelled first filled => ?_,
    fun v op q split => carries_of_split split,
    fun v e refused missing => missing_operation_in_front refused missing,
    fun op q carried => ?_⟩
  · rw [split_str, splitText_of_unmarked filled unmarked]
  · rw [split_str, splitText_of_first_mark spelled first, if_neg filled]
  · rw [split_str, split_str, splitText_carried carried q, splitText_carried_alone carried]
    exact ⟨rfl, rfl⟩

end Expression

end ConsulLookup
