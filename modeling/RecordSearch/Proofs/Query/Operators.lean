import Mathlib.Data.List.Basic
import Mathlib.Data.List.TakeWhile
import RecordSearch.Query.Parse

/-! How the value of a date clause is split. The operator is the longest run at its beginning if
something stands behind the run, and otherwise the run without its last character. -/
namespace RecordSearch.Query

inductive IsSplit : Text → Option (Text × Text) → Prop
  | bare {value : Text} : (∀ c ∈ value.head?, isOperatorChar c = false) → IsSplit value none
  | alone {c : Char} : isOperatorChar c = true → IsSplit [c] none
  | short {operator : Text} {last : Char} : operator ≠ [] →
      (∀ c ∈ operator ++ [last], isOperatorChar c = true) →
      IsSplit (operator ++ [last]) (some (operator, [last]))
  | whole {operator target : Text} : operator ≠ [] → (∀ c ∈ operator, isOperatorChar c = true) →
      target ≠ [] →
      (∀ c ∈ target.head?, isOperatorChar c = false) →
        IsSplit (operator ++ target) (some (operator, target))

variable {value operator target : Text} {c last : Char}

theorem eq_of_isOperatorChar (known : isOperatorChar c = true) :
    c = '>' ∨ c = '<' ∨ c = '=' ∨ c = '!' := by
  simpa [isOperatorChar, or_assoc] using known

theorem takeWhile_operator (inside : ∀ c ∈ operator, isOperatorChar c = true)
    (ends : ∀ c ∈ target.head?, isOperatorChar c = false) :
    (operator ++ target).takeWhile isOperatorChar = operator := by
  rw [List.takeWhile_append_of_pos inside]
  cases target with
  | nil => simp
  | cons c target => simp [ends c rfl]

theorem dropWhile_operator (inside : ∀ c ∈ operator, isOperatorChar c = true)
    (ends : ∀ c ∈ target.head?, isOperatorChar c = false) :
    (operator ++ target).dropWhile isOperatorChar = target := by
  rw [List.dropWhile_append_of_pos inside]
  cases target with
  | nil => rfl
  | cons c target => simp [ends c rfl]

theorem exists_operator (value : Text) : ∃ operator target, value = operator ++ target ∧
    (∀ c ∈ operator, isOperatorChar c = true) ∧ ∀ c ∈ target.head?, isOperatorChar c = false := by
  have whole : value.takeWhile isOperatorChar ++ value.dropWhile isOperatorChar = value :=
    List.takeWhile_append_dropWhile
  refine ⟨_, _, whole.symm, fun c inside => List.mem_takeWhile_imp inside, fun c head => ?_⟩
  have stop := List.head?_dropWhile_not isOperatorChar value
  rwa [Option.mem_def.mp head] at stop

theorem splitOperator?_of_begins (begins : ∀ c ∈ value.head?, isOperatorChar c = false) :
    splitOperator? value = none := by
  cases value with
  | nil => rfl
  | cons c value => simp [splitOperator?, begins c rfl]

theorem splitOperator?_append (nonempty : operator ≠ [])
    (inside : ∀ c ∈ operator, isOperatorChar c = true) (followed : target ≠ [])
    (ends : ∀ c ∈ target.head?, isOperatorChar c = false) :
    splitOperator? (operator ++ target) = some (operator, target) := by
  have present : operator.isEmpty = false := by simpa using nonempty
  obtain ⟨c, target, rfl⟩ := List.exists_cons_of_ne_nil followed
  rw [splitOperator?, takeWhile_operator inside ends, dropWhile_operator inside ends, present]

/-- A run with nothing behind it gives up its last character, if that leaves an operator. -/
theorem splitOperator?_concat (inside : ∀ c ∈ operator ++ [last], isOperatorChar c = true) :
    splitOperator? (operator ++ [last]) =
      if operator = [] then none else some (operator, [last]) := by
  have taken : (operator ++ [last]).takeWhile isOperatorChar = operator ++ [last] :=
    List.takeWhile_eq_self_iff.mpr inside
  have left : (operator ++ [last]).dropWhile isOperatorChar = [] :=
    List.dropWhile_eq_nil_iff.mpr inside
  have present : (operator ++ [last]).isEmpty = false := by simp
  rw [splitOperator?, taken, left, present, List.reverse_append, List.reverse_singleton,
    List.singleton_append]
  cases turned : operator.reverse with
  | nil => simp [List.reverse_eq_nil_iff.mp turned]
  | cons c before =>
    have whole : operator = (c :: before).reverse := by rw [← turned, List.reverse_reverse]
    simp [whole]

theorem isSplit_splitOperator? (value : Text) : IsSplit value (splitOperator? value) := by
  obtain ⟨operator, target, rfl, inside, ends⟩ := exists_operator value
  by_cases empty : operator = []
  · subst empty
    rw [List.nil_append, splitOperator?_of_begins ends]
    exact .bare ends
  by_cases nothing : target = []
  · subst nothing
    obtain ⟨front, last, rfl⟩ := (List.eq_nil_or_concat' operator).resolve_left empty
    rw [List.append_nil, splitOperator?_concat inside]
    split
    · next single =>
      subst single
      exact .alone (inside last (by simp))
    · next long => exact .short long inside
  · rw [splitOperator?_append empty inside nothing ends]
    exact .whole empty inside nothing ends

theorem splitOperator?_eq_some (split : splitOperator? value = some (operator, target)) :
    operator ≠ [] ∧ ∀ c ∈ operator, isOperatorChar c = true := by
  have isSplit := isSplit_splitOperator? value
  rw [split] at isSplit
  cases isSplit with
  | short nonempty inside =>
    exact ⟨nonempty, fun c member => inside c (List.mem_append_left _ member)⟩
  | whole nonempty inside _ _ => exact ⟨nonempty, inside⟩

theorem append_of_splitOperator? (split : splitOperator? value = some (operator, target)) :
    value = operator ++ target := by
  have isSplit := isSplit_splitOperator? value
  rw [split] at isSplit
  cases isSplit with
  | short => rfl
  | whole => rfl

end RecordSearch.Query
