/-! Steps that may fail. A step gives a result or a fault, two steps give what the second makes of
the result of the first, and two runs are compared by whether they give results and how these are
related. -/
namespace RecordSearch

variable {α β ε : Type}

section

variable {fault : ε}

/-- Two steps give a result if the second gives it after the first. -/
theorem bind_eq_ok_iff {first : Except ε α} {next : α → Except ε β} {result : β} :
    (first >>= next) = .ok result ↔ ∃ a, first = .ok a ∧ next a = .ok result := by
  cases first with
  | error => simp [bind, Except.bind]
  | ok a => simp [bind, Except.bind]

/-- Two steps fail if the first does, or the second after it. -/
theorem bind_eq_error_iff {first : Except ε α} {next : α → Except ε β} :
    (first >>= next) = .error fault ↔
      first = .error fault ∨ ∃ a, first = .ok a ∧ next a = .error fault := by
  cases first with
  | error => simp [bind, Except.bind]
  | ok a => simp [bind, Except.bind]

theorem map_eq_ok_iff {result : Except ε α} {f : α → β} {value : β} :
    result.map f = .ok value ↔ ∃ a, result = .ok a ∧ f a = value := by
  cases result with
  | error => simp [Except.map]
  | ok a => simp [Except.map]

theorem map_eq_error_iff {result : Except ε α} {f : α → β} :
    result.map f = .error fault ↔ result = .error fault := by
  cases result with
  | error => simp [Except.map]
  | ok a => simp [Except.map]

end

variable {related : α → α → Prop} {first second : Option α} {next : α → Option β}

theorem isSome_eq_of_rel (both : Option.Rel related first second) :
    first.isSome = second.isSome := by
  cases both <;> rfl

theorem rel_bind {made : β → β → Prop} (both : Option.Rel related first second)
    (seen : ∀ a b, related a b → Option.Rel made (next a) (next b)) :
    Option.Rel made (first.bind next) (second.bind next) := by
  cases both with
  | none => exact .none
  | some here => exact seen _ _ here

theorem bind_eq_of_rel (both : Option.Rel related first second)
    (seen : ∀ a b, related a b → next a = next b) : first.bind next = second.bind next := by
  cases both with
  | none => rfl
  | some here => exact seen _ _ here

/-- Two results are related if both are there or neither is, and those that are there are
related. -/
theorem rel_toOption {first second : Except ε α}
    (success : (∃ a, first = .ok a) ↔ ∃ b, second = .ok b)
    (both : ∀ a b, first = .ok a → second = .ok b → related a b) :
    Option.Rel related first.toOption second.toOption := by
  cases first with
  | error =>
    cases second with
    | error => exact .none
    | ok b => simp at success
  | ok a =>
    cases second with
    | error => simp at success
    | ok b => exact .some (both a b rfl rfl)

end RecordSearch
