/-!
# Outcomes

Equations of computations that may fail, for taking a chain of steps apart.
-/

namespace CellPreview
namespace Outcome

variable {ε α β : Type}

@[simp] theorem ok_bind (value : α) (next : α -> Except ε β) :
    (Except.ok value >>= next) = next value := rfl

@[simp] theorem error_bind (cause : ε) (next : α -> Except ε β) :
    (Except.error cause >>= next) = Except.error cause := rfl

@[simp] theorem pure_eq_ok (value : α) :
    (pure value : Except ε α) = .ok value := rfl

@[simp] theorem throw_eq_error (cause : ε) :
    (throw cause : Except ε α) = .error cause := rfl

/-- A chain of two steps succeeds when both do. -/
theorem bind_eq_ok_iff
    {first : Except ε α}
    {next : α -> Except ε β}
    {result : β} :
    (first >>= next) = .ok result ↔
      ∃ value, first = .ok value ∧ next value = .ok result := by
  cases first <;> simp

/-- A chain of two steps fails when the first does, or the second for the value
of the first. -/
theorem bind_eq_error_iff
    {first : Except ε α}
    {next : α -> Except ε β}
    {cause : ε} :
    (first >>= next) = .error cause ↔ first = .error cause ∨
      ∃ value, first = .ok value ∧ next value = .error cause := by
  cases first <;> simp

/-- Another way of saying why a computation fails does not make it succeed. -/
theorem mapError_eq_ok_iff
    {ε' : Type}
    {computation : Except ε α}
    {change : ε -> ε'}
    {result : α} :
    computation.mapError change = .ok result ↔ computation = .ok result := by
  cases computation <;> constructor <;> rintro ⟨⟩ <;> rfl

/-- Second steps that agree on the value of the first may be exchanged. -/
theorem bind_congr
    {first : Except ε α}
    {next other : α -> Except ε β}
    (same : ∀ value, first = .ok value -> next value = other value) :
    (first >>= next) = (first >>= other) := by
  cases first with
  | error cause => rfl
  | ok value => exact same value rfl

end Outcome
end CellPreview
