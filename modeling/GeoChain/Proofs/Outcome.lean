/-!
# Chained outcomes

A chain of checks succeeds exactly if each of them does.
-/

namespace GeoChain

namespace Outcome

variable {ε α β : Type}

theorem bind_eq_ok {first : Except ε α} {next : α → Except ε β} {result : β} :
    (first >>= next) = .ok result ↔ ∃ value, first = .ok value ∧ next value = .ok result := by
  cases first with
  | error cause => simp [bind, Except.bind]
  | ok value => simp [bind, Except.bind]

theorem map_eq_ok {f : α → β} {found : Except ε α} {result : β} :
    found.map f = .ok result ↔ ∃ value, found = .ok value ∧ f value = result := by
  cases found with
  | error cause => simp [Except.map]
  | ok value => simp [Except.map]

theorem toOption_eq_some {found : Except ε α} {value : α} :
    found.toOption = some value ↔ found = .ok value := by
  cases found with
  | error cause => simp [Except.toOption]
  | ok other => simp [Except.toOption]

@[simp] theorem ok_bind (value : α) (next : α → Except ε β) :
    (Except.ok value >>= next) = next value := rfl

@[simp] theorem error_bind (cause : ε) (next : α → Except ε β) :
    (Except.error cause >>= next) = .error cause := rfl

@[simp] theorem pure_eq (value : α) : (pure value : Except ε α) = .ok value := rfl

end Outcome

end GeoChain
