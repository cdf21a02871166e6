/-!
# Repeated combination

The combination of a value with itself a given number of times, by doubling the value and halving
the number. Field powers and multiples of curve points are computed with it.
-/

namespace OfflineSigner

/-- The value combined with itself `n` times; none at all gives the unit. -/
def power {α : Type} (combine : α → α → α) (unit : α) (x : α) (n : Nat) : α :=
  if n = 0 then unit
  else
    let half := power combine unit (combine x x) (n / 2)
    if n % 2 = 1 then combine x half else half
termination_by n

end OfflineSigner
