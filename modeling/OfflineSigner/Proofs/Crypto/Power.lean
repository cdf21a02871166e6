import Mathlib.Data.ZMod.Basic
import OfflineSigner.Crypto.Power

/-!
# What repeated combination computes

Doubling the value and halving the number comes to the same as combining the value again and again:
whatever holds of none and of one of it, and of `m + n` when it holds of `m` and of `n`, holds of
every number of it. A number known to have few bits allows a recursion on the bits, which evaluates
inside proofs.
-/

namespace OfflineSigner

variable {α : Type} {combine : α → α → α} {unit x : α}

/-- None of a value is the unit. -/
theorem power_zero : power combine unit x 0 = unit := by
  rw [power, if_pos rfl]

/-- A positive number of a value is halved. -/
theorem power_of_ne_zero {n : Nat} (h : n ≠ 0) :
    power combine unit x n =
      let half := power combine unit (combine x x) (n / 2)
      if n % 2 = 1 then combine x half else half := by
  rw [power, if_neg h]

/-- The induction that follows the halving of the number. -/
theorem power_induction {motive : Nat → α → Prop} (hunit : motive 0 unit) (hvalue : motive 1 x)
    (hcombine : ∀ m n a b, motive m a → motive n b → motive (m + n) (combine a b)) (n : Nat) :
    motive n (power combine unit x n) := by
  induction n using Nat.strong_induction_on generalizing motive x with
  | _ n ih =>
    by_cases hzero : n = 0
    · rwa [hzero, power_zero]
    · -- The recursive call counts in twos.
      have hhalf : motive (2 * (n / 2)) (power combine unit (combine x x) (n / 2)) := by
        refine ih (n / 2) (by omega) (motive := fun k a => motive (2 * k) a) hunit
          (hcombine 1 1 x x hvalue hvalue) fun k l a b ha hb => ?_
        rw [Nat.mul_add]
        exact hcombine _ _ a b ha hb
      rw [power_of_ne_zero hzero]
      dsimp only
      split
      case isTrue hodd =>
        have h := hcombine 1 _ x _ hvalue hhalf
        rwa [show 1 + 2 * (n / 2) = n by omega] at h
      case isFalse heven => rwa [show 2 * (n / 2) = n by omega] at hhalf

/-- Repeated combination by recursion on a bound on the bits of the number. -/
def powerWithin (combine : α → α → α) (unit : α) : Nat → α → Nat → α
  | 0, _, _ => unit
  | bits + 1, x, n =>
    let half := powerWithin combine unit bits (combine x x) (n / 2)
    if n % 2 = 1 then combine x half else half

/-- Both recursions agree on the numbers within the bound. -/
theorem powerWithin_eq_power {bits n : Nat} (h : n < 2 ^ bits) :
    powerWithin combine unit bits x n = power combine unit x n := by
  induction bits generalizing x n with
  | zero =>
    obtain rfl : n = 0 := by simpa using h
    rw [powerWithin, power_zero]
  | succ bits ih =>
    have hhalf : n / 2 < 2 ^ bits := by
      rw [Nat.pow_succ] at h
      omega
    rw [powerWithin, ih hhalf]
    by_cases hzero : n = 0
    · subst hzero
      rw [if_neg (by decide), Nat.zero_div, power_zero, power_zero]
    · rw [power_of_ne_zero hzero]

/-- A power modulo `m` of an exponent with at most `bits` bits. -/
def powerModulo (m bits a n : Nat) : Nat :=
  powerWithin (fun a b => a * b % m) (1 % m) bits a n

/-- It is a remainder. -/
theorem powerModulo_lt {m : Nat} (hm : 0 < m) (bits a n : Nat) : powerModulo m bits a n < m := by
  unfold powerModulo
  induction bits generalizing a n with
  | zero => exact Nat.mod_lt _ hm
  | succ bits ih =>
    rw [powerWithin]
    split
    · exact Nat.mod_lt _ hm
    · exact ih _ _

/-- It is the power in the ring of remainders. -/
theorem natCast_powerModulo {m bits a n : Nat} (h : n < 2 ^ bits) :
    (powerModulo m bits a n : ZMod m) = (a : ZMod m) ^ n := by
  rw [powerModulo, powerWithin_eq_power h]
  refine power_induction (motive := fun k (b : Nat) => (b : ZMod m) = (a : ZMod m) ^ k) ?_ ?_ ?_ n
  · simp
  · simp
  · intro k l b c hb hc
    rw [ZMod.natCast_mod, Nat.cast_mul, hb, hc, pow_add]

/-- Which remainder it is tells which power it is. -/
theorem powerModulo_eq_iff {m bits a n c : Nat} (hc : c < m) (h : n < 2 ^ bits) :
    powerModulo m bits a n = c ↔ (a : ZMod m) ^ n = c := by
  rw [← natCast_powerModulo h, ZMod.natCast_eq_natCast_iff', Nat.mod_eq_of_lt hc,
    Nat.mod_eq_of_lt (powerModulo_lt (by omega) bits a n)]

end OfflineSigner
