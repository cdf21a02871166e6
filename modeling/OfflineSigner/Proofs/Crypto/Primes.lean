import Mathlib.Data.List.Prime
import Mathlib.NumberTheory.LucasPrimality
import Mathlib.Tactic.NormNum.Prime
import OfflineSigner.Crypto.Ed25519
import OfflineSigner.Proofs.Crypto.Power

/-!
# The two primes of the curve

The size of the field and the order of the base point are prime. Both are too large for trial
division, so they are certified: Lucas's test (`lucas_primality`) proves `p` prime from a number
whose `p - 1`-st power is one modulo `p` and whose `(p - 1) / q`-th powers are not, for the prime
factors `q` of `p - 1`, and these factors are certified by earlier lines of the same list.
-/

namespace OfflineSigner

/-- A line of a certificate: a number, the base of its powers and the prime factors of the number
before it, each as often as it divides it. -/
structure LucasLine where
  number : Nat
  base : Nat
  factors : List Nat

namespace LucasLine

/-- Lucas's test of a line, given the numbers already known to be prime. -/
def passes (known : List Nat) (line : LucasLine) : Bool :=
  let power := powerModulo line.number 256 line.base
  2 ≤ line.number && line.number < 1 <<< 256 && line.factors.prod == line.number - 1 &&
    power (line.number - 1) == 1 &&
    line.factors.all fun q => known.contains q && power ((line.number - 1) / q) != 1

/-- The number of a line that passes the test is prime. -/
theorem prime_of_passes {known : List Nat} {line : LucasLine}
    (hknown : ∀ q ∈ known, q.Prime) (h : line.passes known) : line.number.Prime := by
  simp only [passes, Bool.and_eq_true, decide_eq_true_eq, beq_iff_eq, List.all_eq_true,
    bne_iff_ne, List.contains_iff_mem, Nat.one_shiftLeft] at h
  obtain ⟨⟨⟨⟨htwo, hbits⟩, hproduct⟩, hfull⟩, hfactors⟩ := h
  have hpower : ∀ n ≤ line.number - 1, powerModulo line.number 256 line.base n = 1 ↔
      (line.base : ZMod line.number) ^ n = 1 := fun n hn => by
    rw [powerModulo_eq_iff htwo (by omega), Nat.cast_one]
  refine lucas_primality line.number line.base ((hpower _ le_rfl).mp hfull) ?_
  intro q hq hdivides
  rw [← hproduct, hq.prime.dvd_prod_iff] at hdivides
  obtain ⟨r, hr, hqr⟩ := hdivides
  obtain ⟨hrknown, hrpower⟩ := hfactors r hr
  obtain rfl := (Nat.prime_dvd_prime_iff_eq hq (hknown r hrknown)).mp hqr
  exact fun hone => hrpower ((hpower _ (Nat.div_le_self _ _)).mpr hone)

end LucasLine

/-- Tests the lines in order; the number of a line that passes is known from then on. -/
def certifies : List Nat → List LucasLine → Bool
  | _, [] => true
  | known, line :: lines => line.passes known && certifies (line.number :: known) lines

/-- Every number of a list of lines that pass is prime. -/
theorem prime_of_certifies {known : List Nat} {lines : List LucasLine}
    (hknown : ∀ q ∈ known, q.Prime) (h : certifies known lines) :
    ∀ line ∈ lines, line.number.Prime := by
  induction lines generalizing known with
  | nil => simp
  | cons line lines ih =>
    rw [certifies, Bool.and_eq_true] at h
    have hprime := LucasLine.prime_of_passes hknown h.1
    have hlater := ih (List.forall_mem_cons.mpr ⟨hprime, hknown⟩) h.2
    exact List.forall_mem_cons.mpr ⟨hprime, hlater⟩

/-- The primes below a million that the certificate begins from. -/
def smallPrimes : List Nat :=
  [2, 3, 5, 7, 11, 13, 19, 23, 31, 41, 43, 47, 73, 103, 107, 127, 223, 269, 307, 353, 991, 1361,
    2437, 2551, 2851, 3727, 4153, 5879, 30703, 57467, 65147, 75707, 82163, 132049, 132667, 137849,
    409477, 430751, 531581, 569003]

/-- They are prime, by trial division. -/
theorem prime_of_mem_smallPrimes : ∀ q ∈ smallPrimes, q.Prime := by
  simp only [smallPrimes, List.forall_mem_cons]
  norm_num

/-- The certificate of the size of the field and the order of the base point. -/
def curveCertificate : List LucasLine := [
  ⟨1224481, 13, [2, 2, 2, 2, 2, 3, 5, 2551]⟩,
  ⟨1923133, 2, [2, 2, 3, 43, 3727]⟩,
  ⟨8574133, 2, [2, 2, 3, 7, 103, 991]⟩,
  ⟨14741173, 2, [2, 2, 3, 3, 409477]⟩,
  ⟨58964693, 2, [2, 2, 14741173]⟩,
  ⟨292386187, 2, [2, 3, 3, 3, 3, 307, 5879]⟩,
  ⟨2773320623, 5, [2, 2437, 569003]⟩,
  ⟨72106336199, 7, [2, 13, 2773320623]⟩,
  ⟨213441916511, 13, [2, 5, 73, 292386187]⟩,
  ⟨1257559732178653, 2, [2, 2, 3, 7, 23, 531581, 1224481]⟩,
  ⟨1919519569386763, 2, [2, 3, 7, 19, 47, 47, 127, 8574133]⟩,
  ⟨31757755568855353, 10, [2, 2, 2, 3, 31, 107, 223, 4153, 430751]⟩,
  ⟨4434155615661930479, 17, [2, 41, 43, 1257559732178653]⟩,
  ⟨3044861653679985063343, 5, [2, 3, 11, 30703, 82163, 132667, 137849]⟩,
  ⟨172054593956031949258510691, 2, [2, 5, 1361, 2851, 4434155615661930479]⟩,
  ⟨198211423230930754013084525763697, 5,
    [2, 2, 2, 2, 3, 23, 58964693, 3044861653679985063343]⟩,
  ⟨75445702479781427272750846543864801, 7,
    [2, 2, 2, 2, 2, 3, 3, 5, 5, 75707, 72106336199, 1919519569386763]⟩,
  ⟨19757330305831588566944191468367130476339, 2,
    [2, 269, 213441916511, 172054593956031949258510691]⟩,
  ⟨276602624281642239937218680557139826668747, 2,
    [2, 7, 19757330305831588566944191468367130476339]⟩,
  ⟨74058212732561358302231226437062788676166966415465897661863160754340907, 2,
    [2, 3, 353, 57467, 132049, 1923133, 31757755568855353, 75445702479781427272750846543864801]⟩,
  ⟨Ed25519.order, 2,
    [2, 2, 3, 11, 198211423230930754013084525763697, 276602624281642239937218680557139826668747]⟩,
  ⟨fieldPrime, 2,
    [2, 2, 3, 65147, 74058212732561358302231226437062788676166966415465897661863160754340907]⟩]

/-- The numbers of the certificate are prime. -/
theorem prime_of_mem_curveCertificate {p : Nat}
    (h : p ∈ curveCertificate.map LucasLine.number) : p.Prime := by
  obtain ⟨line, hline, rfl⟩ := List.mem_map.mp h
  exact prime_of_certifies prime_of_mem_smallPrimes (by decide +kernel) line hline

/-- The field is one of prime size. -/
theorem prime_fieldPrime : fieldPrime.Prime :=
  prime_of_mem_curveCertificate (by simp [curveCertificate])

/-- The base point is to have prime order. -/
theorem Ed25519.prime_order : order.Prime :=
  prime_of_mem_curveCertificate (by simp [curveCertificate])

instance : Fact fieldPrime.Prime := ⟨prime_fieldPrime⟩

end OfflineSigner
