/-!
# Byte sequences of a fixed length

Addresses, asset ids, seeds and signatures are byte sequences whose length is part of their
meaning. The length is carried in the type, so a value of the wrong length cannot be passed on;
the list of bytes is the only view of the type.
-/

namespace OfflineSigner

/-- A sequence of exactly `n` bytes. -/
structure FixedBytes (n : Nat) where
  toList : List UInt8
  length_toList : toList.length = n
deriving DecidableEq

namespace FixedBytes

variable {n : Nat}

/-- The bytes themselves when there are `n` of them. -/
def ofList? (bytes : List UInt8) : Option (FixedBytes n) :=
  if h : bytes.length = n then some ⟨bytes, h⟩ else none

/-- One byte repeated `n` times. -/
def replicate (n : Nat) (byte : UInt8) : FixedBytes n :=
  ⟨List.replicate n byte, List.length_replicate⟩

/-- Two sequences with the same bytes are equal. -/
theorem ext {a b : FixedBytes n} (h : a.toList = b.toList) : a = b := by
  cases a
  cases b
  cases h
  rfl

/-- Rebuilding a sequence from its bytes gives it back. -/
@[simp] theorem ofList?_toList (a : FixedBytes n) : ofList? a.toList = some a := by
  simp [ofList?, a.length_toList]

/-- A list is accepted exactly when it is the byte list of the answer. -/
theorem ofList?_eq_some_iff {bytes : List UInt8} {a : FixedBytes n} :
    ofList? bytes = some a ↔ a.toList = bytes := by
  constructor
  · intro h
    unfold ofList? at h
    split at h
    · cases h
      rfl
    · contradiction
  · rintro rfl
    exact ofList?_toList a

/-- A list is refused exactly when its length is not `n`. -/
theorem ofList?_eq_none_iff {bytes : List UInt8} :
    (ofList? bytes : Option (FixedBytes n)) = none ↔ bytes.length ≠ n := by
  unfold ofList?
  split <;> simp_all

end FixedBytes

end OfflineSigner
