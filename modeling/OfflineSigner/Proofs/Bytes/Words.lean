import Mathlib.Algebra.Group.Nat.Defs
import OfflineSigner.Bytes.LittleEndian

/-!
# Runs of 64-bit numbers

A number that fits its width is read back from its bytes. A signed message ends with 64-bit numbers
that stand one after the other, each in eight bytes and without a mark between them. Their bytes
determine the numbers. Behind a front of unknown length they determine the numbers only once their
count is known; otherwise the longer run may begin inside the other front, by a whole number of
words.
-/

namespace OfflineSigner.LittleEndian

/-- A number that fits its width is read back. -/
theorem decode_encode (width value : Nat) (bound : value < 256 ^ width) :
    decode (encode width value) = value := by
  induction width generalizing value with
  | zero =>
    have : value < 1 := by simpa using bound
    simp only [encode, decode]
    omega
  | succ width ih =>
    have quotient : value / 256 < 256 ^ width := by
      rw [Nat.pow_succ] at bound
      omega
    have byte : (UInt8.ofNat (value % 256)).toNat = value % 256 := by
      rw [UInt8.toNat_ofNat']
      omega
    simp only [encode, decode, ih _ quotient, byte]
    omega

/-- A reading is bounded by the number of bytes read. -/
theorem decode_lt (bytes : List UInt8) : decode bytes < 256 ^ bytes.length := by
  induction bytes with
  | nil => simp [decode]
  | cons byte rest ih =>
    have small : byte.toNat < 256 := byte.toNat_lt
    simp only [decode, List.length_cons, Nat.pow_succ]
    omega

/-- A 64-bit number is read back from its eight bytes. -/
@[simp] theorem decode_ofUInt64 (value : UInt64) : decode (ofUInt64 value) = value.toNat :=
  decode_encode 8 value.toNat (by simpa using value.toNat_lt)

/-- The bytes of some 64-bit numbers, one after the other. -/
def ofWords (words : List UInt64) : List UInt8 :=
  words.flatMap ofUInt64

/-- Different numbers have different bytes. -/
theorem ofUInt64_injective : Function.Injective ofUInt64 := by
  intro a b h
  have hvalue : decode (ofUInt64 a) = decode (ofUInt64 b) := congrArg decode h
  rw [decode_ofUInt64, decode_ofUInt64] at hvalue
  exact UInt64.toNat_inj.mp hvalue

/-- The bytes of a first number stand before those of the others. -/
theorem ofWords_cons (word : UInt64) (words : List UInt64) :
    ofWords (word :: words) = ofUInt64 word ++ ofWords words :=
  List.flatMap_cons

/-- The bytes of two runs together are the bytes of one run. -/
theorem ofWords_append (first second : List UInt64) :
    ofWords (first ++ second) = ofWords first ++ ofWords second :=
  List.flatMap_append

/-- A run takes eight bytes for each of its numbers. -/
theorem length_ofWords (words : List UInt64) : (ofWords words).length = 8 * words.length := by
  induction words with
  | nil => rfl
  | cons word rest ih =>
    rw [ofWords_cons, List.length_append, length_ofUInt64, ih, List.length_cons]
    omega

/-- The bytes of a run determine its numbers, and thereby how many there are. -/
theorem ofWords_injective : Function.Injective ofWords := by
  intro a
  induction a with
  | nil =>
    intro b h
    have hlen := congrArg List.length h
    rw [length_ofWords, length_ofWords, List.length_nil] at hlen
    exact (List.length_eq_zero_iff.mp (by omega)).symm
  | cons first rest ih =>
    intro b h
    cases b with
    | nil =>
      have hlen := congrArg List.length h
      rw [length_ofWords, length_ofWords, List.length_cons, List.length_nil] at hlen
      omega
    | cons first' rest' =>
      rw [ofWords_cons, ofWords_cons] at h
      obtain ⟨hfirst, hrest⟩ := List.append_inj h (by rw [length_ofUInt64, length_ofUInt64])
      rw [ofUInt64_injective hfirst, ih hrest]

/-- Of two fronts that are followed by runs to the same bytes, the one before the shorter run is
the other one with the surplus numbers behind it. -/
theorem append_ofWords_shift {front front' : List UInt8} {words words' : List UInt64}
    (h : front ++ ofWords words = front' ++ ofWords words')
    (hlen : words.length ≤ words'.length) :
    ∃ surplus, words' = surplus ++ words ∧ front = front' ++ ofWords surplus := by
  have hsplit := List.take_append_drop (words'.length - words.length) words'
  have hdrop : (words'.drop (words'.length - words.length)).length = words.length := by
    rw [List.length_drop]
    omega
  rw [← hsplit, ofWords_append, ← List.append_assoc] at h
  obtain ⟨hfront, hwords⟩ := List.append_inj' h (by rw [length_ofWords, length_ofWords, hdrop])
  rw [← ofWords_injective hwords] at hsplit
  exact ⟨words'.take (words'.length - words.length), hsplit.symm, hfront⟩

/-- Runs of the same number of words behind free fronts leave no room for a shift. -/
theorem append_ofWords_inj {front front' : List UInt8} {words words' : List UInt64}
    (h : front ++ ofWords words = front' ++ ofWords words')
    (hlen : words.length = words'.length) : front = front' ∧ words = words' := by
  obtain ⟨hfront, hwords⟩ := List.append_inj' h (by rw [length_ofWords, length_ofWords, hlen])
  exact ⟨hfront, ofWords_injective hwords⟩

end OfflineSigner.LittleEndian
