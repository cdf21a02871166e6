/-!
# Little-endian numbers

A number is written with its lowest byte first. `encode` keeps the low `width` bytes and `decode`
reads any number of bytes; on numbers that fit the two are inverse to each other, and an encoding
always has the width it was asked for.
-/

namespace OfflineSigner.LittleEndian

/-- The low `width` bytes of a number, lowest first. -/
def encode : Nat → Nat → List UInt8
  | 0, _ => []
  | width + 1, value => UInt8.ofNat (value % 256) :: encode width (value / 256)

/-- The number whose bytes these are, lowest first. -/
def decode : List UInt8 → Nat
  | [] => 0
  | byte :: rest => byte.toNat + 256 * decode rest

/-- The eight bytes of a 64-bit number. -/
def ofUInt64 (value : UInt64) : List UInt8 :=
  encode 8 value.toNat

/-- An encoding has exactly the width asked for. -/
@[simp] theorem length_encode (width value : Nat) : (encode width value).length = width := by
  induction width generalizing value with
  | zero => rfl
  | succ width ih => simp [encode, ih]

/-- Bytes that are read are written back at their own width. -/
theorem encode_decode (bytes : List UInt8) : encode bytes.length (decode bytes) = bytes := by
  induction bytes with
  | nil => rfl
  | cons byte rest ih =>
    have small : byte.toNat < 256 := byte.toNat_lt
    have low : (byte.toNat + 256 * decode rest) % 256 = byte.toNat := by omega
    have high : (byte.toNat + 256 * decode rest) / 256 = decode rest := by omega
    simp only [List.length_cons, encode, decode, low, high, ih, UInt8.ofNat_toNat]

/-- A 64-bit number takes eight bytes. -/
@[simp] theorem length_ofUInt64 (value : UInt64) : (ofUInt64 value).length = 8 :=
  length_encode 8 value.toNat

end OfflineSigner.LittleEndian
