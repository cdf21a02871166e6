import OfflineSigner.Bytes.Fixed
import OfflineSigner.Bytes.Utf8
import OfflineSigner.Proofs.Bytes.Words

/-!
# Reading by position

A reader that knows where a field stands takes as many bytes as the field is wide, and finds nothing
when the bytes end before. Finding a value at a position means that the bytes from there on begin
with it, so a chain of fields that are read one behind the other spells out the bytes. A run of
64-bit numbers is read to its end, where no byte may be left over.
-/

namespace OfflineSigner

/-- The text's bytes are those of its encoding in memory. -/
theorem utf8_eq_toUTF8 (text : String) : utf8 text = text.toUTF8.data.toList := by
  rw [String.toUTF8, ← String.utf8Encode_toList, List.utf8Encode, List.data_toByteArray]
  rfl

/-- A text is known from its bytes. -/
theorem utf8_injective : Function.Injective utf8 := by
  intro text text' h
  rw [utf8_eq_toUTF8, utf8_eq_toUTF8, Array.toList_inj, ByteArray.ext_iff.symm] at h
  exact String.toByteArray_inj.mp h

namespace List

variable {bytes front rest : List UInt8} {position width : Nat}

/-- What stands at a position and what stands behind it make up the bytes from there on. -/
theorem drop_eq_append_iff (hwidth : front.length = width) :
    bytes.drop position = front ++ rest ↔
      (bytes.drop position).take width = front ∧ bytes.drop (position + width) = rest := by
  rw [← List.drop_drop]
  constructor
  · intro h
    rw [h]
    exact ⟨List.take_left' hwidth, List.drop_left' hwidth⟩
  · rintro ⟨rfl, rfl⟩
    rw [List.take_append_drop]

/-- The same for a single byte. -/
theorem drop_eq_cons_iff {byte : UInt8} :
    bytes.drop position = byte :: rest ↔
      bytes[position]? = some byte ∧ bytes.drop (position + 1) = rest := by
  rw [← List.drop_drop, ← Nat.add_zero position, ← List.getElem?_drop, Nat.add_zero]
  cases bytes.drop position <;> simp

end List

namespace FixedBytes

variable {n : Nat} {position : Nat} {bytes rest : List UInt8} {value : FixedBytes n}

/-- The `n` bytes at a position. -/
def readAt? (position : Nat) (bytes : List UInt8) : Option (FixedBytes n) :=
  ofList? ((bytes.drop position).take n)

/-- A byte sequence stands at a position exactly when it is read there; what is behind it follows. -/
theorem drop_eq_append_iff :
    bytes.drop position = value.toList ++ rest ↔
      readAt? position bytes = some value ∧ bytes.drop (position + n) = rest := by
  rw [List.drop_eq_append_iff value.length_toList, readAt?, ofList?_eq_some_iff, eq_comm]

end FixedBytes

namespace LittleEndian

variable {position : Nat} {bytes : List UInt8} {word : UInt64} {numbers : List UInt64}

/-- The 64-bit number of eight bytes. -/
def toUInt64 (bytes : FixedBytes 8) : UInt64 :=
  UInt64.ofNat (decode bytes.toList)

/-- Eight bytes are those of their number. -/
theorem ofUInt64_toUInt64 (bytes : FixedBytes 8) : ofUInt64 (toUInt64 bytes) = bytes.toList := by
  have hlt : decode bytes.toList < 2 ^ 64 := by
    simpa [bytes.length_toList] using decode_lt bytes.toList
  have hbytes := encode_decode bytes.toList
  rw [bytes.length_toList] at hbytes
  rw [ofUInt64, toUInt64, UInt64.toNat_ofNat_of_lt' hlt, hbytes]

/-- A number is that of eight bytes exactly when these are its bytes. -/
theorem toUInt64_eq_iff {bytes : FixedBytes 8} :
    toUInt64 bytes = word ↔ bytes = ⟨ofUInt64 word, length_ofUInt64 word⟩ := by
  constructor
  · rintro rfl
    exact FixedBytes.ext (ofUInt64_toUInt64 bytes).symm
  · rintro rfl
    rw [toUInt64, decode_ofUInt64, UInt64.ofNat_toNat]

/-- The 64-bit number at a position. -/
def readAt? (position : Nat) (bytes : List UInt8) : Option UInt64 :=
  (FixedBytes.readAt? position bytes).map toUInt64

/-- A number is read at a position exactly when its bytes are. -/
theorem readAt?_eq_some_iff :
    readAt? position bytes = some word ↔
      FixedBytes.readAt? position bytes =
        some (⟨ofUInt64 word, length_ofUInt64 word⟩ : FixedBytes 8) := by
  simp only [readAt?, Option.map_eq_some_iff, toUInt64_eq_iff, exists_eq_right]

/-- A run begins at a position exactly when its first number stands there and the others begin
behind it. -/
theorem drop_eq_ofWords_cons_iff :
    bytes.drop position = ofWords (word :: numbers) ↔
      readAt? position bytes = some word ∧ bytes.drop (position + 8) = ofWords numbers := by
  rw [ofWords_cons, readAt?_eq_some_iff, ← FixedBytes.drop_eq_append_iff]

/-- The 64-bit numbers that some bytes are made of; none when the last one lacks bytes. -/
def readAll? : List UInt8 → Option (List UInt64)
  | [] => some []
  | a :: b :: c :: d :: e :: f :: g :: h :: rest =>
    (readAll? rest).map (toUInt64 ⟨[a, b, c, d, e, f, g, h], rfl⟩ :: ·)
  | _ => none

/-- A run of numbers is read back. -/
theorem readAll?_ofWords (numbers : List UInt64) : readAll? (ofWords numbers) = some numbers := by
  induction numbers with
  | nil => rfl
  | cons word rest ih =>
    have hword : toUInt64 ⟨ofUInt64 word, length_ofUInt64 word⟩ = word := toUInt64_eq_iff.mpr rfl
    change (readAll? (ofWords rest)).map (toUInt64 ⟨ofUInt64 word, _⟩ :: ·) = _
    rw [ih, hword, Option.map_some]

/-- Numbers are read exactly from the run of their bytes. -/
theorem readAll?_eq_some_iff : readAll? bytes = some numbers ↔ bytes = ofWords numbers := by
  constructor
  · intro h
    induction bytes using readAll?.induct generalizing numbers with
    | case1 =>
      obtain rfl := Option.some.inj h
      rfl
    | case2 a b c d e f g h' rest ih =>
      obtain ⟨others, hothers, rfl⟩ := Option.map_eq_some_iff.mp h
      rw [ofWords_cons, ← ih hothers, ofUInt64_toUInt64]
      rfl
    | case3 bytes hnil hlong =>
      rw [readAll?] at h
      · contradiction
      · exact hnil
      · exact hlong
  · rintro rfl
    exact readAll?_ofWords numbers

end LittleEndian

end OfflineSigner
