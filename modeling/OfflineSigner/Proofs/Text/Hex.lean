import OfflineSigner.Address
import OfflineSigner.Signature
import Mathlib.Data.List.TakeWhile

/-!
# Hexadecimal text reads back

The written form of some bytes consists of digits only, so reading drops nothing from it, finds an
even number of UTF-8 bytes and no fault among them, and gives the bytes back. The written form is
one spelling of the bytes among many, and a byte sequence of a fixed length, an address or a
signature is read exactly from the spellings of its bytes.
-/

namespace OfflineSigner

/-- Trimming leaves characters alone among which there is no blank. -/
theorem Text.trimBlanks_eq_self {chars : List Char} (h : ∀ c ∈ chars, isBlank c = false) :
    trimBlanks chars = chars := by
  have hfront : chars.dropWhile isBlank = chars := by
    rw [List.dropWhile_eq_self_iff]
    intro hpos
    rw [h _ (List.getElem_mem hpos)]
    exact Bool.false_ne_true
  have hback : chars.reverse.dropWhile isBlank = chars.reverse := by
    rw [List.dropWhile_eq_self_iff]
    intro hpos
    rw [h _ (List.mem_reverse.mp (List.getElem_mem hpos))]
    exact Bool.false_ne_true
  rw [trimBlanks, hfront, hback, List.reverse_reverse]

namespace Hex

/-- Reading a digit gives the number it was written for. -/
theorem digitValue?_digit : ∀ value < 16, digitValue? (digit value).toNat = some value := by
  decide

/-- A digit is one UTF-8 byte. -/
theorem utf8EncodeChar_digit :
    ∀ value < 16, String.utf8EncodeChar (digit value) = [UInt8.ofNat (digit value).toNat] := by
  decide

/-- A digit is no blank. -/
theorem isBlank_digit : ∀ value < 16, Text.isBlank (digit value) = false := by
  decide

/-- Every character of the written form is the digit of a number below sixteen. -/
theorem exists_digit_of_mem_digits {bytes : List UInt8} {c : Char} (h : c ∈ digits bytes) :
    ∃ value < 16, c = digit value := by
  obtain ⟨byte, -, hc⟩ := List.mem_flatMap.mp h
  have hbyte := byte.toNat_lt
  simp only [List.mem_cons, List.not_mem_nil, or_false] at hc
  rcases hc with rfl | rfl
  · exact ⟨byte.toNat / 16, by omega, rfl⟩
  · exact ⟨byte.toNat % 16, by omega, rfl⟩

/-- No character of the written form is a blank. -/
theorem isBlank_of_mem_digits {bytes : List UInt8} {c : Char} (h : c ∈ digits bytes) :
    Text.isBlank c = false := by
  obtain ⟨value, hvalue, rfl⟩ := exists_digit_of_mem_digits h
  exact isBlank_digit value hvalue

/-- Whether a character is a digit of the written form: letters are in lower case. -/
def isCanonicalDigit (c : Char) : Bool :=
  ('0' ≤ c && c ≤ '9') || ('a' ≤ c && c ≤ 'f')

/-- A text of a given number of such digits. -/
def IsCanonical (length : Nat) (text : String) : Prop :=
  text.toList.length = length ∧ ∀ c ∈ text.toList, isCanonicalDigit c = true

/-- The digit of a number below sixteen is one of the written form. -/
theorem isCanonicalDigit_digit : ∀ value < 16, isCanonicalDigit (digit value) = true := by
  decide

/-- The written form has two digits for each byte. -/
theorem length_digits (bytes : List UInt8) : (digits bytes).length = 2 * bytes.length := by
  induction bytes with
  | nil => rfl
  | cons byte rest ih =>
    change (digits rest).length + 1 + 1 = 2 * (rest.length + 1)
    omega

/-- The written form consists of its digits. -/
theorem isCanonical_encode (bytes : List UInt8) :
    IsCanonical (2 * bytes.length) (encode bytes) := by
  rw [IsCanonical, encode, String.toList_ofList]
  refine ⟨length_digits bytes, fun c hc => ?_⟩
  obtain ⟨value, hvalue, rfl⟩ := exists_digit_of_mem_digits hc
  exact isCanonicalDigit_digit value hvalue

/-- A text without blanks is its own normal spelling. -/
theorem normalize_eq_self {chars : List Char} (h : ∀ c ∈ chars, Text.isBlank c = false) :
    normalize (String.ofList chars) = String.ofList chars := by
  have hspaces : chars.filter (· != ' ') = chars := by
    rw [List.filter_eq_self]
    intro c hc
    have hblank := h c hc
    rw [bne_iff_ne]
    rintro rfl
    contradiction
  rw [normalize, String.toList_ofList, Text.trimBlanks_eq_self h, hspaces]

/-- The written form is its own normal spelling. -/
theorem normalize_encode (bytes : List UInt8) : normalize (encode bytes) = encode bytes :=
  normalize_eq_self fun _ hc => isBlank_of_mem_digits hc

/-- The UTF-8 bytes of the written form are the codes of its digits, two for each byte. -/
theorem utf8_encode_cons (byte : UInt8) (rest : List UInt8) :
    utf8 (encode (byte :: rest)) =
      UInt8.ofNat (digit (byte.toNat / 16)).toNat ::
        UInt8.ofNat (digit (byte.toNat % 16)).toNat :: utf8 (encode rest) := by
  have hbyte := byte.toNat_lt
  have hhigh := utf8EncodeChar_digit (byte.toNat / 16) (by omega)
  have hlow := utf8EncodeChar_digit (byte.toNat % 16) (by omega)
  simp [utf8, encode, digits, hhigh, hlow]

/-- The written form takes two UTF-8 bytes for each byte. -/
theorem length_utf8_encode (bytes : List UInt8) :
    (utf8 (encode bytes)).length = 2 * bytes.length := by
  induction bytes with
  | nil => rfl
  | cons byte rest ih =>
    rw [utf8_encode_cons, List.length_cons, List.length_cons, ih, List.length_cons]
    omega

/-- The code of a digit fits into a byte. -/
theorem toNat_ofNat_digit :
    ∀ value < 16, (UInt8.ofNat (digit value).toNat).toNat = (digit value).toNat := by
  decide

/-- The digit that stands at some position is read as its number. -/
theorem digitAt_digit (position : Nat) {value : Nat} (h : value < 16) :
    digitAt position (UInt8.ofNat (digit value).toNat) = .ok value := by
  rw [digitAt, toNat_ofNat_digit value h, digitValue?_digit value h]

/-- Reading the digits of some bytes in pairs gives the bytes, wherever they stand. -/
theorem decodePairs_utf8_encode (position : Nat) (bytes : List UInt8) :
    decodePairs position (utf8 (encode bytes)) = .ok bytes := by
  induction bytes generalizing position with
  | nil => rfl
  | cons byte rest ih =>
    have hbyte := byte.toNat_lt
    have hvalue : 16 * (byte.toNat / 16) + byte.toNat % 16 = byte.toNat := by omega
    rw [utf8_encode_cons, decodePairs, digitAt_digit position (by omega),
      digitAt_digit (position + 1) (by omega), ih]
    change Except.ok (UInt8.ofNat (16 * (byte.toNat / 16) + byte.toNat % 16) :: rest) = _
    rw [hvalue, UInt8.ofNat_toNat]

/-- Reading inverts writing. -/
theorem decode_encode (bytes : List UInt8) : decode (encode bytes) = .ok bytes := by
  have heven : (utf8 (encode bytes)).length % 2 ≠ 1 := by
    rw [length_utf8_encode]
    omega
  rw [decode, normalize_encode, decodeStrict, if_neg heven, decodePairs_utf8_encode]

end Hex

namespace FixedBytes

variable {n : Nat}

/-- A text is an accepted spelling of the byte sequence. -/
def IsSpelledBy (value : FixedBytes n) (text : String) : Prop :=
  Hex.decode text = .ok value.toList

/-- The canonical text is an accepted spelling. -/
theorem isSpelledBy_toHex (value : FixedBytes n) : value.IsSpelledBy value.toHex :=
  Hex.decode_encode value.toList

/-- A text is read as the byte sequence that it spells, whatever is to be named in an error. -/
theorem ofHex_eq_ok_iff {field text : String} {value : FixedBytes n} :
    ofHex field text = .ok value ↔ value.IsSpelledBy text := by
  rw [ofHex, bytesOfHex, IsSpelledBy]
  generalize Hex.decode text = outcome
  cases outcome with
  | error fault =>
    constructor
    · intro h
      contradiction
    · intro h
      contradiction
  | ok bytes =>
    change ofBytes field bytes = .ok value ↔ _
    rw [Except.ok.injEq, eq_comm (a := bytes), ← ofList?_eq_some_iff, ofBytes]
    cases (ofList? bytes : Option (FixedBytes n)) <;> simp

/-- What a text is read as depends on the bytes, or on the fault, that are found in it. -/
theorem ofHex_eq_of_decode_eq {field text text' : String} (h : Hex.decode text = Hex.decode text') :
    (ofHex field text : Except ValueError (FixedBytes n)) = ofHex field text' := by
  rw [ofHex, ofHex, bytesOfHex, bytesOfHex, h]

/-- The canonical text of a byte sequence is read as that sequence. -/
theorem ofHex_toHex (field : String) (value : FixedBytes n) :
    ofHex field value.toHex = .ok value :=
  ofHex_eq_ok_iff.mpr value.isSpelledBy_toHex

end FixedBytes

/-- A text is read as the address whose bytes it spells. -/
theorem Address.ofHex_eq_ok_iff {text : String} {address : Address} :
    ofHex text = .ok address ↔ address.bytes.IsSpelledBy text := by
  rw [← @FixedBytes.ofHex_eq_ok_iff 32 "address", ofHex]
  cases FixedBytes.ofHex "address" text with
  | error error => simp [Except.map]
  | ok bytes =>
    cases address
    simp [Except.map]

/-- The canonical text of an address has 64 digits. -/
theorem Address.isCanonical_toHex (address : Address) : Hex.IsCanonical 64 address.toHex := by
  have htext := Hex.isCanonical_encode address.bytes.toList
  rwa [address.bytes.length_toList] at htext

/-- The canonical text of an address is read as that address. -/
theorem Address.ofHex_toHex (address : Address) : ofHex address.toHex = .ok address :=
  ofHex_eq_ok_iff.mpr address.bytes.isSpelledBy_toHex

/-- The canonical text of a signature is read as that signature. -/
theorem Signature.ofHex_toHex (signature : Signature) : ofHex signature.toHex = .ok signature := by
  rw [ofHex, toHex, FixedBytes.ofHex_toHex]
  rfl

end OfflineSigner
