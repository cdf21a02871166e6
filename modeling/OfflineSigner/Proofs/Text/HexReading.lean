import OfflineSigner.Proofs.Bytes.Positions
import OfflineSigner.Proofs.Data.Except
import OfflineSigner.Proofs.Text.Hex
import OfflineSigner.Proofs.Text.Quoted

/-!
# What is read from hexadecimal text, and what is reported

Reading runs over the UTF-8 bytes of the normal spelling, two at a time. It gives some bytes exactly
when the spelling, in lower case, is their written form. Otherwise there is one fault, and it is the
first one: an odd number of bytes, or else the first byte that is no digit, with its place. Letters
beyond ASCII take two bytes or more, all of them above those of the digits, so such a letter is
reported by its first byte. The report is a text, and it tells the fault: the position is what its
last digits spell, and the byte is what stands between the quotes before them.
-/

namespace OfflineSigner

/-- Texts with different beginnings are different. -/
theorem Text.ne_of_take_toList_ne {text other : String} {n : Nat} {beginning beginning' : List Char}
    (h : text.toList.take n = beginning) (h' : other.toList.take n = beginning')
    (hne : beginning ≠ beginning') : text ≠ other := by
  rintro rfl
  exact hne (h.symm.trans h')

namespace Hex

/-- The codes of the digits, with letters of either case. -/
def digitCodes : List UInt8 := utf8 "0123456789ABCDEFabcdef"

/-- The code of a letter from A to Z as that of its lower-case letter, every other code as it is. -/
def lowerCode (code : UInt8) : UInt8 :=
  if 65 ≤ code ∧ code ≤ 90 then code + 32 else code

/-- The first byte of a spelling that is no digit, and the number of bytes before it. -/
structure FirstNonDigit (spelling : List UInt8) (byte : UInt8) (position : Nat) : Prop where
  /-- The byte stands there. -/
  getElem?_eq : spelling[position]? = some byte
  /-- It is no digit. -/
  notMem : byte ∉ digitCodes
  /-- All bytes before it are digits. -/
  mem_of_mem_take : ∀ code ∈ spelling.take position, code ∈ digitCodes

/-- Whether a byte is the first one that is no digit can be tested. -/
instance {spelling : List UInt8} {byte : UInt8} {position : Nat} :
    Decidable (FirstNonDigit spelling byte position) :=
  decidable_of_iff
    (spelling[position]? = some byte ∧ byte ∉ digitCodes ∧
      (spelling.take position).all (fun code => decide (code ∈ digitCodes)) = true)
    ⟨fun ⟨hfound, hbyte, hdigits⟩ =>
        ⟨hfound, hbyte, fun code hcode => of_decide_eq_true (List.all_eq_true.mp hdigits code hcode)⟩,
      fun ⟨hfound, hbyte, hdigits⟩ =>
        ⟨hfound, hbyte, List.all_eq_true.mpr fun code hcode => decide_eq_true (hdigits code hcode)⟩⟩

/-- What holds of every number below 256 holds of every code. -/
theorem forall_code {p : UInt8 → Prop} (h : ∀ n < 256, p (UInt8.ofNat n)) : ∀ code, p code := by
  intro code
  have hcode := h code.toNat code.toNat_lt
  rwa [UInt8.ofNat_toNat] at hcode

/-- Exactly the digits have a value. -/
theorem isSome_digitValue? :
    ∀ code : UInt8, (digitValue? code.toNat).isSome = decide (code ∈ digitCodes) :=
  forall_code (by decide +kernel)

/-- A code with a value is, in lower case, the digit of that value. -/
theorem lowerCode_of_digitValue? :
    ∀ code : UInt8, ∀ value ∈ digitValue? code.toNat,
      value < 16 ∧ lowerCode code = UInt8.ofNat (digit value).toNat :=
  forall_code (by decide +kernel)

/-- A letter has the same value in either case. -/
theorem digitValue?_lowerCode :
    ∀ code : UInt8, digitValue? (lowerCode code).toNat = digitValue? code.toNat :=
  forall_code (by decide +kernel)

/-- A code has a value exactly when it is, in lower case, the digit of that value. -/
theorem digitValue?_eq_some_iff {code : UInt8} {value : Nat} :
    digitValue? code.toNat = some value ↔
      value < 16 ∧ lowerCode code = UInt8.ofNat (digit value).toNat := by
  constructor
  · intro h
    exact lowerCode_of_digitValue? code value h
  · rintro ⟨hvalue, hcode⟩
    rw [← digitValue?_lowerCode, hcode, toNat_ofNat_digit value hvalue,
      digitValue?_digit value hvalue]

/-- A digit is read as the number whose digit it is in lower case. -/
theorem digitAt_eq_ok_iff {position value : Nat} {code : UInt8} :
    digitAt position code = .ok value ↔
      value < 16 ∧ lowerCode code = UInt8.ofNat (digit value).toNat := by
  rw [← digitValue?_eq_some_iff, digitAt]
  cases digitValue? code.toNat <;> simp

/-- A digit is read somehow. -/
theorem exists_digitAt_eq_ok_iff {position : Nat} {code : UInt8} :
    (∃ value, digitAt position code = .ok value) ↔ code ∈ digitCodes := by
  have hsome := isSome_digitValue? code
  rw [digitAt]
  cases hvalue : digitValue? code.toNat <;> simp_all

/-- What is no digit is reported with its place. -/
theorem digitAt_eq_error_iff {position : Nat} {code : UInt8} {fault : Fault} :
    digitAt position code = .error fault ↔
      code ∉ digitCodes ∧ fault = .badDigit code position := by
  have hsome := isSome_digitValue? code
  rw [digitAt]
  cases hvalue : digitValue? code.toNat <;> simp_all [eq_comm]

/-- No pair is left of an even number of bytes only if there are none. -/
theorem eq_nil_of_no_pair {spelling : List UInt8} (heven : spelling.length % 2 = 0)
    (hshort : ∀ high low rest, spelling = high :: low :: rest → False) : spelling = [] := by
  match spelling with
  | [] => rfl
  | [_] => contradiction
  | high :: low :: rest => exact (hshort high low rest rfl).elim

/-- Pairs of digits are read as the bytes whose written form they are in lower case. -/
theorem decodePairs_eq_ok_iff {position : Nat} {spelling bytes : List UInt8}
    (heven : spelling.length % 2 = 0) :
    decodePairs position spelling = .ok bytes ↔
      spelling.map lowerCode = utf8 (encode bytes) := by
  induction position, spelling using decodePairs.induct generalizing bytes with
  | case1 position high low rest ih =>
    have hrest : rest.length % 2 = 0 := by
      simp only [List.length_cons] at heven
      omega
    rw [decodePairs]
    simp only [Except.bind_eq_ok_iff, digitAt_eq_ok_iff, ih hrest, List.map_cons]
    constructor
    -- The byte that is put together from two values has them as its quotient and remainder.
    · rintro ⟨h, ⟨hh, hhigh⟩, l, ⟨hl, hlow⟩, tail, htail, hbytes⟩
      cases hbytes
      have hbyte : (UInt8.ofNat (16 * h + l)).toNat = 16 * h + l :=
        UInt8.toNat_ofNat_of_lt' (by change 16 * h + l < 256; omega)
      have hquotient : (16 * h + l) / 16 = h := by omega
      have hremainder : (16 * h + l) % 16 = l := by omega
      rw [utf8_encode_cons, hbyte, hquotient, hremainder, hhigh, hlow, htail]
    · intro hmap
      cases bytes with
      | nil => contradiction
      | cons byte tail =>
        have hbyte := byte.toNat_lt
        have hvalue : 16 * (byte.toNat / 16) + byte.toNat % 16 = byte.toNat := by omega
        rw [utf8_encode_cons] at hmap
        injection hmap with hhigh hmap
        injection hmap with hlow htail
        refine ⟨byte.toNat / 16, ⟨by omega, hhigh⟩, byte.toNat % 16, ⟨by omega, hlow⟩, tail, htail,
          ?_⟩
        rw [hvalue, UInt8.ofNat_toNat]
        rfl
  | case2 spelling position hshort =>
    rw [eq_nil_of_no_pair heven hshort]
    constructor
    · intro h
      cases h
      rfl
    · intro h
      cases bytes with
      | nil => rfl
      | cons byte tail =>
        rw [utf8_encode_cons] at h
        contradiction

/-- The first byte that is no digit is the first one of all, or it comes after a digit. -/
theorem firstNonDigit_cons_iff {first byte : UInt8} {rest : List UInt8} {position : Nat} :
    FirstNonDigit (first :: rest) byte position ↔
      (first ∉ digitCodes ∧ byte = first ∧ position = 0) ∨
      (first ∈ digitCodes ∧ ∃ before, FirstNonDigit rest byte before ∧ position = before + 1) := by
  constructor
  · rintro ⟨hfound, hbyte, hdigits⟩
    cases position with
    | zero =>
      obtain rfl : first = byte := Option.some.inj hfound
      exact Or.inl ⟨hbyte, rfl, rfl⟩
    | succ before =>
      rw [List.take_succ_cons, List.forall_mem_cons] at hdigits
      exact Or.inr ⟨hdigits.1, before, ⟨hfound, hbyte, hdigits.2⟩, rfl⟩
  · rintro (⟨hfirst, rfl, rfl⟩ | ⟨hfirst, before, ⟨hfound, hbyte, hdigits⟩, rfl⟩)
    · exact ⟨rfl, hfirst, by simp⟩
    · refine ⟨hfound, hbyte, ?_⟩
      rw [List.take_succ_cons, List.forall_mem_cons]
      exact ⟨hfirst, hdigits⟩

/-- Among pairs of bytes the first one that is no digit is reported. -/
theorem decodePairs_eq_error_iff {position : Nat} {spelling : List UInt8} {fault : Fault}
    (heven : spelling.length % 2 = 0) :
    decodePairs position spelling = .error fault ↔
      ∃ byte before, FirstNonDigit spelling byte before ∧
        fault = .badDigit byte (position + before) := by
  induction position, spelling using decodePairs.induct with
  | case1 position high low rest ih =>
    have hrest : rest.length % 2 = 0 := by
      simp only [List.length_cons] at heven
      omega
    rw [decodePairs]
    simp only [Except.bind_eq_error_iff, digitAt_eq_error_iff, ih hrest, Except.pure_ne_error,
      and_false, exists_false, or_false, firstNonDigit_cons_iff]
    -- The first byte that is no digit is the high one, the low one, or one of the rest.
    constructor
    · rintro (⟨hhigh, rfl⟩ | ⟨h, hhigh, ⟨hlow, rfl⟩ | ⟨l, hlow, byte, before, hfirst, rfl⟩⟩)
      · exact ⟨high, 0, Or.inl ⟨hhigh, rfl, rfl⟩, rfl⟩
      · exact ⟨low, 1, Or.inr ⟨exists_digitAt_eq_ok_iff.mp ⟨h, hhigh⟩, 0,
          Or.inl ⟨hlow, rfl, rfl⟩, rfl⟩, rfl⟩
      · refine ⟨byte, before + 2, Or.inr ⟨exists_digitAt_eq_ok_iff.mp ⟨h, hhigh⟩, before + 1,
          Or.inr ⟨exists_digitAt_eq_ok_iff.mp ⟨l, hlow⟩, before, hfirst, rfl⟩, rfl⟩, ?_⟩
        exact congrArg (Fault.badDigit byte) (by omega)
    · rintro ⟨byte, place, ⟨hhigh, rfl, rfl⟩ | ⟨hhigh, _, ⟨hlow, rfl, rfl⟩ |
        ⟨hlow, before, hfirst, rfl⟩, rfl⟩, rfl⟩
      · exact Or.inl ⟨hhigh, rfl⟩
      · obtain ⟨h, hhigh⟩ := exists_digitAt_eq_ok_iff.mpr hhigh
        exact Or.inr ⟨h, hhigh, Or.inl ⟨hlow, rfl⟩⟩
      · obtain ⟨h, hhigh⟩ := exists_digitAt_eq_ok_iff.mpr hhigh
        obtain ⟨l, hlow⟩ := exists_digitAt_eq_ok_iff.mpr hlow
        refine Or.inr ⟨h, hhigh, Or.inr ⟨l, hlow, byte, before, hfirst, ?_⟩⟩
        exact congrArg (Fault.badDigit byte) (by omega)
  | case2 spelling position hshort =>
    rw [eq_nil_of_no_pair heven hshort]
    constructor
    · intro h
      contradiction
    · rintro ⟨byte, before, ⟨hfound, -, -⟩, -⟩
      contradiction

/-- Every byte of a character beyond ASCII lies above the codes of ASCII. -/
theorem le_toNat_of_mem_utf8EncodeChar {c : Char} (h : ¬ c.toNat < 128) :
    ∀ byte ∈ String.utf8EncodeChar c, 128 ≤ byte.toNat := by
  have hmarked {n : Nat} (hlow : 128 ≤ n) (hhigh : n < 256) : 128 ≤ (UInt8.ofNat n).toNat := by
    rwa [UInt8.toNat_ofNat_of_lt' hhigh]
  have hlong : ¬ c.val.toNat ≤ 127 := fun hle => h (Nat.lt_succ_of_le hle)
  unfold String.utf8EncodeChar
  generalize c.val.toNat = v at hlong
  dsimp only
  rw [if_neg hlong]
  -- Two, three or four bytes, each with a mark in its highest bit.
  repeat' split
  all_goals
    simp only [List.forall_mem_cons, List.not_mem_nil, false_implies, implies_true, and_true]
    repeat' apply And.intro
    all_goals exact hmarked (by omega) (by omega)

/-- The bytes of a character in lower case are its bytes in lower case. -/
theorem map_lowerCode_utf8EncodeChar (c : Char) :
    (String.utf8EncodeChar c).map lowerCode = String.utf8EncodeChar (Text.lowerAscii c) := by
  by_cases hascii : c.toNat < 128
  · have hcode : ∀ n < 128, (String.utf8EncodeChar (Char.ofNat n)).map lowerCode =
        String.utf8EncodeChar (Text.lowerAscii (Char.ofNat n)) := by
      decide +kernel
    have hc := hcode c.toNat hascii
    rwa [Char.ofNat_toNat] at hc
  · have hlower : Text.lowerAscii c = c := by
      refine if_neg fun hletter => hascii ?_
      have hle : c.toNat ≤ 90 := of_decide_eq_true (Bool.and_eq_true_iff.mp hletter).2
      omega
    have hbytes : ∀ byte ∈ String.utf8EncodeChar c, lowerCode byte = byte := by
      intro byte hbyte
      refine if_neg fun hletter => ?_
      have hle : byte.toNat ≤ 90 := hletter.2
      have hlarge := le_toNat_of_mem_utf8EncodeChar hascii byte hbyte
      omega
    rw [hlower, List.map_congr_left hbytes, List.map_id']

/-- The bytes of a text in lower case are its bytes in lower case. -/
theorem utf8_toLowerAscii (text : String) :
    utf8 (Text.toLowerAscii text) = (utf8 text).map lowerCode := by
  rw [Text.toLowerAscii, utf8, utf8, String.toList_ofList, List.map_flatMap, List.flatMap_map]
  simp only [map_lowerCode_utf8EncodeChar]

/-- The bytes that are read: those of the normal spelling. -/
def spelling (text : String) : List UInt8 := utf8 (normalize text)

/-- Reading reads them. -/
theorem decode_eq_decodeStrict (text : String) : decode text = decodeStrict (spelling text) :=
  rfl

/-- Some bytes are read from a text exactly when its normal spelling, in lower case, is their written
form. -/
theorem decode_eq_ok_iff {text : String} {bytes : List UInt8} :
    decode text = .ok bytes ↔ Text.toLowerAscii (normalize text) = encode bytes := by
  rw [decode_eq_decodeStrict, decodeStrict, ← utf8_injective.eq_iff, utf8_toLowerAscii, ← spelling]
  split
  · next hodd =>
    constructor
    · intro h
      cases h
    · intro h
      have hlength := congrArg List.length h
      rw [List.length_map, length_utf8_encode] at hlength
      omega
  · next heven => exact decodePairs_eq_ok_iff (by omega)

/-- The fault of a text is an odd number of bytes in its normal spelling, or else the first of them
that is no digit. -/
theorem decode_eq_error_iff {text : String} {fault : Fault} :
    decode text = .error fault ↔
      ((spelling text).length % 2 = 1 ∧ fault = .oddLength) ∨
      ((spelling text).length % 2 = 0 ∧ ∃ byte position,
        FirstNonDigit (spelling text) byte position ∧ fault = .badDigit byte position) := by
  rw [decode_eq_decodeStrict, decodeStrict]
  split
  · next hodd => simp [hodd, eq_comm]
  · next heven =>
    have heven' : (spelling text).length % 2 = 0 := by omega
    rw [decodePairs_eq_error_iff heven']
    simp [heven']

/-- Two characters need not be an even number of bytes. -/
example : decode "é0" = .error .oddLength := by
  decide +kernel

namespace Fault

/-- The report on an odd number of bytes. -/
theorem message_oddLength : oddLength.message = "Odd number of digits" :=
  rfl

/-- The report on a byte that is no digit. -/
theorem message_badDigit (byte : UInt8) (position : Nat) :
    (badDigit byte position).message = "Invalid character " ++
      Text.quoteChar (Char.ofNat byte.toNat) ++ " at position " ++ toString position :=
  rfl

/-- A byte that is no digit is reported with two fixed parts, each before what it announces. -/
theorem toList_message_badDigit (byte : UInt8) (position : Nat) :
    (badDigit byte position).message.toList =
      "Invalid character ".toList ++ (Text.quoteChar (Char.ofNat byte.toNat)).toList ++
        " at position ".toList ++ Nat.toDigits 10 position := by
  rw [message_badDigit, String.toList_append, String.toList_append, String.toList_append,
    Nat.toString_eq_repr, Nat.toList_repr]

/-- The wordings of the two faults differ from the first letter on. -/
theorem message_badDigit_ne_message_oddLength (byte : UInt8) (position : Nat) :
    (badDigit byte position).message ≠ oddLength.message := by
  have hbad : (badDigit byte position).message.toList.take 1 = ['I'] := by
    rw [toList_message_badDigit]
    rfl
  have hodd : oddLength.message.toList.take 1 = ['O'] := rfl
  exact Text.ne_of_take_toList_ne hbad hodd (by decide)

/-- The digits at the end of such a report are those of the position. -/
theorem takeWhile_isDigit_message (byte : UInt8) (position : Nat) :
    (badDigit byte position).message.toList.reverse.takeWhile Char.isDigit =
      (Nat.toDigits 10 position).reverse := by
  rw [toList_message_badDigit, List.reverse_append, List.takeWhile_append_of_pos]
  · rw [List.reverse_append]
    exact List.append_nil _
  · intro c hc
    exact Nat.isDigit_of_mem_toDigits (by decide) (by decide) (List.mem_reverse.mp hc)

/-- A byte is shown as the character with its number. -/
theorem toNat_ofNat_code : ∀ code : UInt8, (Char.ofNat code.toNat).toNat = code.toNat :=
  forall_code (by decide +kernel)

/-- The report on a byte that is no digit tells the byte and its position. -/
theorem badDigit_eq_of_message_eq {byte byte' : UInt8} {position position' : Nat}
    (h : (badDigit byte position).message = (badDigit byte' position').message) :
    badDigit byte position = badDigit byte' position' := by
  -- Behind the last space there are digits alone, and before them two fixed parts around the quotes.
  have hdigits := takeWhile_isDigit_message byte position
  rw [h, takeWhile_isDigit_message, List.reverse_inj] at hdigits
  have hposition : position = position' :=
    calc
      position = Nat.ofDigitChars 10 (Nat.toDigits 10 position) 0 :=
        Nat.ofDigitChars_ten_toDigits.symm
      _ = Nat.ofDigitChars 10 (Nat.toDigits 10 position') 0 := by rw [hdigits]
      _ = position' := Nat.ofDigitChars_ten_toDigits
  have hchars := congrArg String.toList h
  rw [toList_message_badDigit, toList_message_badDigit, hdigits] at hchars
  have hquoted := List.append_cancel_left
    (List.append_cancel_right (List.append_cancel_right hchars))
  have hcode := congrArg Char.toNat (Text.quoteChar_injective (String.toList_injective hquoted))
  rw [toNat_ofNat_code, toNat_ofNat_code] at hcode
  rw [hposition, UInt8.toNat_inj.mp hcode]

/-- Different faults are reported differently. -/
theorem message_injective : Function.Injective message := by
  intro fault fault'
  cases fault <;> cases fault' <;> intro h
  case oddLength.oddLength => rfl
  case oddLength.badDigit byte position =>
    exact absurd h.symm (message_badDigit_ne_message_oddLength byte position)
  case badDigit.oddLength byte position =>
    exact absurd h (message_badDigit_ne_message_oddLength byte position)
  case badDigit.badDigit => exact badDigit_eq_of_message_eq h

end Fault

/-- Writing loses nothing. -/
theorem encode_injective : Function.Injective encode := by
  intro bytes bytes' h
  have hread := decode_encode bytes
  rw [h, decode_encode] at hread
  exact (Except.ok.inj hread).symm

end Hex

/-- Bytes are passed on as they are decoded. -/
theorem bytesOfHex_eq_ok_iff {text : String} {bytes : List UInt8} :
    bytesOfHex text = .ok bytes ↔ Hex.decode text = .ok bytes := by
  rw [bytesOfHex]
  cases Hex.decode text <;> simp

/-- A fault is reported in its wording. -/
theorem bytesOfHex_eq_error_iff {text : String} {error : ValueError} :
    bytesOfHex text = .error error ↔
      ∃ fault, Hex.decode text = .error fault ∧ error = .invalidHex fault.message := by
  rw [bytesOfHex]
  cases Hex.decode text <;> simp [eq_comm]

/-- The wording that is reported tells the fault of the text. -/
theorem bytesOfHex_eq_error_message_iff {text : String} {fault : Hex.Fault} :
    bytesOfHex text = .error (.invalidHex fault.message) ↔ Hex.decode text = .error fault := by
  rw [bytesOfHex_eq_error_iff]
  constructor
  · rintro ⟨found, hfound, hreason⟩
    have hsame : fault = found := Hex.Fault.message_injective (ValueError.invalidHex.inj hreason)
    rw [hsame, hfound]
  · intro hfault
    exact ⟨fault, hfault, rfl⟩

namespace FixedBytes

variable {n : Nat}

/-- A byte list is refused exactly when it has another length, which is reported. -/
theorem ofBytes_eq_error_iff {field : String} {bytes : List UInt8} {error : ValueError} :
    (ofBytes field bytes : Except ValueError (FixedBytes n)) = .error error ↔
      bytes.length ≠ n ∧ error = .invalidLength field n bytes.length := by
  rw [← ofList?_eq_none_iff, ofBytes]
  cases (ofList? bytes : Option (FixedBytes n)) <;> simp [eq_comm]

/-- A text is refused as hexadecimal text, or else for the number of its bytes. -/
theorem ofHex_eq_error_iff {field text : String} {error : ValueError} :
    (ofHex field text : Except ValueError (FixedBytes n)) = .error error ↔
      bytesOfHex text = .error error ∨ ∃ bytes, bytesOfHex text = .ok bytes ∧
        bytes.length ≠ n ∧ error = .invalidLength field n bytes.length := by
  rw [ofHex, Except.bind_eq_error_iff]
  simp only [ofBytes_eq_error_iff]

end FixedBytes

/-- Reading hexadecimal text is exact. It gives some bytes just for the texts whose normal spelling,
in lower case, is the written form of the bytes; that form has two digits for each byte, is different
for different bytes, and is read back. Every other text has one fault: an odd number of bytes, or
else the first byte that is no digit. The report tells the fault: it says that the number is odd, or
it names that byte and its position. Where a number of bytes is asked for, a text that spells
another number is refused for that, and a text with a fault is refused for its fault. -/
theorem Hex.reading_is_exact (text : String) :
    (∀ bytes, bytesOfHex text = .ok bytes ↔
      Text.toLowerAscii (normalize text) = encode bytes) ∧
    (Function.Injective encode ∧ ∀ bytes, IsCanonical (2 * bytes.length) (encode bytes) ∧
      bytesOfHex (encode bytes) = .ok bytes) ∧
    (∀ error, bytesOfHex text = .error error ↔
      ∃ fault, decode text = .error fault ∧ error = .invalidHex fault.message) ∧
    (∀ fault, decode text = .error fault ↔
      ((spelling text).length % 2 = 1 ∧ fault = .oddLength) ∨
      ((spelling text).length % 2 = 0 ∧ ∃ byte position,
        FirstNonDigit (spelling text) byte position ∧ fault = .badDigit byte position)) ∧
    Function.Injective Fault.message ∧
    (bytesOfHex text = .error (.invalidHex "Odd number of digits") ↔
      (spelling text).length % 2 = 1) ∧
    (∀ (byte : UInt8) (position : Nat),
      bytesOfHex text = .error (.invalidHex ("Invalid character " ++
          Text.quoteChar (Char.ofNat byte.toNat) ++ " at position " ++ toString position)) ↔
        (spelling text).length % 2 = 0 ∧ FirstNonDigit (spelling text) byte position) ∧
    ∀ (n : Nat) (field : String),
      (∀ value : FixedBytes n, FixedBytes.ofHex field text = .ok value ↔
        bytesOfHex text = .ok value.toList) ∧
      (∀ expected actual, (FixedBytes.ofHex field text : Except ValueError (FixedBytes n)) =
          .error (.invalidLength field expected actual) ↔
        expected = n ∧ actual ≠ n ∧ ∃ bytes, bytesOfHex text = .ok bytes ∧ bytes.length = actual) ∧
      (∀ reason, (FixedBytes.ofHex field text : Except ValueError (FixedBytes n)) =
          .error (.invalidHex reason) ↔
        bytesOfHex text = .error (.invalidHex reason)) := by
  refine ⟨?_, ⟨encode_injective, fun bytes => ⟨isCanonical_encode bytes,
    bytesOfHex_eq_ok_iff.mpr (decode_encode bytes)⟩⟩, ?_, ?_, Fault.message_injective, ?_, ?_, ?_⟩
  · intro bytes
    rw [bytesOfHex_eq_ok_iff, decode_eq_ok_iff]
  · intro error
    exact bytesOfHex_eq_error_iff
  · intro fault
    exact decode_eq_error_iff
  · rw [← Fault.message_oddLength, bytesOfHex_eq_error_message_iff, decode_eq_error_iff]
    simp
  · intro byte position
    rw [← Fault.message_badDigit, bytesOfHex_eq_error_message_iff, decode_eq_error_iff]
    simp
  · intro n field
    refine ⟨?_, ?_, ?_⟩
    · intro value
      rw [FixedBytes.ofHex_eq_ok_iff, bytesOfHex_eq_ok_iff, FixedBytes.IsSpelledBy]
    · intro expected actual
      rw [FixedBytes.ofHex_eq_error_iff, bytesOfHex_eq_error_iff]
      constructor
      · rintro (⟨fault, -, hreason⟩ | ⟨bytes, hbytes, hlength, herror⟩)
        · cases hreason
        · cases herror
          exact ⟨rfl, hlength, bytes, hbytes, rfl⟩
      · rintro ⟨rfl, hlength, bytes, hbytes, rfl⟩
        exact Or.inr ⟨bytes, hbytes, hlength, rfl⟩
    · intro reason
      rw [FixedBytes.ofHex_eq_error_iff]
      constructor
      · rintro (hreason | ⟨bytes, -, -, herror⟩)
        · exact hreason
        · cases herror
      · intro hreason
        exact Or.inl hreason

/-- An accented letter is reported by the first of its two bytes, a tab within the text by its short
name, and an odd number of digits before any of them. -/
theorem Hex.reading_is_exact_accented :
    bytesOfHex "12é" = .error (.invalidHex "Invalid character 'Ã' at position 2") ∧
    bytesOfHex "1\t23" = .error (.invalidHex "Invalid character '\\t' at position 1") ∧
    bytesOfHex "1g2" = .error (.invalidHex "Odd number of digits") := by
  have hletter : "Invalid character " ++ Text.quoteChar (Char.ofNat (0xC3 : UInt8).toNat) ++
      " at position " ++ toString 2 = "Invalid character 'Ã' at position 2" := by
    decide +kernel
  have htab : "Invalid character " ++ Text.quoteChar (Char.ofNat (9 : UInt8).toNat) ++
      " at position " ++ toString 1 = "Invalid character '\\t' at position 1" := by
    decide +kernel
  obtain ⟨-, -, -, -, -, -, hreport, -⟩ := reading_is_exact "12é"
  obtain ⟨-, -, -, -, -, -, hreport', -⟩ := reading_is_exact "1\t23"
  obtain ⟨-, -, -, -, -, hodd, -⟩ := reading_is_exact "1g2"
  rw [← hletter, ← htab]
  exact ⟨(hreport 0xC3 2).mpr (by decide +kernel), (hreport' 9 1).mpr (by decide +kernel),
    hodd.mpr (by decide +kernel)⟩

end OfflineSigner
