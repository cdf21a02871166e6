import OfflineSigner.Proofs.Text.HexReading
import OfflineSigner.Proofs.Text.Spacing

/-!
# The text of a seed

The text of a seed is measured before it is read. Both checks agree with plain reading of 32 bytes:
a text that spells 32 bytes has a normal spelling of 64 bytes, and a normal spelling of 64 bytes can
fail in one way only, by a byte that is no digit. So there are two reasons for a refusal, and what
they tell of the text is the length of its normal spelling, or its first byte that is no digit with
the place of that byte. Nothing else that was typed can be read off the error.
-/

namespace OfflineSigner

/-- A text that spells some bytes has two bytes in its normal spelling for each of them. -/
theorem Hex.length_spelling {text : String} {bytes : List UInt8}
    (h : decode text = .ok bytes) : (spelling text).length = 2 * bytes.length := by
  rw [← length_utf8_encode, ← decode_eq_ok_iff.mp h, utf8_toLowerAscii, List.length_map, spelling]

/-- Thirty-two bytes are read from a normal spelling of 64 bytes, unless one of these is no digit. -/
theorem FixedBytes.ofHex_eq_error_iff_of_length_eq {field text : String}
    (hlength : (Hex.spelling text).length = 64) {error : ValueError} :
    (ofHex field text : Except ValueError (FixedBytes 32)) = .error error ↔
      ∃ byte position, Hex.FirstNonDigit (Hex.spelling text) byte position ∧
        error = .invalidHex (Hex.Fault.badDigit byte position).message := by
  rw [ofHex_eq_error_iff, bytesOfHex_eq_error_iff]
  constructor
  · rintro (⟨fault, hfault, rfl⟩ | ⟨bytes, hbytes, hother, -⟩)
    · rcases Hex.decode_eq_error_iff.mp hfault with ⟨hodd, -⟩ | ⟨-, byte, position, hfirst, rfl⟩
      · omega
      · exact ⟨byte, position, hfirst, rfl⟩
    · have hbytes' := Hex.length_spelling (bytesOfHex_eq_ok_iff.mp hbytes)
      omega
  · rintro ⟨byte, position, hfirst, rfl⟩
    have heven : (Hex.spelling text).length % 2 = 0 := by omega
    exact Or.inl ⟨_, Hex.decode_eq_error_iff.mpr (Or.inr ⟨heven, byte, position, hfirst, rfl⟩), rfl⟩

namespace KeyPair

/-- The reason for which a text is no seed if its normal spelling has this number of bytes. -/
def lengthReason (length : Nat) : String :=
  s!"expected 64 hex characters, got {length}"

/-- The reason for which a text is no seed if this is the first byte that is no digit. -/
def digitReason (byte : UInt8) (position : Nat) : String :=
  (ValueError.invalidHex (Hex.Fault.badDigit byte position).message).message

/-- A text of another length is not read. -/
theorem ofSeedHex_of_length_ne {text : String} (h : (Hex.spelling text).length ≠ 64) :
    ofSeedHex text = .error (.invalidSeed (lengthReason (Hex.spelling text).length)) := by
  unfold ofSeedHex lengthReason
  exact if_pos h

/-- A text of the right length is read as any other 32 bytes are. -/
theorem ofSeedHex_of_length_eq {text : String} (h : (Hex.spelling text).length = 64) :
    ofSeedHex text =
      ((FixedBytes.ofHex "seed" text : Except ValueError Seed).map ofSeed).mapError
        fun error => .invalidSeed error.message := by
  rw [ofSeedHex, ← Hex.spelling, if_neg (not_not_intro h),
    FixedBytes.ofHex_eq_of_decode_eq (Hex.decode_normalize text)]
  cases (FixedBytes.ofHex "seed" text : Except ValueError Seed) <;> rfl

/-- A key pair is read from the spellings of its seed. -/
theorem ofSeedHex_eq_ok_iff {text : String} {pair : KeyPair} :
    ofSeedHex text = .ok pair ↔ pair.seed.IsSpelledBy text := by
  by_cases hlength : (Hex.spelling text).length = 64
  · rw [ofSeedHex_of_length_eq hlength, Except.mapError_eq_ok_iff, Except.map_eq_ok_iff]
    constructor
    · rintro ⟨seed, hread, rfl⟩
      exact FixedBytes.ofHex_eq_ok_iff.mp hread
    · intro h
      exact ⟨pair.seed, FixedBytes.ofHex_eq_ok_iff.mpr h, ext rfl⟩
  · rw [ofSeedHex_of_length_ne hlength]
    constructor
    · intro h
      cases h
    · intro h
      have hbytes := Hex.length_spelling h
      rw [pair.seed.length_toList] at hbytes
      exact absurd hbytes hlength

/-- A text is refused for the length of its normal spelling, or else for its first byte that is no
digit. -/
theorem ofSeedHex_eq_error_iff {text : String} {error : KeyError} :
    ofSeedHex text = .error error ↔
      ((Hex.spelling text).length ≠ 64 ∧
        error = .invalidSeed (lengthReason (Hex.spelling text).length)) ∨
      ((Hex.spelling text).length = 64 ∧ ∃ byte position,
        Hex.FirstNonDigit (Hex.spelling text) byte position ∧
          error = .invalidSeed (digitReason byte position)) := by
  by_cases hlength : (Hex.spelling text).length = 64
  · rw [ofSeedHex_of_length_eq hlength, Except.mapError_eq_error_iff]
    simp only [Except.map_eq_error_iff, FixedBytes.ofHex_eq_error_iff_of_length_eq hlength, hlength,
      ne_eq, not_true_eq_false, false_and, false_or, true_and]
    constructor
    · rintro ⟨cause, ⟨byte, position, hfirst, rfl⟩, rfl⟩
      exact ⟨byte, position, hfirst, rfl⟩
    · rintro ⟨byte, position, hfirst, rfl⟩
      exact ⟨_, ⟨byte, position, hfirst, rfl⟩, rfl⟩
  · rw [ofSeedHex_of_length_ne hlength]
    simp [hlength, eq_comm]

/-- A reason that is neither of these two is never given. -/
theorem ofSeedHex_ne_error {reason : String} (hlength : ∀ length, lengthReason length ≠ reason)
    (hdigit : ∀ byte position, digitReason byte position ≠ reason) (text : String) :
    ofSeedHex text ≠ .error (.invalidSeed reason) := by
  intro h
  rcases ofSeedHex_eq_error_iff.mp h with ⟨-, herror⟩ | ⟨-, byte, position, -, herror⟩
  · exact hlength _ (KeyError.invalidSeed.inj herror).symm
  · exact hdigit byte position (KeyError.invalidSeed.inj herror).symm

/-- A wrong length is told with this beginning. -/
theorem take_toList_lengthReason (length : Nat) :
    (lengthReason length).toList.take 9 = "expected ".toList := by
  unfold lengthReason
  dsimp only [toString]
  rw [String.toList_append]
  rfl

end KeyPair

namespace ValueError

/-- A fault in hexadecimal text is told with this beginning. -/
theorem take_toList_message_invalidHex (reason : String) :
    (invalidHex reason).message.toList.take 9 = "invalid h".toList := by
  unfold message
  dsimp only [toString]
  rw [String.toList_append]
  rfl

/-- A wrong number of bytes of a seed is told with this beginning. -/
theorem take_toList_message_invalidLength (expected actual : Nat) :
    (invalidLength "seed" expected actual).message.toList.take 9 = "invalid s".toList := by
  unfold message
  dsimp only [toString]
  simp only [String.toList_append, List.append_assoc]
  rfl

/-- Faults in hexadecimal text with different wordings are told differently. -/
theorem message_invalidHex_injective {reason reason' : String}
    (h : (invalidHex reason).message = (invalidHex reason').message) : reason = reason' := by
  unfold message at h
  dsimp only [toString] at h
  exact (String.append_right_inj _).mp h

end ValueError

namespace KeyPair

/-- A wrong length is told unlike a fault in hexadecimal text. -/
theorem lengthReason_ne_message_invalidHex (length : Nat) (reason : String) :
    lengthReason length ≠ (ValueError.invalidHex reason).message :=
  Text.ne_of_take_toList_ne (take_toList_lengthReason length)
    (ValueError.take_toList_message_invalidHex reason) (by decide)

/-- It is told unlike a wrong number of bytes. -/
theorem lengthReason_ne_message_invalidLength (length expected actual : Nat) :
    lengthReason length ≠ (ValueError.invalidLength "seed" expected actual).message :=
  Text.ne_of_take_toList_ne (take_toList_lengthReason length)
    (ValueError.take_toList_message_invalidLength expected actual) (by decide)

/-- A byte that is no digit is told unlike an odd number of bytes. -/
theorem digitReason_ne_message_oddLength (byte : UInt8) (position : Nat) :
    digitReason byte position ≠ (ValueError.invalidHex Hex.Fault.oddLength.message).message := by
  intro h
  exact Hex.Fault.message_badDigit_ne_message_oddLength byte position
    (ValueError.message_invalidHex_injective h)

/-- It is told unlike a wrong number of bytes. -/
theorem digitReason_ne_message_invalidLength (byte : UInt8) (position expected actual : Nat) :
    digitReason byte position ≠ (ValueError.invalidLength "seed" expected actual).message :=
  Text.ne_of_take_toList_ne (ValueError.take_toList_message_invalidHex _)
    (ValueError.take_toList_message_invalidLength expected actual) (by decide)

/-- The text of a seed is accepted just when 32 bytes are read from it, and then the key pair holds
them. Otherwise its normal spelling has another length than 64 bytes, which is told, or its first
byte that is no digit is told with its place; that a text of the right length has an odd number of
digits, or spells another number of bytes, is never told, since it cannot be. Hence two texts of the
same wrong length are refused alike, and so are two texts of the right length with the same first
byte that is no digit at the same place: the error tells nothing else of what was typed. -/
theorem seed_refusals_tell_no_more (text : String) :
    (∀ pair, ofSeedHex text = .ok pair ↔ FixedBytes.ofHex "seed" text = .ok pair.seed) ∧
    ((∃ pair, ofSeedHex text = .ok pair) ↔
      ∃ seed : Seed, FixedBytes.ofHex "seed" text = .ok seed) ∧
    (∀ error, ofSeedHex text = .error error ↔
      ((Hex.spelling text).length ≠ 64 ∧
        error = .invalidSeed (lengthReason (Hex.spelling text).length)) ∨
      ((Hex.spelling text).length = 64 ∧ ∃ byte position,
        Hex.FirstNonDigit (Hex.spelling text) byte position ∧
          error = .invalidSeed (digitReason byte position))) ∧
    ofSeedHex text ≠
      .error (.invalidSeed (ValueError.invalidHex Hex.Fault.oddLength.message).message) ∧
    (∀ expected actual, ofSeedHex text ≠
      .error (.invalidSeed (ValueError.invalidLength "seed" expected actual).message)) ∧
    (∀ other, (Hex.spelling text).length ≠ 64 →
      (Hex.spelling other).length = (Hex.spelling text).length →
        ofSeedHex other = ofSeedHex text) ∧
    (∀ other byte position, (Hex.spelling text).length = 64 → (Hex.spelling other).length = 64 →
      Hex.FirstNonDigit (Hex.spelling text) byte position →
      Hex.FirstNonDigit (Hex.spelling other) byte position →
        ofSeedHex other = ofSeedHex text) := by
  refine ⟨?_, ?_, ?_, ?_, ?_, ?_, ?_⟩
  · intro pair
    rw [ofSeedHex_eq_ok_iff, FixedBytes.ofHex_eq_ok_iff]
  · simp only [ofSeedHex_eq_ok_iff, FixedBytes.ofHex_eq_ok_iff]
    constructor
    · rintro ⟨pair, h⟩
      exact ⟨pair.seed, h⟩
    · rintro ⟨seed, h⟩
      exact ⟨ofSeed seed, h⟩
  · intro error
    exact ofSeedHex_eq_error_iff
  · exact ofSeedHex_ne_error (fun length => lengthReason_ne_message_invalidHex length _)
      digitReason_ne_message_oddLength text
  · intro expected actual
    exact ofSeedHex_ne_error
      (fun length => lengthReason_ne_message_invalidLength length expected actual)
      (fun byte position => digitReason_ne_message_invalidLength byte position expected actual) text
  · intro other hlength hsame
    have hother : (Hex.spelling other).length ≠ 64 := by rwa [hsame]
    rw [ofSeedHex_of_length_ne hlength, ofSeedHex_of_length_ne hother, hsame]
  · intro other byte position hlength hlength' hfirst hfirst'
    have herror : ofSeedHex text = .error (.invalidSeed (digitReason byte position)) :=
      ofSeedHex_eq_error_iff.mpr (Or.inr ⟨hlength, byte, position, hfirst, rfl⟩)
    have herror' : ofSeedHex other = .error (.invalidSeed (digitReason byte position)) :=
      ofSeedHex_eq_error_iff.mpr (Or.inr ⟨hlength', byte, position, hfirst', rfl⟩)
    exact herror'.trans herror.symm

/-- A seed of zeros with a wrong second digit. -/
def wrongSecondDigit : String :=
  "0g00000000000000000000000000000000000000000000000000000000000000"

/-- Another text with the same wrong second digit, in groups and with more that is wrong. -/
def wrongFromSecondDigit : String :=
  "fg?????????????? \u00e9\u00e9\u00e9\u00e9zzzzzzzz gggggggggggggggg zzzzzzzzzzzzz\u00a0 0"

/-- Two texts of five bytes are refused alike, and so are the two texts with a wrong second digit,
which is all that is told of them. -/
theorem seed_refusals_tell_no_more_secondDigit :
    ofSeedHex " 12 3\u00e9" = ofSeedHex "abcde" ∧
    ofSeedHex wrongFromSecondDigit = ofSeedHex wrongSecondDigit ∧
    ofSeedHex wrongSecondDigit =
      .error (.invalidSeed "invalid hex: Invalid character 'g' at position 1") := by
  have hlength : (Hex.spelling wrongSecondDigit).length = 64 := by decide +kernel
  have hfirst : Hex.FirstNonDigit (Hex.spelling wrongSecondDigit) 0x67 1 := by
    decide +kernel
  have hfirst' : Hex.FirstNonDigit (Hex.spelling wrongFromSecondDigit) 0x67 1 := by
    decide +kernel
  obtain ⟨-, -, herror, -, -, -, hsamePlace⟩ := seed_refusals_tell_no_more wrongSecondDigit
  obtain ⟨-, -, -, -, -, hsameLength, -⟩ := seed_refusals_tell_no_more "abcde"
  refine ⟨hsameLength _ (by decide +kernel) (by decide +kernel), ?_, ?_⟩
  · exact hsamePlace _ 0x67 1 hlength (by decide +kernel) hfirst hfirst'
  · exact (herror _).mpr (Or.inr ⟨hlength, 0x67, 1, hfirst, by decide +kernel⟩)

end KeyPair

end OfflineSigner
