/-!
# The UTF-8 bytes of a text

Text is signed, measured and checked through its UTF-8 bytes. `utf8` lists them character by
character, so that a statement about bytes becomes one about single characters.
-/

namespace OfflineSigner

/-- The UTF-8 bytes of a text. -/
def utf8 (text : String) : List UInt8 :=
  text.toList.flatMap String.utf8EncodeChar

/-- The text whose UTF-8 bytes these are; none when they are not well formed. -/
def ofUtf8? (bytes : List UInt8) : Option String :=
  String.fromUTF8? ⟨bytes.toArray⟩

end OfflineSigner
