/-!
# White space at the ends of a text

The blank characters are those with the Unicode property White_Space: the ASCII controls from tab
to carriage return, the space, and the wider spaces and line separators.
-/

namespace OfflineSigner.Text

/-- Whether a character has the Unicode property White_Space. -/
def isBlank (c : Char) : Bool :=
  let code := c.toNat
  (0x09 ≤ code && code ≤ 0x0d) || code == 0x20 || code == 0x85 || code == 0xa0 || code == 0x1680 ||
    (0x2000 ≤ code && code ≤ 0x200a) || code == 0x2028 || code == 0x2029 || code == 0x202f ||
    code == 0x205f || code == 0x3000

/-- Removes the blank characters at both ends of a list of characters. -/
def trimBlanks (chars : List Char) : List Char :=
  ((chars.dropWhile isBlank).reverse.dropWhile isBlank).reverse

/-- A text without the blank characters at its ends. -/
def trim (text : String) : String :=
  String.ofList (trimBlanks text.toList)

/-- A letter from A to Z as its lower-case letter, and every other character as it is. -/
def lowerAscii (c : Char) : Char :=
  if 'A' ≤ c && c ≤ 'Z' then Char.ofNat (c.toNat + 32) else c

/-- A text with the letters from A to Z in lower case. -/
def toLowerAscii (text : String) : String :=
  String.ofList (text.toList.map lowerAscii)

end OfflineSigner.Text
