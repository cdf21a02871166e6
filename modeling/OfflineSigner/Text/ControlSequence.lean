/-!
# Texts without control sequences

A message may repeat what a user typed, and that may hold controls: single ones, or sequences that
begin with the escape character and tell a terminal to change colours or to set a title. A message
is shown without them. White space interrupts a sequence, unless the sequence is a string: it is
shown with the text behind it, and the next control takes the sequence up again where it stood. A
text in which every character can be shown is left as it is.
-/

namespace OfflineSigner.Text

/-- Where in a text with control sequences a character stands. -/
inductive ControlState where
  | outside
  /-- Behind the escape character. -/
  | opened
  /-- In a sequence of the short form, which its first character from `0` on ends. -/
  | short
  /-- In a sequence with parameters, which its first character from `@` on ends. -/
  | parametric
  /-- At the beginning of a device string. -/
  | device
  /-- In the parameters of a device string. -/
  | deviceParameters
  /-- Behind the parameters of a device string. -/
  | deviceSuffix
  /-- In a string that only its terminator ends. -/
  | body
  /-- In a string that the bell ends, such as a title. -/
  | title
deriving DecidableEq

/-- The controls that are white space and so can be shown. -/
def isShownControl (c : Char) : Bool :=
  c == '\t' || c == '\n' || c == '\x0c' || c == '\r'

namespace ControlState

/-- Whether a character is shown that stands in a state. -/
def shows : ControlState → Char → Bool
  | outside, c => isShownControl c || (' ' ≤ c && c != '\x7f')
  | opened, c => isShownControl c
  | short, c => isShownControl c
  | parametric, c => isShownControl c
  | _, _ => false

/-- What the character behind the escape character begins. -/
def openedBy (c : Char) : ControlState :=
  if c == '[' then parametric
  else if c == ']' then title
  else if c == 'P' then device
  else if c == 'X' || c == '^' || c == '_' then body
  else if ' ' ≤ c && c ≤ '/' then short
  else if '0' ≤ c && c ≤ '~' then outside
  else opened

/-- The state behind a character of a device string whose body has not begun; the parameters that
may stand there are the characters from `0` to `lastParameter`. -/
def deviceNext (state : ControlState) (lastParameter c : Char) : ControlState :=
  if ' ' ≤ c && c ≤ '/' then deviceSuffix
  else if '0' ≤ c && c ≤ lastParameter then deviceParameters
  else if '0' ≤ c && c ≤ '~' then body
  else state

/-- The state behind a character that is not shown. -/
def next (state : ControlState) (c : Char) : ControlState :=
  if c == '\x1b' then opened
  else if c == '\x18' || c == '\x1a' then outside
  else
    match state with
    | outside => outside
    | opened => openedBy c
    | short => if '0' ≤ c && c ≤ '~' then outside else short
    | parametric => if '@' ≤ c && c ≤ '~' then outside else parametric
    | device => device.deviceNext '?' c
    | deviceParameters => deviceParameters.deviceNext ';' c
    | deviceSuffix => deviceSuffix.deviceNext '/' c
    | body => if (String.utf8EncodeChar c).contains 0x9c then outside else body
    | title => if c == '\x07' then outside else title

/-- The state behind a character that is shown: one beyond ASCII ends an interrupted sequence. -/
def behindShown (state : ControlState) (c : Char) : ControlState :=
  if c.toNat < 128 then state else outside

end ControlState

/-- The characters that are shown of those that begin in a state; `interrupted` tells whether they
continue a shown text. -/
def shown (interrupted : Bool) (state : ControlState) : List Char → List Char
  | [] => []
  | c :: rest =>
    if (if interrupted then ControlState.outside else state).shows c then
      c :: shown true (state.behindShown c) rest
    else shown false (state.next c) rest

/-- A text as it is shown. -/
def withoutControls (text : String) : String :=
  String.ofList (shown true .outside text.toList)

end OfflineSigner.Text
