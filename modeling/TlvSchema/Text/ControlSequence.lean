/-!
# Control sequences

A terminal takes some characters for orders, such as to change the colour: control characters, and the
sequences that an escape character starts.  What is left of a text without them is its plain text.

White space within a sequence is not part of it.  It is shown, and so is what follows it up to the next
control character; from there the sequence goes on.

* `Mode` — what the characters so far have started
* `Mode.next` — one more character
* `plain` — the plain text
-/

namespace TlvSchema.Text

/-! ### Kinds of characters -/

/-- White space that is also a control character. -/
def isBlankControl (c : Char) : Bool := c == '\t' || c == '\n' || c == '\x0c' || c == '\r'

/-- The character is beyond ASCII. -/
def isBeyondAscii (c : Char) : Bool := 0x80 ≤ c.toNat

/-- The character is shown where no sequence has been started. -/
def isShown (c : Char) : Bool :=
  isBlankControl c || isBeyondAscii c || (0x20 ≤ c.toNat && c.toNat < 0x7F)

/-- The code of the character lies between two others. -/
def isFrom (first last : Nat) (c : Char) : Bool := first ≤ c.toNat && c.toNat ≤ last

/-- The encoding of the character has the byte `9C`, which ends a string of a terminal. -/
def hasStringEnd (c : Char) : Bool :=
  isBeyondAscii c &&
    (c.toNat % 64 == 0x1C || (0x800 ≤ c.toNat && c.toNat / 64 % 64 == 0x1C) ||
      (0x10000 ≤ c.toNat && c.toNat / 4096 % 64 == 0x1C))

/-! ### Sequences -/

/-- What the characters so far have started. -/
inductive Mode where
  /-- No sequence. -/
  | text
  /-- An escape character. -/
  | escape
  /-- An escape character with further marks. -/
  | escapeMarks
  /-- A sequence with parameters, such as the one for a colour. -/
  | control
  /-- An order for a device. -/
  | device
  /-- An order for a device with parameters. -/
  | deviceParameters
  /-- An order for a device with further marks. -/
  | deviceMarks
  /-- A string for a device, or one that is ignored. -/
  | string
  /-- A string for the system, such as the title of a window. -/
  | title
deriving DecidableEq, Repr

namespace Mode

/-- White space is shown within the sequence. -/
def showsBlanks : Mode → Bool
  | .text | .escape | .escapeMarks | .control => true
  | .device | .deviceParameters | .deviceMarks | .string | .title => false

/-- What the character after an escape character starts. -/
def afterEscape (c : Char) : Mode :=
  if c = '[' then .control
  else if c = ']' then .title
  else if c = 'P' then .device
  else if c = 'X' ∨ c = '^' ∨ c = '_' then .string
  else if isFrom 0x20 0x2F c then .escapeMarks
  else if isFrom 0x30 0x7E c then .text
  else .escape

/-- What has been started after one more character that is not shown. -/
def next (mode : Mode) (c : Char) : Mode :=
  if c = '\x18' ∨ c = '\x1a' then .text
  else if c = '\x1b' then .escape
  else match mode with
    | .text => .text
    | .escape => afterEscape c
    | .escapeMarks => if isFrom 0x30 0x7E c then .text else .escapeMarks
    | .control => if isFrom 0x40 0x7E c then .text else .control
    | .device =>
      if isFrom 0x20 0x2F c then .deviceMarks
      else if c = ':' ∨ isFrom 0x40 0x7E c then .string
      else if isFrom 0x30 0x3F c then .deviceParameters
      else .device
    | .deviceParameters =>
      if isFrom 0x20 0x2F c then .deviceMarks
      else if c = ':' ∨ isFrom 0x3C 0x7E c then .string
      else .deviceParameters
    | .deviceMarks => if isFrom 0x30 0x7E c then .string else .deviceMarks
    | .string => if hasStringEnd c then .text else .string
    | .title => if c = '\x07' then .text else .title

end Mode

/-! ### Plain text -/

/-- What is shown of the rest of a text.  In a sequence, `showing` tells that it has been interrupted by
white space; a character beyond ASCII ends such a sequence. -/
def plainFrom : (mode : Mode) → (showing : Bool) → List Char → List Char
  | _, _, [] => []
  | mode, showing, c :: cs =>
    if ((mode == .text || showing) && isShown c) || (mode.showsBlanks && isBlankControl c) then
      c :: plainFrom (if isBeyondAscii c then .text else mode) true cs
    else plainFrom (mode.next c) false cs

/-- The text without control characters, except for white space, and without control sequences. -/
def plain (text : String) : String := String.ofList (plainFrom .text true text.toList)

end TlvSchema.Text
