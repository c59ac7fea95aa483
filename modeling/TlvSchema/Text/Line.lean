/-!
# Lines and positions

A place in a text is known by its offset in bytes of UTF-8, or by its line and column.

* `Position` — a line and a column
* `positionAt` — the position of an offset
* `Line` — a line of a text with the offset at which it starts
* `lines` — the lines of a text; every line but the last ends with its line feed
-/

namespace TlvSchema.Text

/-- The number of bytes of a text. -/
def byteLength : List Char → Nat
  | [] => 0
  | c :: cs => c.utf8Size + byteLength cs

/-! ### Positions -/

/-- A place in a text. -/
structure Position where
  /-- The number of line feeds before the place, and one more. -/
  line : Nat
  /-- The number of bytes between the start of the line and the place. -/
  column : Nat
deriving DecidableEq, Repr, Inhabited

/-- The position after a character. -/
def Position.after (p : Position) (c : Char) : Position :=
  if c = '\n' then ⟨p.line + 1, 0⟩ else ⟨p.line, p.column + c.utf8Size⟩

/-- The position that lies `offset` bytes on from `p`; the end of the text if it is shorter. -/
def positionFrom (p : Position) : List Char → (offset : Nat) → Position
  | [], _ => p
  | c :: cs, offset =>
    if offset < c.utf8Size then ⟨p.line, p.column + offset⟩
    else positionFrom (p.after c) cs (offset - c.utf8Size)

/-- The position of an offset. -/
def positionAt (cs : List Char) (offset : Nat) : Position := positionFrom ⟨1, 0⟩ cs offset

/-! ### Lines -/

/-- A line of a text. -/
structure Line where
  /-- The offset of the line's first byte. -/
  start : Nat
  /-- The characters of the line, with the line feed at its end. -/
  chars : List Char
deriving DecidableEq, Repr, Inhabited

/-- The offset of the byte after the line. -/
def Line.stop (l : Line) : Nat := l.start + byteLength l.chars

/-- Put a character in front of the first line. -/
def consChar (start : Nat) (c : Char) : List Line → List Line
  | [] => [⟨start, [c]⟩]
  | l :: ls => ⟨start, c :: l.chars⟩ :: ls

/-- The lines of a text that starts at an offset. -/
def linesFrom (start : Nat) : List Char → List Line
  | [] => [⟨start, []⟩]
  | c :: cs =>
    if c = '\n' then ⟨start, [c]⟩ :: linesFrom (start + 1) cs
    else consChar start c (linesFrom (start + c.utf8Size) cs)

/-- The lines of a text, at least one. -/
def lines (cs : List Char) : List Line := linesFrom 0 cs

/-- The number of the line that an offset lies in, counted from zero: the last line that starts at
or before it. -/
def lineIndex (ls : List Line) (offset : Nat) : Nat :=
  (ls.countP fun l => l.start ≤ offset) - 1

/-- Put a character in front of the first row. -/
def consRow (c : Char) : List (List Char) → List (List Char)
  | [] => [[c]]
  | r :: rs => (c :: r) :: rs

/-- The rows of a message: its lines without the line feeds, and without a carriage return before
one.  A line feed at the end does not open a further row. -/
def rows : List Char → List (List Char)
  | [] => []
  | '\n' :: cs => [] :: rows cs
  | '\r' :: '\n' :: cs => [] :: rows cs
  | c :: cs => consRow c (rows cs)

end TlvSchema.Text
