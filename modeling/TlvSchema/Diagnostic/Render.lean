import TlvSchema.Diagnostic
import TlvSchema.Text.DisplayWidth
import TlvSchema.Text.Line

/-!
# Rendering of diagnostics

A diagnostic is rendered with its message, the line that its label points into with a caret below the
place, and its notes.  The text is made piece by piece, as it is handed to a writer that may refuse a
piece.

* `Diagnostic.pieces` — the pieces
* `Diagnostic.render` — the whole text
-/

namespace TlvSchema

namespace Diagnostic

/-! ### Columns -/

/-- Tabs go on to the next multiple of so many columns. -/
def tabWidth : Nat := 4

/-- A character of a line. -/
structure Cell where
  /-- The character. -/
  char : Char
  /-- The offset of its first byte in the line. -/
  offset : Nat
  /-- The number of columns that it takes. -/
  width : Nat

/-- The number of columns that a character takes when it starts at a column. -/
def widthAt (column : Nat) (c : Char) : Nat :=
  if c = '\t' then tabWidth - column % tabWidth else Text.displayWidth c

/-- The characters of a line from an offset and a column on. -/
def cellsFrom (offset column : Nat) : List Char → List Cell
  | [] => []
  | c :: cs =>
    let width := widthAt column c
    ⟨c, offset, width⟩ :: cellsFrom (offset + c.utf8Size) (column + width) cs

/-- The line as it is shown: without line ends and null characters at its end. -/
def shownChars (cs : List Char) : List Char :=
  (cs.reverse.dropWhile fun c => c == '\n' || c == '\r' || c == '\x00').reverse

/-! ### Pieces of lines -/

/-- So many spaces, one by one. -/
def spaces (count : Nat) : List String := List.replicate count " "

/-- The margin of a line without a number. -/
def margin (digits : Nat) : List String := spaces digits ++ [" "]

/-- The pieces of a character of the source. -/
def sourcePieces (cell : Cell) : List String :=
  if cell.char = '\t' then spaces cell.width else [String.singleton cell.char]

/-- The pieces below a character: carets where the label is, and spaces before it. -/
def caretPieces (start : Nat) (cell : Cell) : List String :=
  if cell.offset ≤ start ∧ start < cell.offset + cell.char.utf8Size then
    List.replicate cell.width "^"
  else if cell.offset ≤ start then spaces cell.width
  else []

/-- The pieces below a line.  A label may lie just after the last character that is shown. -/
def caretLine (start : Nat) (shown : List Char) : List String :=
  let after : Cell := ⟨'\x00', Text.byteLength shown, 1⟩
  (cellsFrom 0 0 shown ++ [after]).flatMap (caretPieces start)

/-- The number of characters of a line that end within so many bytes. -/
def charsWithin : (bytes : Nat) → List Char → Nat
  | _, [] => 0
  | bytes, c :: cs => if bytes < c.utf8Size then 0 else charsWithin (bytes - c.utf8Size) cs + 1

/-! ### Parts of diagnostics -/

/-- The pieces of the first line. -/
def headerPieces (d : Diagnostic) : List String := [d.severity.text, ": ", d.message, "\n"]

/-- The number of digits of the number of the line with an index. -/
def numberWidth (index : Nat) : Nat := (toString (index + 1)).length

/-- The pieces of a label. -/
def labelPieces (l : Label) : List String :=
  let lines := Text.lines l.source.text.toList
  let index := Text.lineIndex lines l.offset
  let line := lines.getD index ⟨0, []⟩
  let shown := shownChars line.chars
  let start := l.offset - line.start
  let number := toString (index + 1)
  let column := toString (charsWithin start line.chars + 1)
  let margin := margin (numberWidth index)
  margin ++ ["┌─", " ", l.source.name, ":", number, ":", column, "\n"] ++
    margin ++ ["│", "\n"] ++
    [number, " ", "│", " "] ++ (cellsFrom 0 0 shown).flatMap sourcePieces ++ ["\n"] ++
    margin ++ ["│", " "] ++ caretLine start shown ++ [" ", l.message, "\n"]

/-- The number of columns before the bars and bullets of a diagnostic. -/
def marginWidth (d : Diagnostic) : Nat :=
  match d.label with
  | none => 0
  | some l => numberWidth (Text.lineIndex (Text.lines l.source.text.toList) l.offset)

/-- The pieces of a note, whose first row is marked. -/
def notePieces (digits : Nat) (note : String) : List String :=
  (Text.rows note.toList).zipIdx.flatMap fun row =>
    margin digits ++ [if row.2 = 0 then "=" else " ", " ", String.ofList row.1, "\n"]

/-- The pieces of a diagnostic. -/
def pieces (d : Diagnostic) : List String :=
  d.headerPieces ++ d.label.elim [] labelPieces ++ d.notes.flatMap (notePieces d.marginWidth) ++
    ["\n"]

/-- The text of a diagnostic. -/
def render (d : Diagnostic) : String := String.join d.pieces

end Diagnostic

end TlvSchema
