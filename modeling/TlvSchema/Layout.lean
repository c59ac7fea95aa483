/-!
# Layout of documents

A document is text with places at which a line may end.  It is laid out within a width: a group goes
on one line if it fits there together with what follows it on that line, and is broken at its soft
lines otherwise.

* `Doc` — documents
* `Doc.block`, `Doc.separate` — common arrangements
* `Doc.pieces` — the pieces of a document, as they are handed to a writer one after the other
* `Doc.render` — the text of a document
-/

namespace TlvSchema

/-- Text with places at which a line may end. -/
inductive Doc where
  /-- The empty document. -/
  | nil
  /-- A text that stays in one piece. -/
  | text (s : String)
  /-- The end of a line. -/
  | hardLine
  /-- A space, or the end of a line where the group around it is broken. -/
  | softLine
  /-- One document after another. -/
  | append (first second : Doc)
  /-- A document whose further lines are indented by so many columns more. -/
  | nest (columns : Nat) (inner : Doc)
  /-- A document that goes on one line if it fits. -/
  | group (inner : Doc)
deriving Repr, Inhabited

namespace Doc

instance : Append Doc := ⟨append⟩

/-! ### Arrangements -/

/-- The documents with another one between each two of them. -/
def separate (separator : Doc) : List Doc → Doc
  | [] => nil
  | [d] => d
  | d :: ds => d ++ separator ++ separate separator ds

/-- A header with indented lines between braces. -/
def block (columns : Nat) (header : Doc) : List Doc → Doc
  | [] => header ++ text " \x7b\x7d"
  | line :: lines =>
    header ++ text " \x7b" ++ nest columns (hardLine ++ separate hardLine (line :: lines)) ++
      hardLine ++ text "\x7d"

/-! ### Fitting -/

/-- The document contains the end of a line. -/
def hasHardLine : Doc → Bool
  | nil | text _ | softLine => false
  | hardLine => true
  | append first second => first.hasHardLine || second.hasHardLine
  | nest _ inner => inner.hasHardLine
  | group inner => inner.hasHardLine

/-- How many columns a document takes up to its first end of a line, and whether there is one.  In a
flat document soft lines are spaces. -/
def reach (flat : Bool) : Doc → Nat × Bool
  | nil => (0, false)
  | text s => (s.length, false)
  | hardLine => (0, true)
  | softLine => if flat then (1, false) else (0, true)
  | append first second =>
    let r := first.reach flat
    if r.2 then r else (r.1 + (second.reach flat).1, (second.reach flat).2)
  | nest _ inner => inner.reach flat
  | group inner => inner.reach true

/-- How many columns follow on the line after a document, given how many follow after the next one. -/
def following (flat : Bool) (next : Doc) (after : Nat) : Nat :=
  let r := next.reach flat
  if r.2 then r.1 else r.1 + after

/-- So many columns fit into the width; any number does if there is no width. -/
def fits (width : Option Nat) (columns : Nat) : Bool := width.all (columns ≤ ·)

/-! ### Rendering -/

/-- The end of a line and the indentation of the next one. -/
def lineBreak (indent : Nat) : String := "\n" ++ String.ofList (List.replicate indent ' ')

/-- The pieces of the end of a line: the indentation, if there is any, is a piece of its own. -/
def breakPieces (indent : Nat) : List String :=
  "\n" :: if indent = 0 then [] else [String.ofList (List.replicate indent ' ')]

/-- The pieces of a document and the column at which it ends.  The document starts at `column`, its
further lines are indented to `indent`, and `after` columns follow it on its last line. -/
def layOut (width : Option Nat) :
    Doc → (flat : Bool) → (indent after column : Nat) → List String × Nat
  | nil, _, _, _, column => ([], column)
  | text s, _, _, _, column => ([s], column + s.length)
  | hardLine, _, indent, _, _ => (breakPieces indent, indent)
  | softLine, flat, indent, _, column =>
    if flat then ([" "], column + 1) else (breakPieces indent, indent)
  | append first second, flat, indent, after, column =>
    let a := first.layOut width flat indent (following flat second after) column
    let b := second.layOut width flat indent after a.2
    (a.1 ++ b.1, b.2)
  | nest columns inner, flat, indent, after, column =>
    inner.layOut width flat (indent + columns) after column
  | group inner, flat, indent, after, column =>
    let fitting := !inner.hasHardLine && fits width (column + (inner.reach true).1 + after)
    inner.layOut width (flat || fitting) indent after column

/-- The pieces of a document within a width. -/
def pieces (width : Option Nat) (d : Doc) : List String := (d.layOut width false 0 0 0).1

/-- The text of a document within a width. -/
def render (width : Option Nat) (d : Doc) : String := String.join (d.pieces width)

end Doc

end TlvSchema
