/-!
# Identifiers

Identifiers are derived from the words of a name.  A word is a run of ASCII letters and digits;
every other character ends a word, so that the name `Msg A-B  Input` has the words `Msg`, `A`, `B`
and `Input`.

* `words` — the words of a name
* `camel`, `snake`, `screaming` — the three spellings of an identifier
* `wireTagSymbol` — the name of the constant that holds a field's wire tag
-/

namespace TlvSchema.Identifier

/-! ### Words -/

/-- Put the word before the others unless it is empty. -/
def closeWord (word : List Char) (later : List (List Char)) : List (List Char) :=
  if word.isEmpty then later else word :: later

/-- The word that the head of a text belongs to, and the words after it. -/
def splitWord : List Char → List Char × List (List Char)
  | [] => ([], [])
  | c :: cs =>
    let split := splitWord cs
    if c.isAlphanum then (c :: split.1, split.2) else ([], closeWord split.1 split.2)

/-- The words of a text: its maximal runs of ASCII letters and digits. -/
def words (cs : List Char) : List (List Char) :=
  closeWord (splitWord cs).1 (splitWord cs).2

/-- Identifiers can be derived from a name that has at least one word. -/
def hasWords (name : String) : Bool := !(words name.toList).isEmpty

/-! ### Spellings -/

/-- The word with its first letter in upper case and the others in lower case. -/
def capitalize : List Char → List Char
  | [] => []
  | c :: cs => c.toUpper :: cs.map Char.toLower

/-- The capitalized words in a row: `Msg A Input` becomes `MsgAInput`. -/
def camel (name : String) : String :=
  String.ofList ((words name.toList).map capitalize).flatten

/-- The words in lower case, joined by underscores: `Msg A Input` becomes `msg_a_input`. -/
def snake (name : String) : String :=
  String.ofList (List.intercalate ['_'] ((words name.toList).map (List.map Char.toLower)))

/-- The words in upper case, joined by underscores: `Msg A Input` becomes `MSG_A_INPUT`. -/
def screaming (name : String) : String :=
  String.ofList (List.intercalate ['_'] ((words name.toList).map (List.map Char.toUpper)))

/-- The name of the constant for a field's wire tag: the field `Foo` of `Msg A Input` has
`MSG_A_INPUT_TLV_FOO`. -/
def wireTagSymbol (container field : String) : String :=
  screaming (container ++ " TLV " ++ field)

end TlvSchema.Identifier
